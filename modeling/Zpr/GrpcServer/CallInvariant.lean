import Zpr.GrpcServer.CallOwnership

namespace Zpr.GrpcServer

/-! # Ids and owners in every reachable state

An id stands for one RPC, and what `live` or a remover holds under it are the
ends of that RPC's own channels. -/

theorem Server.idAt_of_enteredAt {state : Server} {id : Nat}
    (entered : state.enteredAt index = some (id, ms)) : state.idAt index = some id := by
  rcases Option.bind_eq_some_iff.mp entered with ⟨rpc, known, entry⟩
  apply Option.bind_eq_some_iff.mpr
  refine ⟨rpc, known, ?_⟩
  cases arrival : rpc.arrival <;> simp_all [Arrival.entered?, Arrival.id?]

theorem SameCalls.exists_live {id : Nat} (unchanged : SameCalls state next)
    (held : next.queue.live.find? id = some call) :
    ∃ before, state.queue.live.find? id = some before ∧ before.handles = call.handles := by
  have same := unchanged.live id
  rw [held, Option.map_some, eq_comm, Option.map_eq_some_iff] at same
  exact same

/-- The channel ends of a call are those of the RPC that entered under its id. -/
structure Server.Owns (state : Server) (id : Nat) (call : LiveCall) : Prop where
  inbound : call.inbound_rx = call.outbound_tx
  entered : ∃ ms, state.enteredAt call.outbound_tx = some (id, ms)

theorem Server.Owns.mono {id : Nat} {next : Server} (owns : Server.Owns state id call)
    (entries : ∀ index entry, state.enteredAt index = some entry →
      next.enteredAt index = some entry) : next.Owns id call :=
  ⟨owns.inbound, owns.entered.imp fun _ entered => entries _ _ entered⟩

structure Server.Consistent (state : Server) : Prop where
  below : ∀ index id, state.idAt index = some id → id < state.queue.next_id
  distinct : ∀ first second id, state.idAt first = some id → state.idAt second = some id →
    first = second
  live : ∀ id call, state.queue.live.find? id = some call →
    state.Owns id call ∧ call.status_tx = some call.outbound_tx ∧ state.removed.find? id = none
  removed : ∀ id removal, state.removed.find? id = some removal →
    state.Owns id removal.call ∧ removal.call.status_tx =
      if removal.stage = .taken then some removal.call.outbound_tx else none

namespace Server.Consistent

theorem start : Server.start.Consistent where
  below index id drawn := by simp [Server.start, Server.idAt] at drawn
  distinct first second id drawn := by simp [Server.start, Server.idAt] at drawn
  live id call held := by simp [Server.start, CallQueue.new] at held
  removed id removal held := by simp [Server.start] at held

theorem absent_of_unowned {id : Nat} (consistent : Server.Consistent state)
    (unowned : ∀ call, ¬ state.Owns id call) :
    state.queue.live.find? id = none ∧ state.removed.find? id = none := by
  constructor
  · cases held : state.queue.live.find? id with
    | none => rfl
    | some call => exact absurd (consistent.live id call held).1 (unowned call)
  · cases held : state.removed.find? id with
    | none => rfl
    | some removal => exact absurd (consistent.removed id removal held).1 (unowned removal.call)

/-- Nobody holds a call of an RPC that is not in `live` yet. -/
theorem absent {id : Nat} (consistent : Server.Consistent state)
    (drawn : state.idAt index = some id) (outside : state.enteredAt index = none) :
    state.queue.live.find? id = none ∧ state.removed.find? id = none := by
  apply consistent.absent_of_unowned
  intro call owns
  rcases owns.entered with ⟨ms, entered⟩
  have same := consistent.distinct _ _ _ drawn (Server.idAt_of_enteredAt entered)
  rw [← same, outside] at entered
  cases entered

/-- Nor has anybody a call under an id that is still to be drawn. -/
theorem absent_of_le {id : Nat} (consistent : Server.Consistent state)
    (fresh : state.queue.next_id ≤ id) :
    state.queue.live.find? id = none ∧ state.removed.find? id = none := by
  apply consistent.absent_of_unowned
  intro call owns
  rcases owns.entered with ⟨ms, entered⟩
  have drawn := consistent.below _ _ (Server.idAt_of_enteredAt entered)
  omega

/-- A call that has been taken out of `live` is not there. -/
theorem not_live_of_removed {id : Nat} (consistent : Server.Consistent state)
    (held : state.removed.find? id = some removal) : state.queue.live.find? id = none := by
  cases live : state.queue.live.find? id with
  | none => rfl
  | some call =>
      have notRemoved := (consistent.live id call live).2.2
      rw [held] at notRemoved
      cases notRemoved

theorem of_sameIds {next : Server} (consistent : Server.Consistent state)
    (idAt : ∀ index, next.idAt index = state.idAt index)
    (next_id : next.queue.next_id = state.queue.next_id)
    (live : ∀ id call, next.queue.live.find? id = some call →
      next.Owns id call ∧ call.status_tx = some call.outbound_tx ∧ next.removed.find? id = none)
    (removed : ∀ id removal, next.removed.find? id = some removal →
      next.Owns id removal.call ∧ removal.call.status_tx =
        if removal.stage = .taken then some removal.call.outbound_tx else none) :
    next.Consistent where
  below index id drawn := by
    rw [next_id]
    rw [idAt] at drawn
    exact consistent.below index id drawn
  distinct first second id one two := by
    rw [idAt] at one two
    exact consistent.distinct first second id one two
  live := live
  removed := removed

theorem step_same (consistent : Server.Consistent state) (unchanged : SameCalls state next) :
    next.Consistent := by
  have entries := fun index entry (entered : state.enteredAt index = some entry) =>
    (unchanged.enteredAt index).trans entered
  apply consistent.of_sameIds unchanged.idAt unchanged.next_id
  · intro id call held
    rcases unchanged.exists_live held with ⟨before, heldBefore, handles⟩
    rcases consistent.live id before heldBefore with ⟨owns, status, notRemoved⟩
    simp only [LiveCall.handles, Prod.mk.injEq] at handles
    rcases handles with ⟨inbound, outbound, sender, _⟩
    refine ⟨⟨?_, ?_⟩, ?_, ?_⟩
    · rw [← inbound, ← outbound]
      exact owns.inbound
    · rw [← outbound]
      exact (owns.mono entries).entered
    · rw [← sender, ← outbound]
      exact status
    · rw [unchanged.removed]
      exact notRemoved
  · intro id removal held
    rw [unchanged.removed] at held
    rcases consistent.removed id removal held with ⟨owns, status⟩
    exact ⟨owns.mono entries, status⟩

theorem step_draws (consistent : Server.Consistent state) (drawn : DrawsId state next index) :
    next.Consistent := by
  have entries := fun index entry (entered : state.enteredAt index = some entry) =>
    (drawn.enteredAt index).trans entered
  refine ⟨fun other id held => ?_, fun first second id one two => ?_, fun id call held => ?_,
    fun id removal held => ?_⟩
  · rw [drawn.idAt] at held
    rw [drawn.next_id]
    split at held
    · cases held
      omega
    · have bound := consistent.below other id held
      omega
  · rw [drawn.idAt] at one two
    split at one
    · split at two
      · simp_all
      · cases one
        have bound := consistent.below second _ two
        omega
    · split at two
      · cases two
        have bound := consistent.below first _ one
        omega
      · exact consistent.distinct first second id one two
  · rw [drawn.live] at held
    rcases consistent.live id call held with ⟨owns, status, notRemoved⟩
    refine ⟨owns.mono entries, status, ?_⟩
    rw [drawn.removed]
    exact notRemoved
  · rw [drawn.removed] at held
    rcases consistent.removed id removal held with ⟨owns, status⟩
    exact ⟨owns.mono entries, status⟩

theorem step_enters {id : Nat} (consistent : Server.Consistent state)
    (entered : EntersLive state next index ms id) : next.Consistent := by
  have entries : ∀ other entry, state.enteredAt other = some entry →
      next.enteredAt other = some entry := by
    intro other entry before
    rw [entered.enteredAt]
    split
    · rename_i equal
      rw [equal, entered.outside] at before
      cases before
    · exact before
  apply consistent.of_sameIds entered.idAt entered.next_id
  · intro other call held
    rw [entered.live, IdMap.find?_insert] at held
    rw [entered.removed]
    split at held
    · rename_i equal
      subst equal
      cases held
      refine ⟨⟨rfl, ms, ?_⟩, rfl, (consistent.absent entered.drawn entered.outside).2⟩
      rw [entered.enteredAt]
      simp [LiveCall.admitted]
    · rcases consistent.live other call held with ⟨owns, status, notRemoved⟩
      exact ⟨owns.mono entries, status, notRemoved⟩
  · intro other removal held
    rw [entered.removed] at held
    rcases consistent.removed other removal held with ⟨owns, status⟩
    exact ⟨owns.mono entries, status⟩

theorem step_leaves {ids : List Nat} (consistent : Server.Consistent state)
    (left : LeavesLive state next remover outcome ids) : next.Consistent := by
  have entries := fun index entry (entered : state.enteredAt index = some entry) =>
    (left.enteredAt index).trans entered
  apply consistent.of_sameIds left.idAt left.next_id
  · intro id call held
    rw [left.live] at held
    rw [left.removed]
    split at held
    · cases held
    · rename_i notTaken
      rcases consistent.live id call held with ⟨owns, status, notRemoved⟩
      rw [if_neg notTaken]
      exact ⟨owns.mono entries, status, notRemoved⟩
  · intro id removal held
    rw [left.removed] at held
    split at held
    · rename_i member
      rcases left.held id member with ⟨call, heldBefore⟩
      rcases consistent.live id call heldBefore with ⟨owns, status, _⟩
      rw [heldBefore, Option.map_some, Option.some_or] at held
      cases held
      exact ⟨owns.mono entries, status⟩
    · rcases consistent.removed id removal held with ⟨owns, status⟩
      exact ⟨owns.mono entries, status⟩

theorem step_goesOn {id : Nat} (consistent : Server.Consistent state)
    (moved : RemoverGoesOn state next id removal) : next.Consistent := by
  have entries := fun index entry (entered : state.enteredAt index = some entry) =>
    (moved.enteredAt index).trans entered
  apply consistent.of_sameIds moved.idAt moved.next_id
  · intro other call held
    rw [moved.live] at held
    rcases consistent.live other call held with ⟨owns, status, notRemoved⟩
    refine ⟨owns.mono entries, status, ?_⟩
    rw [moved.removed]
    split
    · rename_i equal
      rw [equal, moved.held] at notRemoved
      cases notRemoved
    · exact notRemoved
  · intro other after held
    rw [moved.removed] at held
    split at held
    · rename_i equal
      subst equal
      rcases consistent.removed other removal moved.held with ⟨owns, status⟩
      cases stage : removal.stage with
      | taken =>
          simp only [Removed.next?, stage, Option.some.injEq] at held
          subst held
          exact ⟨⟨owns.inbound, (owns.mono entries).entered⟩, rfl⟩
      | answered =>
          simp only [Removed.next?, stage, Option.some.injEq] at held
          subst held
          exact ⟨owns.mono entries, by simpa [stage] using status⟩
      | counted => simp [Removed.next?, stage] at held
    · rcases consistent.removed other after held with ⟨owns, status⟩
      exact ⟨owns.mono entries, status⟩

theorem step (consistent : Server.Consistent state) (change : CallChange state next event) :
    next.Consistent := by
  cases change with
  | same unchanged => exact consistent.step_same unchanged
  | draws index drawn => exact consistent.step_draws drawn
  | enters index ms id entered => exact consistent.step_enters entered
  | leaves remover outcome ids left => exact consistent.step_leaves left
  | goesOn id removal moved => exact consistent.step_goesOn moved

/-- A call stays in `live` as it is until an event takes it out. -/
theorem live_stays {id : Nat} (consistent : Server.Consistent state)
    (change : CallChange state next event) (held : state.queue.live.find? id = some call)
    (notRemoved : removalsOf id event = []) :
    ∃ after, next.queue.live.find? id = some after ∧ after.handles = call.handles := by
  cases change with
  | same unchanged =>
      have same := unchanged.live id
      rw [held, Option.map_some, Option.map_eq_some_iff] at same
      exact same
  | draws index drawn => exact ⟨call, by rw [drawn.live, held], rfl⟩
  | enters index ms entering entered =>
      refine ⟨call, ?_, rfl⟩
      rw [entered.live, IdMap.find?_insert]
      split
      · rename_i equal
        rw [equal, (consistent.absent entered.drawn entered.outside).1] at held
        cases held
      · exact held
  | leaves remover outcome ids left named =>
      rw [named] at notRemoved
      split at notRemoved
      · cases notRemoved
      · rename_i notTaken
        exact ⟨call, by rw [left.live, if_neg notTaken, held], rfl⟩
  | goesOn other removal moved => exact ⟨call, by rw [moved.live, held], rfl⟩

/-- A call that is in `live` was there before, or has just gone in. -/
theorem live_was {id : Nat} (change : CallChange state next event)
    (held : next.queue.live.find? id = some call) :
    (∃ before, state.queue.live.find? id = some before ∧ before.handles = call.handles) ∨
      ∃ index ms, EntersLive state next index ms id ∧
        call = .admitted index (state.expires_at ms) := by
  cases change with
  | same unchanged => exact .inl (unchanged.exists_live held)
  | draws index drawn => exact .inl ⟨call, by rw [← drawn.live, held], rfl⟩
  | enters index ms entering entered =>
      rw [entered.live, IdMap.find?_insert] at held
      split at held
      · rename_i equal
        subst equal
        cases held
        exact .inr ⟨index, ms, entered, rfl⟩
      · exact .inl ⟨call, held, rfl⟩
  | leaves remover outcome ids left named =>
      rw [left.live] at held
      split at held
      · cases held
      · exact .inl ⟨call, held, rfl⟩
  | goesOn other removal moved => exact .inl ⟨call, by rw [← moved.live, held], rfl⟩

end Server.Consistent

theorem consistent_of_run (run : RunWhere condition serverStep .start trace state) :
    state.Consistent :=
  run.stateInvariant Server.Consistent .start fun consistent _ taken =>
    consistent.step (serverStep_calls taken)

end Zpr.GrpcServer
