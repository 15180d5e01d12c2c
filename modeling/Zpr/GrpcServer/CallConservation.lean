import Zpr.Foundation.IdMapSize
import Zpr.GrpcServer.PendingLimit
import Zpr.GrpcServer.ResponseFrames

namespace Zpr.GrpcServer

open Ffi

/-! # No call is lost

Every id that has been drawn is accounted for: its call is completed or reaped, or in
`live`, or in the hands of an operation that is part-way through. -/

theorem QueueChange.counters (change : QueueChange state action queue)
    (elsewhere : action.movesCalls = false) :
    queue.completed = state.queue.completed ∧ queue.reaped = state.queue.reaped := by
  cases change with
  | handles | counts => cases elsewhere
  | same | accepts | configures | stores => exact ⟨rfl, rfl⟩

/-- The RPC has drawn an id and is still to be put into `live`. -/
def Arrival.isNumbered : Arrival → Bool
  | .numbered _ _ => true
  | _ => false

namespace Server

def numbered (state : Server) : Nat := state.countArrivals Arrival.isNumbered

/-- The calls out of `live` that their remover has not counted yet. -/
def uncountedIds (state : Server) : Finset Nat :=
  IdMap.idsWhere (fun removal => removal.stage != .counted) state.removed

end Server

/-- Every id drawn stands for one call, and every call has one place. -/
structure Balanced (state : Server) : Prop where
  equation : state.queue.next_id = 1 + state.queue.completed + state.queue.reaped +
    IdMap.size state.queue.live + state.numbered + state.uncountedIds.card
  counted : ∀ id removal, state.removed.find? id = some removal → removal.remover ≠ .free

namespace Balanced

theorem start : Balanced .start where
  equation := rfl
  counted id removal held := by simp [Server.start] at held

/-- A step that leaves the calls and the counters alone. -/
theorem step_same (balanced : Balanced state) (unchanged : SameCalls state next)
    (numbered : next.numbered = state.numbered)
    (completed : next.queue.completed = state.queue.completed)
    (reaped : next.queue.reaped = state.queue.reaped) : Balanced next := by
  have live : IdMap.size next.queue.live = IdMap.size state.queue.live := by
    apply IdMap.size_congr
    intro id
    have same := congrArg Option.isSome (unchanged.live id)
    simpa using same
  have uncounted : next.uncountedIds = state.uncountedIds := by
    rw [Server.uncountedIds, Server.uncountedIds, unchanged.removed]
  refine ⟨?_, fun id removal held => ?_⟩
  · rw [unchanged.next_id, completed, reaped, live, numbered, uncounted]
    exact balanced.equation
  · rw [unchanged.removed] at held
    exact balanced.counted id removal held

/-- Calls are taken out of `live` and are in the hands of their remover. -/
theorem step_leaves {ids : List Nat} (balanced : Balanced state) (consistent : state.Consistent)
    (left : LeavesLive state next remover outcome ids) (notFree : remover ≠ .free)
    (numbered : next.numbered = state.numbered)
    (completed : next.queue.completed = state.queue.completed)
    (reaped : next.queue.reaped = state.queue.reaped) : Balanced next := by
  have inLive : ids.toFinset ⊆ IdMap.ids state.queue.live := by
    intro id member
    rw [List.mem_toFinset] at member
    exact IdMap.mem_ids.mpr (left.held id member)
  have live : IdMap.ids next.queue.live = IdMap.ids state.queue.live \ ids.toFinset := by
    ext id
    rw [Finset.mem_sdiff, IdMap.mem_ids, IdMap.mem_ids, List.mem_toFinset, left.live]
    split <;> simp [*]
  have uncounted : next.uncountedIds = state.uncountedIds ∪ ids.toFinset := by
    ext id
    rw [Finset.mem_union, Server.uncountedIds, Server.uncountedIds, IdMap.mem_idsWhere,
      IdMap.mem_idsWhere, List.mem_toFinset, left.removed]
    split
    · rename_i member
      rcases left.held id member with ⟨call, held⟩
      simp [member, held]
    · rename_i notTaken
      simp [notTaken]
  have disjoint : Disjoint state.uncountedIds ids.toFinset := by
    rw [Finset.disjoint_left]
    intro id removed member
    rcases left.held id (List.mem_toFinset.mp member) with ⟨call, held⟩
    rw [Server.uncountedIds, IdMap.mem_idsWhere, (consistent.live id call held).2.2] at removed
    cases removed
  refine ⟨?_, fun id removal held => ?_⟩
  · have equation := balanced.equation
    have fewer := Finset.card_le_card inLive
    rw [IdMap.size_eq_card] at equation ⊢
    rw [left.next_id, completed, reaped, live, numbered, uncounted,
      Finset.card_sdiff_of_subset inLive, Finset.card_union_of_disjoint disjoint]
    omega
  · rw [left.removed] at held
    split at held
    · rename_i member
      rcases left.held id member with ⟨call, heldBefore⟩
      rw [heldBefore, Option.map_some, Option.some_or] at held
      cases held
      exact notFree
    · exact balanced.counted id removal held

theorem step_handle (balanced : Balanced state) (consistent : state.Consistent)
    (taken : serverStep state (.handle_queued index) = some (next, reply)) : Balanced next := by
  rcases Server.handle_queued_cases taken with ⟨rpc, after, queue, known, handled, rfl, _⟩
  have count := Server.countArrivals_handle known queue after Arrival.isNumbered
  have equation := balanced.equation
  refine ⟨?_, balanced.counted⟩
  show queue.next_id = 1 + queue.completed + queue.reaped + IdMap.size queue.live +
    Server.countArrivals _ Arrival.isNumbered + state.uncountedIds.card
  rw [Server.numbered] at equation
  generalize Server.countArrivals (Server.update _ _ _) Arrival.isNumbered = numbered at count ⊢
  cases handled with
  | admits arrival | stamps arrival =>
      simp only [arrival, Arrival.isNumbered, Bool.false_eq_true, if_false] at count
      omega
  | refuses arrival | pushes ms id arrival =>
      simp only [arrival, Arrival.isNumbered, Bool.false_eq_true, if_false] at count
      dsimp only
      omega
  | draws ms arrival =>
      simp only [arrival, Arrival.isNumbered, Bool.false_eq_true, if_false, if_true] at count
      dsimp only
      omega
  | inserts ms id arrival =>
      simp only [arrival, Arrival.isNumbered, Bool.false_eq_true, if_false, if_true] at count
      have entered := Server.entersLive_of_inserts known arrival
      have fresh := (consistent.absent entered.drawn entered.outside).1
      have grown := IdMap.size_insert (LiveCall.admitted index (state.expires_at ms)) fresh
      dsimp only
      omega

/-- A call is counted when its remover has answered it. -/
theorem counting_of_advance (notFree : removal.remover ≠ .free)
    (held : state.removed.find? call_id = some removal)
    (taken : serverStep state (.advance call_id) = some (next, reply)) :
    next.queue.completed + next.queue.reaped =
      state.queue.completed + state.queue.reaped + if removal.stage = .answered then 1 else 0 := by
  rcases Server.advance_cases taken with
    ⟨same, found, _, ⟨stage, rfl⟩ | ⟨stage, rfl⟩ | ⟨stage, rfl⟩⟩
  · cases held.symm.trans found
    rcases Server.send_status_eq _ removal.call.status_tx removal.outcome with ⟨rpcs, answered⟩
    rw [stage, answered]
    rfl
  · cases held.symm.trans found
    rw [stage, if_pos rfl]
    cases remover : removal.remover with
    | complete =>
        show state.queue.completed + 1 + state.queue.reaped = _
        omega
    | reaper => rfl
    | free => exact absurd remover notFree
  · cases held.symm.trans found
    rcases Server.drop_call_eq _ removal.call with ⟨rpcs, dropped⟩
    rw [stage, dropped]
    rfl

/-- Then it is no longer one that is still to be counted. -/
theorem uncountedIds_of_goesOn {id : Nat} (moved : RemoverGoesOn state next id removal) :
    next.uncountedIds.card + (if removal.stage = .answered then 1 else 0) =
      state.uncountedIds.card := by
  have elsewhere : ∀ other, other ≠ id →
      (other ∈ next.uncountedIds ↔ other ∈ state.uncountedIds) := by
    intro other different
    rw [Server.uncountedIds, Server.uncountedIds, IdMap.mem_idsWhere, IdMap.mem_idsWhere,
      moved.removed, if_neg different]
  have before : id ∈ state.uncountedIds ↔ removal.stage ≠ .counted := by
    rw [Server.uncountedIds, IdMap.mem_idsWhere, moved.held]
    simp
  have after : id ∈ next.uncountedIds ↔ removal.stage = .taken := by
    rw [Server.uncountedIds, IdMap.mem_idsWhere, moved.removed, if_pos rfl, Removed.next?]
    cases stage : removal.stage <;> simp
  split
  · rename_i answered
    have removes : next.uncountedIds = state.uncountedIds.erase id := by
      ext other
      rw [Finset.mem_erase]
      by_cases same : other = id
      · simp [same, after, answered]
      · simp [same, elsewhere other same]
    have member : id ∈ state.uncountedIds := before.mpr (by simp [answered])
    rw [removes, Finset.card_erase_add_one member]
  · rename_i notAnswered
    have same : next.uncountedIds = state.uncountedIds := by
      ext other
      by_cases own : other = id
      · rw [own, after, before]
        cases stage : removal.stage <;> simp_all
      · exact elsewhere other own
    rw [same, Nat.add_zero]

/-- The remover of a call sends its status, counts it and drops it. -/
theorem step_advance (balanced : Balanced state)
    (taken : serverStep state (.advance call_id) = some (next, reply)) : Balanced next := by
  rcases (Server.advance_goesOn taken).2.2 with ⟨removal, moved⟩
  have numbered := serverStep_countArrivals taken rfl Arrival.isNumbered rfl
  have counting := counting_of_advance (balanced.counted _ _ moved.held) moved.held taken
  have uncounted := uncountedIds_of_goesOn moved
  have equation := balanced.equation
  refine ⟨?_, fun id other held => ?_⟩
  · rw [moved.next_id, moved.live, Server.numbered, numbered]
    rw [Server.numbered] at equation
    omega
  · rw [moved.removed] at held
    split at held
    · have notFree := balanced.counted _ _ moved.held
      rw [Removed.next?] at held
      cases stage : removal.stage <;> rw [stage] at held <;> cases held <;> exact notFree
    · exact balanced.counted id other held

theorem step_complete (balanced : Balanced state) (consistent : state.Consistent)
    (taken : serverStep state (.complete call_id grpc_status message) = some (next, reply)) :
    Balanced next := by
  rcases Server.call_complete_cases (Option.some.inj taken) with
    ⟨_, _, rfl, _⟩ | ⟨msg, call, _, held, _, rfl⟩
  · exact balanced
  · refine balanced.step_leaves consistent (Server.take_leavesLive state .complete _ ?_)
      (by decide) rfl rfl rfl
    intro id member
    cases List.mem_singleton.mp member
    exact ⟨call, held⟩

theorem step_reap (balanced : Balanced state) (consistent : state.Consistent)
    (taken : serverStep state .reap_loop = some (next, reply)) : Balanced next := by
  rcases Server.reap_loop_cases taken with ⟨_, rfl | rfl | rfl⟩ | ⟨now, _, _, rfl⟩
  · exact balanced
  · exact ⟨balanced.equation, balanced.counted⟩
  · exact ⟨balanced.equation, balanced.counted⟩
  · refine balanced.step_leaves consistent
      { Server.take_leavesLive { state with reaper := .waiting } .reaper Server.reaperStatus ?_ with }
      (by decide) rfl rfl rfl
    intro id member
    rcases Server.mem_expired.mp member with ⟨call, held, _⟩
    exact ⟨call, held⟩

theorem step (balanced : Balanced state) (consistent : state.Consistent)
    (notFreed : action ≠ .queue_free) (taken : serverStep state action = some (next, reply)) :
    Balanced next := by
  have others : action.movesCalls = false → Balanced next := by
    intro elsewhere
    have change := serverStep_queue taken
    have counters : next.queue.completed = state.queue.completed ∧
        next.queue.reaped = state.queue.reaped := change.counters elsewhere
    refine balanced.step_same (serverStep_sameCalls taken elsewhere) ?_ counters.1 counters.2
    apply serverStep_countArrivals taken ?_ _ rfl
    cases action <;> first | rfl | cases elsewhere
  cases action with
  | handle_queued index => exact balanced.step_handle consistent taken
  | complete call_id grpc_status message => exact balanced.step_complete consistent taken
  | advance call_id => exact balanced.step_advance taken
  | reap_loop => exact balanced.step_reap consistent taken
  | queue_free => exact absurd rfl notFreed
  | _ => exact others rfl

end Balanced

theorem balanced_of_run
    (run : RunWhere (fun _ action => action ≠ .queue_free) serverStep .start trace state) :
    Balanced state := by
  have both : state.Consistent ∧ Balanced state := by
    apply run.stateInvariant fun state => state.Consistent ∧ Balanced state
    · exact ⟨.start, .start⟩
    · intro state action next reply holds notFreed taken
      exact ⟨holds.1.step (serverStep_calls taken), holds.2.step holds.1 notFreed taken⟩
  exact both.2

/-! ## What becomes of one call -/

/-- The outcome, if any, with which an event of the reaper takes call `id` out of
`live`. -/
def reapingsOf (id : Nat) : Action × Reply → List (Int × String)
  | (.reap_loop, .removed ids) => if id ∈ ids then [Server.reaperStatus] else []
  | _ => []

def reapings (id : Nat) (trace : List (Action × Reply)) : List (Int × String) :=
  trace.flatMap (reapingsOf id)

theorem reapings_next (id : Nat) (trace : List (Action × Reply)) (event : Action × Reply) :
    reapings id (trace ++ [event]) = reapings id trace ++ reapingsOf id event := by
  simp [reapings]

/-- Before the queue is freed a call is taken out by a completion or by the reaper. -/
theorem length_removals {trace : List (Action × Reply)} (id : Nat)
    (notFreed : ∀ event ∈ trace, event.1 ≠ .queue_free) : (removals id trace).length =
      (completions id trace).length + (reapings id trace).length := by
  induction trace with
  | nil => rfl
  | cons event trace induction =>
      rw [List.forall_mem_cons] at notFreed
      have rest := induction notFreed.2
      have first : (removalsOf id event).length =
          (completionsOf id event).length + (reapingsOf id event).length := by
        rcases event with ⟨action, reply⟩
        cases action with
        | queue_free => exact absurd rfl notFreed.1
        | reap_loop => cases reply <;> simp [removalsOf, completionsOf, reapingsOf]
        | _ => rfl
      simp only [removals, completions, reapings, List.flatMap_cons, List.length_append] at rest ⊢
      omega

/-- Exactly one of three. -/
def OneOf (first second third : Prop) : Prop :=
  (first ∧ ¬ second ∧ ¬ third) ∨ (¬ first ∧ second ∧ ¬ third) ∨ (¬ first ∧ ¬ second ∧ third)

/-- A call that has gone into `live` has not been taken out, or has been once. -/
theorem removals_of_entered {id : Nat} (explained : Explained trace state)
    (entered : state.enteredAt index = some (id, ms)) :
    (∃ call, state.queue.live.find? id = some call) ∧ removals id trace = [] ∨
      state.queue.live.find? id = none ∧ ∃ outcome, removals id trace = [outcome] := by
  rcases explained.history_of_drawn (Server.idAt_of_enteredAt entered) with ⟨rpc, _, history⟩
  have agrees := history.agrees
  rw [Server.response, Server.holderAt, entered] at agrees
  cases live : state.queue.live.find? id with
  | some call =>
      simp only [live, Holder.Agrees] at agrees
      exact .inl ⟨⟨call, rfl⟩, agrees.1⟩
  | none =>
      refine .inr ⟨rfl, ?_⟩
      simp only [live] at agrees
      cases removed : state.removed.find? id with
      | some removal =>
          simp only [removed, Holder.Agrees] at agrees
          exact ⟨_, agrees.1⟩
      | none =>
          simp only [removed, Holder.Agrees] at agrees
          rcases agrees with ⟨outcome, taken, _⟩
          exact ⟨outcome, taken⟩

theorem fate_of_entered {id : Nat} (explained : Explained trace state)
    (notFreed : ∀ event ∈ trace, event.1 ≠ .queue_free)
    (entered : state.enteredAt index = some (id, ms)) :
    OneOf (∃ call, state.queue.live.find? id = some call) (completions id trace ≠ [])
      (reapings id trace ≠ []) := by
  have lengths := length_removals id notFreed
  rcases removals_of_entered explained entered with ⟨live, none⟩ | ⟨absent, outcome, once⟩
  · rw [none, List.length_nil] at lengths
    refine .inl ⟨live, not_not.mpr (List.length_eq_zero_iff.mp ?_),
      not_not.mpr (List.length_eq_zero_iff.mp ?_)⟩
    · omega
    · omega
  · rw [once, List.length_singleton] at lengths
    have notLive : ¬ ∃ call, state.queue.live.find? id = some call := by simp [absent]
    rw [OneOf, ← List.length_pos_iff, ← List.length_pos_iff]
    rcases Nat.eq_zero_or_pos (completions id trace).length with zero | positive
    · exact .inr (.inr ⟨notLive, by omega, by omega⟩)
    · exact .inr (.inl ⟨notLive, positive, by omega⟩)

/-- No operation is part-way through with a call. -/
structure Server.Quiescent (state : Server) : Prop where
  settled : ∀ rpc ∈ state.rpcs, rpc.arrival.settled = true
  dropped : ∀ id, state.removed.find? id = none

theorem Server.quiescent_of_all {state : Server} (removed : state.removed = ∅)
    (settled : state.rpcs.all (fun rpc => rpc.arrival.settled) = true) : state.Quiescent := by
  refine ⟨List.all_eq_true.mp settled, fun id => ?_⟩
  rw [removed, IdMap.find?_empty]

theorem Balanced.quiescent (balanced : Balanced state) (quiescent : state.Quiescent) :
    state.queue.next_id - 1 =
      state.queue.completed + state.queue.reaped + IdMap.size state.queue.live := by
  have numbered : state.numbered = 0 := by
    apply List.countP_eq_zero.mpr
    intro rpc member
    have settled := quiescent.settled rpc member
    cases arrival : rpc.arrival <;> simp_all [Arrival.settled, Arrival.isNumbered]
  have uncounted : state.uncountedIds = ∅ := by
    apply Finset.eq_empty_of_forall_notMem
    intro id member
    rw [Server.uncountedIds, IdMap.mem_idsWhere, quiescent.dropped] at member
    cases member
  have equation := balanced.equation
  rw [numbered, uncounted, Finset.card_empty] at equation
  omega

/-- Before the queue is freed, the ids drawn are those of the calls that are completed,
reaped, in `live`, or in the hands of an operation; no two RPCs have the same; a call in
`live` has the status sender of its own RPC. When no operation is part-way through,
every RPC that has been let in has exactly one fate. -/
theorem calls_are_conserved
    (run : RunWhere (fun _ action => action ≠ .queue_free) serverStep .start trace state) :
    state.queue.next_id - 1 = state.queue.completed + state.queue.reaped +
        IdMap.size state.queue.live + state.numbered + state.uncountedIds.card ∧
    (∀ first second id, state.idAt first = some id → state.idAt second = some id →
      first = second) ∧
    (∀ id call, state.queue.live.find? id = some call → ∃ index ms,
      state.enteredAt index = some (id, ms) ∧ call.status_tx = some index) ∧
    (state.Quiescent →
      state.queue.next_id - 1 =
        state.queue.completed + state.queue.reaped + IdMap.size state.queue.live ∧
      ∀ index rpc, state.rpcs[index]? = some rpc → rpc.arrival ≠ .arrived →
        rpc.arrival ≠ .refused → ∃ id ms, state.enteredAt index = some (id, ms) ∧
          OneOf (∃ call, state.queue.live.find? id = some call) (completions id trace ≠ [])
            (reapings id trace ≠ [])) := by
  have balanced := balanced_of_run run
  have explained := explained_of_run run
  have consistent := explained.consistent
  refine ⟨?_, consistent.distinct, fun id call held => ?_, fun quiescent => ?_⟩
  · have equation := balanced.equation
    omega
  · rcases consistent.live id call held with ⟨owns, status, _⟩
    rcases owns.entered with ⟨ms, entered⟩
    exact ⟨call.outbound_tx, ms, entered, status⟩
  · refine ⟨balanced.quiescent quiescent, fun index rpc known letIn notRefused => ?_⟩
    have settled := quiescent.settled rpc (List.mem_of_getElem? known)
    cases arrival : rpc.arrival with
    | queued ms id =>
        have entered : state.enteredAt index = some (id, ms) := by
          rw [Server.enteredAt_of_rpc known, arrival]
          rfl
        exact ⟨id, ms, entered, fate_of_entered explained run.allowed entered⟩
    | arrived => exact absurd arrival letIn
    | refused => exact absurd arrival notRefused
    | admitted | stamped | numbered | inserted => simp [arrival, Arrival.settled] at settled

theorem calls_are_conserved_after_completion : ∃ trace state,
    RunWhere (fun _ action => action ≠ .queue_free) serverStep .start trace state ∧
      state.Quiescent ∧ state.queue.next_id - 1 = 1 ∧
      state.queue.next_id - 1 =
        state.queue.completed + state.queue.reaped + IdMap.size state.queue.live := by
  have replayed : ∃ trace state, replay serverStep .start
        [.arrive "/a" ⟨[], false⟩, .handle_queued 0, .handle_queued 0, .handle_queued 0,
          .handle_queued 0, .handle_queued 0, .complete 1 0 none, .advance 1, .advance 1,
          .advance 1] = some (trace, state) ∧
      state.removed = ∅ ∧ state.rpcs.all (fun rpc => rpc.arrival.settled) = true ∧
      state.queue.next_id = 2 := ⟨_, _, rfl, rfl, rfl, rfl⟩
  rcases replayed with ⟨trace, state, replayed, removed, settled, drawn⟩
  have run : RunWhere (fun _ action => action ≠ .queue_free) serverStep .start trace state := by
    apply runWhere_of_replay replayed
    simp
  have quiescent := Server.quiescent_of_all removed settled
  exact ⟨trace, state, run, quiescent, by rw [drawn],
    ((calls_are_conserved run).2.2.2 quiescent).1⟩

end Zpr.GrpcServer
