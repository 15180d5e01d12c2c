import Zpr.GrpcServer.CallFootprint

namespace Zpr.GrpcServer

open Ffi

/-! # The strands of the queued server

Between two sweeps of the reaper, what happens to the calls that are queued at some moment
falls into strands: one for each of these calls, and one for all the rest of the server,
that is arrivals, accepts, the clock and the configuration. -/

namespace Server

/-- The id of an RPC that `handle_queued` has finished with. -/
def queuedId (state : Server) (index : Nat) : Option Nat :=
  (state.rpcs[index]?).bind fun rpc =>
    match rpc.arrival with
    | .queued _ id => some id
    | _ => none

/-- The queued RPC with an id. -/
def callOf (state : Server) (id : Nat) : Option Nat :=
  (List.range state.rpcs.length).find? fun index => state.queuedId index == some id

/-- The call among those queued in `base` that an action is about, if it is about one. -/
def strand (base : Server) : Action → Option Nat
  | .pump_inbound index | .poll_frame index | .hang_up index =>
      if (base.queuedId index).isSome then some index else none
  | .read_into call_id _ | .write call_id _ _ | .complete call_id _ _ | .advance call_id =>
      base.callOf call_id
  | _ => none

/-- The servers are the same apart from the calls queued in `base`. -/
structure FrontAgree (base state other : Server) : Prop where
  rest : state.rest = other.rest
  length : state.rpcs.length = other.rpcs.length
  rpcs : ∀ index, base.queuedId index = none → state.rpcs[index]? = other.rpcs[index]?
  live : ∀ id, base.callOf id = none →
    state.queue.live.find? id = other.queue.live.find? id
  removed : ∀ id, base.callOf id = none → state.removed.find? id = other.removed.find? id

def Agree (base : Server) : Option Nat → Server → Server → Prop
  | some index => fun state other => ∀ id, base.queuedId index = some id →
      SameAt index id state other
  | none => base.FrontAgree

/-- The calls of `base` are still queued under their ids. -/
structure Follows (base state : Server) : Prop where
  consistent : state.Consistent
  queued : ∀ index id, base.queuedId index = some id → state.queuedId index = some id

/-- The same server, if the maps are looked at as maps. -/
structure SameContent (state other : Server) : Prop where
  rest : state.rest = other.rest
  rpcs : state.rpcs = other.rpcs
  live : ∀ id, state.queue.live.find? id = other.queue.live.find? id
  removed : ∀ id, state.removed.find? id = other.removed.find? id
  tally : state.tally = other.tally

end Server

/-- The steps that may concern all calls at once: of the reaper, and of the end of the
server. -/
def Action.sweeps : Action → Bool
  | .reap_loop | .queue_free | .server_stop => true
  | _ => false

namespace Server

variable {base state next other : Server} {index id : Nat}

/-! ## Which call an id stands for -/

theorem queuedId_eq_some : state.queuedId index = some id ↔
    ∃ rpc ms, state.rpcs[index]? = some rpc ∧ rpc.arrival = .queued ms id := by
  rw [queuedId, Option.bind_eq_some_iff]
  constructor
  · rintro ⟨rpc, known, drawn⟩
    cases arrival : rpc.arrival with
    | queued ms other =>
        simp only [arrival, Option.some.injEq] at drawn
        exact ⟨rpc, ms, known, drawn ▸ arrival⟩
    | _ => simp [arrival] at drawn
  · rintro ⟨rpc, ms, known, arrival⟩
    exact ⟨rpc, known, by simp [arrival]⟩

theorem idAt_of_queuedId (queued : state.queuedId index = some id) :
    state.idAt index = some id := by
  rcases queuedId_eq_some.mp queued with ⟨rpc, ms, known, arrival⟩
  rw [idAt_of_rpc known, arrival]
  rfl

theorem queuedId_of_callOf (found : state.callOf id = some index) :
    state.queuedId index = some id := by
  have holds := List.find?_some found
  simpa using holds

theorem callOf_of_queuedId (consistent : state.Consistent)
    (queued : state.queuedId index = some id) : state.callOf id = some index := by
  rcases queuedId_eq_some.mp queued with ⟨rpc, ms, known, arrival⟩
  have inside : index < state.rpcs.length := (List.getElem?_eq_some_iff.mp known).1
  cases found : state.callOf id with
  | none =>
      have missing := List.find?_eq_none.mp found index (List.mem_range.mpr inside)
      simp [queued] at missing
  | some other =>
      have same := consistent.distinct other index id
        (idAt_of_queuedId (queuedId_of_callOf found)) (idAt_of_queuedId queued)
      rw [same]

theorem queuedId_none_of_callOf (consistent : state.Consistent)
    (unknown : state.callOf id = none) : state.queuedId index ≠ some id := by
  intro queued
  rw [callOf_of_queuedId consistent queued] at unknown
  cases unknown

namespace Follows

/-- The RPC of a call that an id of `base` stands for is that of `base`. -/
theorem index_eq {entered : Nat} (follows : Follows base state)
    (queued : base.queuedId index = some id)
    (drawn : state.idAt entered = some id) : entered = index :=
  follows.consistent.distinct _ _ id drawn (idAt_of_queuedId (follows.queued index id queued))

/-- An RPC whose id stands for no call of `base` is none of its calls. -/
theorem not_queued {entered : Nat} (follows : Follows base state)
    (consistentBase : base.Consistent)
    (unknown : base.callOf id = none) (drawn : state.idAt entered = some id) :
    base.queuedId entered = none := by
  cases queued : base.queuedId entered with
  | none => rfl
  | some other =>
      have same := (idAt_of_queuedId (follows.queued entered other queued)).symm.trans drawn
      cases same
      rw [callOf_of_queuedId consistentBase queued] at unknown
      cases unknown

theorem step {action : Action} {reply : Reply} (follows : Follows base state)
    (taken : serverStep state action = some (next, reply)) : Follows base next where
  consistent := follows.consistent.step (serverStep_calls taken)
  queued index id inBase := by
    rcases queuedId_eq_some.mp (follows.queued index id inBase) with ⟨rpc, ms, known, arrival⟩
    rcases serverStep_keeps_rpc taken known with ⟨after, found, _, same | ⟨rfl, _⟩⟩
    · exact queuedId_eq_some.mpr ⟨after, ms, found, same.trans arrival⟩
    · rcases handle_queued_cases taken with ⟨handled, _, _, knownToo, moved, _⟩
      cases known.symm.trans knownToo
      cases moved <;> simp_all

end Follows

/-! ## The steps on one call -/

/-- A step that touches a call of `base` leaves everything else alone. -/
theorem frame_of_touches {name : Option Nat} (consistentBase : base.Consistent)
    (queued : base.queuedId index = some id) (touches : Touches index id state next)
    (different : name ≠ some index) : base.Agree name state next := by
  have notSame : ∀ {entered}, base.queuedId entered = none → entered ≠ index := by
    rintro entered notQueued rfl
    rw [queued] at notQueued
    cases notQueued
  have notSameId : ∀ {entered}, base.callOf entered = none → entered ≠ id := by
    rintro entered notCall rfl
    rw [callOf_of_queuedId consistentBase queued] at notCall
    cases notCall
  cases name with
  | none =>
      exact ⟨touches.rest.symm, touches.length.symm,
        fun entered notQueued => (touches.rpcs entered (notSame notQueued)).symm,
        fun entered notCall => (touches.live entered (notSameId notCall)).symm,
        fun entered notCall => (touches.removed entered (notSameId notCall)).symm⟩
  | some entered =>
      intro otherId queuedToo
      have differentRpc : entered ≠ index := fun same => different (same ▸ rfl)
      refine touches.sameAt differentRpc ?_
      rintro rfl
      exact differentRpc (consistentBase.distinct _ _ _ (idAt_of_queuedId queuedToo)
        (idAt_of_queuedId queued))

/-- A step that touches no call of `base` leaves all of them alone. -/
theorem frame_of_touches_front {called : Nat} (notQueued : base.queuedId index = none)
    (notCall : ∀ entered, base.queuedId entered ≠ some id) (touches : Touches index id state next) :
    base.Agree (some called) state next := by
  intro otherId queued
  apply touches.sameAt
  · rintro rfl
    rw [queued] at notQueued
    cases notQueued
  · rintro rfl
    exact notCall called queued

/-- What two servers that agree apart from the calls of `base` have in common after a step
on another RPC. -/
theorem FrontAgree.touched {after : Server} (agree : base.FrontAgree state other)
    (touches : Touches index id state next) (touchesToo : Touches index id other after)
    (same : SameAt index id next after) : base.FrontAgree next after where
  rest := touches.rest.trans (agree.rest.trans touchesToo.rest.symm)
  length := touches.length.trans (agree.length.trans touchesToo.length.symm)
  rpcs entered notQueued := by
    by_cases own : entered = index
    · rw [own]
      exact same.rpc
    · rw [touches.rpcs entered own, touchesToo.rpcs entered own]
      exact agree.rpcs entered notQueued
  live entered notCall := by
    by_cases own : entered = id
    · rw [own]
      exact same.live
    · rw [touches.live entered own, touchesToo.live entered own]
      exact agree.live entered notCall
  removed entered notCall := by
    by_cases own : entered = id
    · rw [own]
      exact same.removed
    · rw [touches.removed entered own, touchesToo.removed entered own]
      exact agree.removed entered notCall

/-- The RPC that a live call belongs to. -/
theorem live_owner {call : LiveCall} (consistent : state.Consistent)
    (held : state.queue.live.find? id = some call) :
    call.inbound_rx = call.outbound_tx ∧ state.idAt call.outbound_tx = some id := by
  rcases (consistent.live id call held).1 with ⟨inbound, ms, entered⟩
  exact ⟨inbound, idAt_of_enteredAt entered⟩

/-- The RPC that a call in the hands of a remover belongs to. -/
theorem removed_owner {removal : Removed} (consistent : state.Consistent)
    (held : state.removed.find? id = some removal) :
    removal.call.inbound_rx = removal.call.outbound_tx ∧
      state.idAt removal.call.outbound_tx = some id ∧
      ∀ target, removal.call.status_tx = some target → target = removal.call.outbound_tx := by
  rcases consistent.removed id removal held with ⟨⟨inbound, ms, entered⟩, sender⟩
  refine ⟨inbound, idAt_of_enteredAt entered, fun target sends => ?_⟩
  rw [sender] at sends
  split at sends
  · cases sends
    rfl
  · cases sends

/-- A step on one call, wherever it belongs: an action names an RPC or an id, and the two
go together. -/
theorem local_of_step {action : Action} {reply : Reply} (consistent : state.Consistent)
    (same : SameAt index id state other)
    (about : match action with
      | .pump_inbound named | .poll_frame named | .hang_up named => named = index
      | .read_into named _ | .write named _ _ | .complete named _ _ | .advance named =>
          named = id ∧ ∀ owner, state.idAt owner = some id → owner = index
      | _ => False)
    (taken : serverStep state action = some (next, reply)) :
    Local index id action state next other reply := by
  cases action with
  | pump_inbound named =>
      cases about
      exact pump_inbound_local same taken
  | poll_frame named =>
      cases about
      exact poll_frame_local same taken
  | hang_up named =>
      cases about
      exact hang_up_local same taken
  | read_into named buffer =>
      rcases about with ⟨rfl, owners⟩
      apply call_read_into_local same _ taken
      intro call held
      rcases live_owner consistent held with ⟨inbound, drawn⟩
      rw [inbound]
      exact owners _ drawn
  | write named data bytes =>
      rcases about with ⟨rfl, owners⟩
      apply call_write_local same _ taken
      intro call held
      exact owners _ (live_owner consistent held).2
  | complete named grpc_status message =>
      rcases about with ⟨rfl, _⟩
      exact call_complete_local index same (Option.some.inj taken)
  | advance named =>
      rcases about with ⟨rfl, owners⟩
      apply advance_local same _ taken
      intro removal held
      rcases removed_owner consistent held with ⟨inbound, drawn, sender⟩
      have own := owners _ drawn
      rw [own] at inbound sender
      exact ⟨inbound, own, sender⟩
  | _ => exact about.elim

/-- A step of one of the calls of `base`. -/
theorem call_step {action : Action} {reply : Reply} (followsState : Follows base state)
    (isCall : base.strand action = some index) (agree : base.Agree (some index) state other)
    (taken : serverStep state action = some (next, reply)) :
    ∃ id, base.queuedId index = some id ∧ Local index id action state next other reply := by
  have named : ∀ {entered : Nat},
      (if (base.queuedId entered).isSome then some entered else none) = some index →
        ∃ id, entered = index ∧ base.queuedId index = some id := by
    intro entered found
    split at found
    · rename_i queued
      cases found
      rcases Option.isSome_iff_exists.mp queued with ⟨id, queued⟩
      exact ⟨id, rfl, queued⟩
    · cases found
  cases action with
  | pump_inbound entered | poll_frame entered | hang_up entered =>
      rcases named isCall with ⟨id, rfl, queued⟩
      exact ⟨id, queued, local_of_step followsState.consistent (agree id queued) rfl taken⟩
  | read_into id buffer =>
      have queued := queuedId_of_callOf isCall
      exact ⟨id, queued, local_of_step followsState.consistent (agree id queued)
        ⟨rfl, fun owner drawn => followsState.index_eq queued drawn⟩ taken⟩
  | write id data bytes =>
      have queued := queuedId_of_callOf isCall
      exact ⟨id, queued, local_of_step followsState.consistent (agree id queued)
        ⟨rfl, fun owner drawn => followsState.index_eq queued drawn⟩ taken⟩
  | complete id grpc_status message =>
      have queued := queuedId_of_callOf isCall
      exact ⟨id, queued, local_of_step followsState.consistent (agree id queued)
        ⟨rfl, fun owner drawn => followsState.index_eq queued drawn⟩ taken⟩
  | advance id =>
      have queued := queuedId_of_callOf isCall
      exact ⟨id, queued, local_of_step followsState.consistent (agree id queued)
        ⟨rfl, fun owner drawn => followsState.index_eq queued drawn⟩ taken⟩
  | _ => cases isCall

/-! ## The steps on the rest of the server -/

/-- A step of the rest of the server leaves the calls alone, and does the same wherever the
rest is the same. -/
structure FrontStep (base : Server) (action : Action) (state next other : Server) (reply : Reply) :
    Prop where
  spares : ∀ index id, base.queuedId index = some id → SameAt index id state next
  follows : ∃ after, serverStep other action = some (after, reply) ∧
    base.FrontAgree next after ∧ next.tally + other.tally = after.tally + state.tally

/-- The step is on an RPC or a call that is none of those of `base`. -/
theorem frontStep_of_local {action : Action} {reply : Reply} (agree : base.FrontAgree state other)
    (notQueued : base.queuedId index = none) (notCall : ∀ entered, base.queuedId entered ≠ some id)
    (isLocal : Local index id action state next other reply) :
    FrontStep base action state next other reply where
  spares entered otherId queued :=
    frame_of_touches_front notQueued notCall isLocal.touches otherId queued
  follows := by
    rcases isLocal.follows with ⟨after, taken, touches, same, sum⟩
    exact ⟨after, taken, agree.touched isLocal.touches touches same, sum⟩

theorem FrontAgree.sameAt (agree : base.FrontAgree state other)
    (notQueued : base.queuedId index = none) (notCall : base.callOf id = none) :
    SameAt index id state other where
  running := running_of_rest agree.rest
  rpc := agree.rpcs index notQueued
  live := agree.live id notCall
  removed := agree.removed id notCall

/-- No call is queued under an id that is still to be drawn. -/
theorem callOf_next_id (consistent : base.Consistent) : base.callOf base.queue.next_id = none := by
  cases found : base.callOf base.queue.next_id with
  | none => rfl
  | some index =>
      have bound := consistent.below _ _ (idAt_of_queuedId (queuedId_of_callOf found))
      omega

theorem connection_frontStep {action : Action} {reply : Reply} (consistentBase : base.Consistent)
    (followsState : Follows base state) (agree : base.FrontAgree state other)
    (notCall : (if (base.queuedId index).isSome then some index else none : Option Nat) = none)
    (about : action = .pump_inbound index ∨ action = .poll_frame index ∨ action = .hang_up index)
    (taken : serverStep state action = some (next, reply)) :
    FrontStep base action state next other reply := by
  have notQueued : base.queuedId index = none := by
    cases queued : base.queuedId index with
    | none => rfl
    | some id => simp [queued] at notCall
  have fresh := callOf_next_id consistentBase
  have same := agree.sameAt notQueued fresh
  apply frontStep_of_local agree notQueued
    (fun entered => queuedId_none_of_callOf consistentBase fresh)
  apply local_of_step followsState.consistent same _ taken
  rcases about with rfl | rfl | rfl <;> rfl

theorem id_frontStep {action : Action} {reply : Reply} (consistentBase : base.Consistent)
    (followsState : Follows base state) (agree : base.FrontAgree state other)
    (notCall : base.callOf id = none)
    (about : (∃ buffer, action = .read_into id buffer) ∨
      (∃ data bytes, action = .write id data bytes) ∨
      (∃ grpc_status message, action = .complete id grpc_status message) ∨ action = .advance id)
    (taken : serverStep state action = some (next, reply)) :
    FrontStep base action state next other reply := by
  -- the RPC that has drawn the id, if there is one; else any that is no call of `base`
  have owner : ∃ index, base.queuedId index = none ∧
      ∀ entered, state.idAt entered = some id → entered = index := by
    by_cases drawn : ∃ index, state.idAt index = some id
    · rcases drawn with ⟨index, drawn⟩
      exact ⟨index, followsState.not_queued consistentBase notCall drawn,
        fun entered drawnToo => followsState.consistent.distinct _ _ id drawnToo drawn⟩
    · refine ⟨base.rpcs.length, ?_, fun entered drawnToo => absurd ⟨entered, drawnToo⟩ drawn⟩
      rw [queuedId, List.getElem?_eq_none (Nat.le_refl _)]
      rfl
  rcases owner with ⟨index, notQueued, owners⟩
  apply frontStep_of_local agree notQueued
    (fun entered => queuedId_none_of_callOf consistentBase notCall)
  apply local_of_step followsState.consistent (agree.sameAt notQueued notCall) _ taken
  rcases about with ⟨buffer, rfl⟩ | ⟨data, bytes, rfl⟩ | ⟨grpc_status, message, rfl⟩ | rfl <;>
    exact ⟨rfl, owners⟩

/-- Where a step leaves RPCs and calls as they are. -/
theorem frontStep_of_same {action : Action} {reply : Reply}
    (agree : base.FrontAgree state other) (after : Server)
    (taken : serverStep other action = some (after, reply))
    (rest : next.rest = after.rest) (running : next.running = state.running)
    (rpcs : next.rpcs = state.rpcs) (rpcsToo : after.rpcs = other.rpcs)
    (live : next.queue.live = state.queue.live) (liveToo : after.queue.live = other.queue.live)
    (removed : next.removed = state.removed) (removedToo : after.removed = other.removed)
    (tally : next.tally = state.tally) (tallyToo : after.tally = other.tally) :
    FrontStep base action state next other reply where
  spares index id _ := ⟨running.symm, by rw [rpcs], by rw [live], by rw [removed]⟩
  follows := by
    refine ⟨after, taken, ⟨rest, ?_, ?_, ?_, ?_⟩, tally_same tally tallyToo⟩
    · rw [rpcs, rpcsToo]
      exact agree.length
    · intro index notQueued
      rw [rpcs, rpcsToo]
      exact agree.rpcs index notQueued
    · intro id notCall
      rw [live, liveToo]
      exact agree.live id notCall
    · intro id notCall
      rw [removed, removedToo]
      exact agree.removed id notCall

/-- The fields that the rest of the server consists of. -/
theorem rest_eq_iff : state.rest = other.rest ↔
    (state.queue.pending = other.queue.pending ∧ state.queue.next_id = other.queue.next_id ∧
      state.queue.max_pending = other.queue.max_pending ∧
      state.queue.deadline_ms = other.queue.deadline_ms ∧
      state.queue.accepted = other.queue.accepted ∧ state.queue.refused = other.queue.refused) ∧
    state.reaper = other.reaper ∧ state.configuring = other.configuring ∧
      state.now = other.now ∧ state.running = other.running := by
  simp only [Server.rest, Server.mk.injEq, CallQueue.mk.injEq, true_and, and_true, and_assoc]

theorem FrontAgree.update (agree : base.FrontAgree state other) (index : Nat)
    (change : Rpc → Rpc) :
    base.FrontAgree (state.update index change) (other.update index change) where
  rest := agree.rest
  length := by simpa only [Server.update, List.length_modify] using agree.length
  rpcs entered notQueued := by rw [update_rpcs, update_rpcs, agree.rpcs entered notQueued]
  live := agree.live
  removed := agree.removed

/-- `handle_queued` for an RPC, once it is known what it finds. -/
theorem handle_queued_of_step {rpc after : Rpc} {queue : CallQueue}
    (running : state.running = true) (known : state.rpcs[index]? = some rpc)
    (handled : HandleStep state index rpc after queue) :
    state.handle_queued index =
      some ({ state with queue := queue }.update index (fun _ => after), .silent) := by
  have alive : ¬ state.running = false := by
    rw [running]
    decide
  cases handled with
  | refuses arrival full =>
      simp only [handle_queued, if_neg alive, known, arrival, if_pos full]
  | admits arrival room =>
      simp only [handle_queued, if_neg alive, known, arrival, if_neg (Nat.not_le_of_lt room)]
  | stamps arrival => simp only [handle_queued, if_neg alive, known, arrival]
  | draws ms arrival => simp only [handle_queued, if_neg alive, known, arrival]
  | inserts ms id arrival => simp only [handle_queued, if_neg alive, known, arrival]
  | pushes ms id arrival => simp only [handle_queued, if_neg alive, known, arrival]

/-- The rest of the server decides what `handle_queued` does with an RPC. -/
theorem FrontAgree.handleStep {rpc after : Rpc} {queue : CallQueue}
    (agree : base.FrontAgree state other) (handled : HandleStep state index rpc after queue) :
    ∃ queueToo, HandleStep other index rpc after queueToo ∧
      base.FrontAgree { state with queue := queue } { other with queue := queueToo } ∧
      (queue.completed, queue.reaped) = state.tally ∧
      (queueToo.completed, queueToo.reaped) = other.tally := by
  rcases rest_eq_iff.mp agree.rest with
    ⟨⟨pending, next_id, max_pending, deadline_ms, accepted, refused⟩, elsewhere⟩
  cases handled with
  | refuses arrival full =>
      rw [max_pending, pending] at full
      refine ⟨_, .refuses arrival full, ⟨?_, agree.length, agree.rpcs, agree.live, agree.removed⟩,
        rfl, rfl⟩
      exact rest_eq_iff.mpr
        ⟨⟨pending, next_id, max_pending, deadline_ms, accepted, congrArg (· + 1) refused⟩, elsewhere⟩
  | admits arrival room =>
      rw [max_pending, pending] at room
      exact ⟨_, .admits arrival room, agree, rfl, rfl⟩
  | stamps arrival =>
      rw [deadline_ms]
      exact ⟨_, .stamps arrival, agree, rfl, rfl⟩
  | draws ms arrival =>
      rw [next_id]
      refine ⟨_, .draws ms arrival, ⟨?_, agree.length, agree.rpcs, agree.live, agree.removed⟩,
        rfl, rfl⟩
      exact rest_eq_iff.mpr
        ⟨⟨pending, rfl, max_pending, deadline_ms, accepted, refused⟩, elsewhere⟩
  | inserts ms id arrival =>
      have clock : state.expires_at ms = other.expires_at ms := by
        rw [expires_at, expires_at, elsewhere.2.2.1]
      refine ⟨_, .inserts ms id arrival, ⟨agree.rest, agree.length, agree.rpcs, ?_, agree.removed⟩,
        rfl, rfl⟩
      intro entered notCall
      show IdMap.find? (AList.insert _ _ _) _ = IdMap.find? (AList.insert _ _ _) _
      rw [IdMap.find?_insert, IdMap.find?_insert, clock, agree.live entered notCall]
  | pushes ms id arrival =>
      refine ⟨_, .pushes ms id arrival, ⟨?_, agree.length, agree.rpcs, agree.live, agree.removed⟩,
        rfl, rfl⟩
      exact rest_eq_iff.mpr
        ⟨⟨congrArg (· ++ [(id, rpc.path)]) pending, next_id, max_pending, deadline_ms, accepted,
          refused⟩, elsewhere⟩

theorem handle_queued_frontStep {reply : Reply} (followsState : Follows base state)
    (agree : base.FrontAgree state other)
    (taken : state.handle_queued index = some (next, reply)) :
    FrontStep base (.handle_queued index) state next other reply := by
  have running : state.running = true := by
    cases on : state.running with
    | true => rfl
    | false => simp [handle_queued, on] at taken
  rcases handle_queued_cases taken with ⟨rpc, after, queue, known, handled, rfl, rfl⟩
  have notQueued : base.queuedId index = none := by
    cases queued : base.queuedId index with
    | none => rfl
    | some id =>
        rcases queuedId_eq_some.mp (followsState.queued index id queued) with
          ⟨same, ms, knownToo, arrival⟩
        cases known.symm.trans knownToo
        cases handled <;> simp_all
  rcases agree.handleStep handled with ⟨queueToo, handledToo, agreeToo, counted, countedToo⟩
  constructor
  · intro entered id queued
    have different : index ≠ entered := by
      rintro rfl
      rw [queued] at notQueued
      cases notQueued
    refine ⟨rfl, ?_, ?_, rfl⟩
    · rw [update_rpcs, if_neg different]
    · cases handled with
      | inserts ms drawn arrival =>
          have drawnHere : state.idAt index = some drawn := by
            rw [idAt_of_rpc known, arrival]
            rfl
          have otherId : id ≠ drawn := by
            rintro rfl
            exact different (followsState.index_eq queued drawnHere)
          rw [update_queue]
          exact ((IdMap.find?_insert ..).trans (if_neg otherId)).symm
      | _ => rfl
  · refine ⟨_, handle_queued_of_step ((running_of_rest agree.rest).symm.trans running)
      ((agree.rpcs index notQueued).symm.trans known) handledToo, agreeToo.update index _, ?_⟩
    exact tally_same counted countedToo

theorem arrive_frontStep {reply : Reply} (followsState : Follows base state)
    (agree : base.FrontAgree state other)
    (taken : serverStep state (.arrive path body) = some (next, reply)) :
    FrontStep base (.arrive path body) state next other reply := by
  rcases serverStep_arrive_cases taken with ⟨running, rfl, rfl⟩
  constructor
  · intro index id queued
    rcases queuedId_eq_some.mp (followsState.queued index id queued) with ⟨rpc, ms, known, _⟩
    have inside : index < state.rpcs.length := (List.getElem?_eq_some_iff.mp known).1
    exact ⟨rfl, (List.getElem?_append_left inside).symm, rfl, rfl⟩
  · have on : other.running = true := (running_of_rest agree.rest).symm.trans running
    refine ⟨{ other with rpcs := other.rpcs ++ [.arrive path body] }, ?_,
      ⟨agree.rest, ?_, ?_, agree.live, agree.removed⟩, tally_same rfl rfl⟩
    · simp [serverStep, on]
    · simp [agree.length]
    · intro index notQueued
      simp only [List.getElem?_append, agree.length, agree.rpcs index notQueued]

/-- An accept looks at `pending` alone. -/
theorem accept_frontStep {reply : Reply} (agree : base.FrontAgree state other)
    (taken : serverStep state (.accept out_call_id out_method) = some (next, reply)) :
    FrontStep base (.accept out_call_id out_method) state next other reply := by
  rcases rest_eq_iff.mp agree.rest with
    ⟨⟨pending, next_id, max_pending, deadline_ms, accepted, refused⟩, elsewhere⟩
  have unchanged : ∀ answer,
      zpr_grpc_accept state.queue out_call_id out_method = (state.queue, answer) →
      zpr_grpc_accept other.queue out_call_id out_method = (other.queue, answer) →
      FrontStep base (.accept out_call_id out_method) state next other reply := by
    intro answer here there
    simp only [serverStep, here, Option.some.injEq, Prod.mk.injEq] at taken
    rcases taken with ⟨rfl, rfl⟩
    refine frontStep_of_same agree other ?_ agree.rest rfl rfl rfl rfl rfl rfl rfl rfl
      rfl
    simp only [serverStep, there]
  cases held : state.queue.pending with
  | nil =>
      have heldToo := pending.symm.trans held
      refine unchanged (zpr_grpc_accept state.queue out_call_id out_method).2 ?_ ?_
      · simp only [zpr_grpc_accept, held]
      · simp only [zpr_grpc_accept, held, heldToo]
  | cons head waiting =>
      rcases head with ⟨id, path⟩
      have heldToo := pending.symm.trans held
      by_cases failed : (copy_into (as_bytes path) out_method).rc ≠ ZPR_OK
      · refine unchanged (zpr_grpc_accept state.queue out_call_id out_method).2 ?_ ?_
        · simp only [zpr_grpc_accept, held, if_pos failed]
        · simp only [zpr_grpc_accept, held, heldToo, if_pos failed]
      · simp only [serverStep, zpr_grpc_accept, held, if_neg failed, Option.some.injEq,
          Prod.mk.injEq] at taken
        rcases taken with ⟨rfl, rfl⟩
        refine frontStep_of_same agree { other with queue := { other.queue with
          pending := waiting, accepted := other.queue.accepted + 1 } } ?_ ?_ rfl rfl rfl rfl rfl
          rfl rfl rfl rfl
        · simp only [serverStep, zpr_grpc_accept, heldToo, if_neg failed]
        · exact rest_eq_iff.mpr ⟨⟨rfl, next_id, max_pending, deadline_ms,
            congrArg (· + 1) accepted, refused⟩, elsewhere⟩

theorem queue_configure_frontStep {reply : Reply} (agree : base.FrontAgree state other)
    (taken : serverStep state (.configure limit ms) = some (next, reply)) :
    FrontStep base (.configure limit ms) state next other reply := by
  rcases rest_eq_iff.mp agree.rest with
    ⟨⟨pending, next_id, max_pending, deadline_ms, accepted, refused⟩, reaper, configuring, clock⟩
  by_cases isZero : limit = 0
  · simp only [serverStep, queue_configure, if_pos isZero, Option.some.injEq, Prod.mk.injEq]
      at taken
    rcases taken with ⟨rfl, rfl⟩
    refine frontStep_of_same agree other ?_ agree.rest rfl rfl rfl rfl rfl rfl rfl rfl
      rfl
    simp only [serverStep, queue_configure, if_pos isZero]
  · simp only [serverStep, queue_configure, if_neg isZero, Option.some.injEq, Prod.mk.injEq]
      at taken
    rcases taken with ⟨rfl, rfl⟩
    refine frontStep_of_same agree { other with
      queue := { other.queue with max_pending := limit }
      configuring := other.configuring ++ [ms] } ?_ ?_ rfl rfl rfl rfl rfl rfl rfl rfl rfl
    · simp only [serverStep, queue_configure, if_neg isZero]
    · exact rest_eq_iff.mpr ⟨⟨pending, next_id, rfl, deadline_ms, accepted, refused⟩, reaper,
        congrArg (· ++ [ms]) configuring, clock⟩

theorem store_deadline_frontStep {reply : Reply} (agree : base.FrontAgree state other)
    (taken : state.store_deadline slot = some (next, reply)) :
    FrontStep base (.store_deadline slot) state next other reply := by
  rcases rest_eq_iff.mp agree.rest with
    ⟨⟨pending, next_id, max_pending, deadline_ms, accepted, refused⟩, reaper, configuring, clock⟩
  rcases store_deadline_cases taken with ⟨ms, stored, rfl, rfl⟩
  refine frontStep_of_same agree { other with
    queue := { other.queue with deadline_ms := ms }
    configuring := other.configuring.eraseIdx slot } ?_ ?_ rfl rfl rfl rfl rfl rfl rfl rfl rfl
  · rw [configuring] at stored
    simp [serverStep, store_deadline, stored]
  · exact rest_eq_iff.mpr ⟨⟨pending, next_id, max_pending, rfl, accepted, refused⟩, reaper,
      congrArg (fun queued => queued.eraseIdx slot) configuring, clock⟩

/-- A step of the rest of the server. -/
theorem front_step {action : Action} {reply : Reply} (consistentBase : base.Consistent)
    (followsState : Follows base state) (allowed : action.sweeps = false)
    (notCall : base.strand action = none) (agree : base.FrontAgree state other)
    (taken : serverStep state action = some (next, reply)) :
    FrontStep base action state next other reply := by
  rcases rest_eq_iff.mp agree.rest with
    ⟨⟨pending, next_id, max_pending, deadline_ms, accepted, refused⟩, reaper, configuring, now, on⟩
  cases action with
  | tick elapsed =>
      cases taken
      refine frontStep_of_same agree { other with now := other.now + elapsed } rfl ?_
        rfl rfl rfl rfl rfl rfl rfl rfl rfl
      exact rest_eq_iff.mpr ⟨⟨pending, next_id, max_pending, deadline_ms, accepted, refused⟩,
        reaper, configuring, congrArg (· + elapsed) now, on⟩
  | arrive path body => exact arrive_frontStep followsState agree taken
  | handle_queued index => exact handle_queued_frontStep followsState agree taken
  | pump_inbound index =>
      exact connection_frontStep consistentBase followsState agree notCall (.inl rfl) taken
  | poll_frame index =>
      exact connection_frontStep consistentBase followsState agree notCall (.inr (.inl rfl)) taken
  | hang_up index =>
      exact connection_frontStep consistentBase followsState agree notCall (.inr (.inr rfl)) taken
  | read_into id buffer =>
      exact id_frontStep consistentBase followsState agree notCall (.inl ⟨_, rfl⟩) taken
  | write id data bytes =>
      exact id_frontStep consistentBase followsState agree notCall (.inr (.inl ⟨_, _, rfl⟩)) taken
  | complete id grpc_status message =>
      exact id_frontStep consistentBase followsState agree notCall
        (.inr (.inr (.inl ⟨_, _, rfl⟩))) taken
  | advance id =>
      exact id_frontStep consistentBase followsState agree notCall (.inr (.inr (.inr rfl))) taken
  | accept out_call_id out_method => exact accept_frontStep agree taken
  | configure limit ms => exact queue_configure_frontStep agree taken
  | store_deadline slot => exact store_deadline_frontStep agree taken
  | reap_loop | queue_free | server_stop => cases allowed

end Server

end Zpr.GrpcServer
