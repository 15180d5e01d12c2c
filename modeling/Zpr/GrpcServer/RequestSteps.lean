import Zpr.Foundation.Observation
import Zpr.GrpcServer.CallInvariant
import Zpr.GrpcServer.RequestHistory

namespace Zpr.GrpcServer

open Ffi

/-! # The requests of the queued server

Every step of the server is, for each single request, one of the events of
`RequestChange` or nothing at all. -/

/-- The message, if any, that an event returns to the host from call `id`. -/
def deliveredOf (id : Nat) : Action × Reply → List Bytes
  | (.read_into call_id _, .read reply) =>
      if call_id = id ∧ reply.rc = ZPR_CALL_MESSAGE then [reply.written] else []
  | _ => []

namespace Server

/-- What is in the inbound channel of an RPC. -/
def bufferAt (state : Server) (index : Nat) : List Bytes :=
  (state.rpcs[index]?).elim [] fun rpc => rpc.inbound.buffer

def readingAt (state : Server) (index : Nat) : Reading :=
  match state.enteredAt index with
  | none => .handler
  | some (id, _) =>
      match state.queue.live.find? id with
      | some call => .live call
      | none => .gone

def request (state : Server) (index : Nat) (rpc : Rpc) : Request where
  reading := state.readingAt index
  pump := rpc.pump
  inbound := rpc.inbound
  running := state.running

end Server

/-- The message, if any, that the pump of an RPC sends in one step. -/
def sentOf (index : Nat) : Note Server Action Reply Bytes := fun state action next _ =>
  match action with
  | .pump_inbound target =>
      if target = index then (next.bufferAt index).drop (state.bufferAt index).length else []
  | _ => []

/-- The actions that reach a request, its channel or its reader. -/
def Action.reachesRequests : Action → Bool
  | .handle_queued _ | .pump_inbound _ | .read_into _ _ | .complete _ _ _ | .advance _
  | .reap_loop | .queue_free | .server_stop => true
  | _ => false

/-- What the event did to the request of one RPC is an event of that request. -/
def Server.Requests (state next : Server) (event : Action × Reply) (index : Nat)
    (rpc after : Rpc) : Prop :=
  RequestChange (state.request index rpc) (sentOf index state event.1 next event.2)
    ((next.idAt index).elim [] fun id => deliveredOf id event) (next.request index after)

namespace Server

theorem readingAt_congr {state next : Server} (entered : next.enteredAt index = state.enteredAt index)
    (live : ∀ id ms, state.enteredAt index = some (id, ms) →
      next.queue.live.find? id = state.queue.live.find? id) :
    next.readingAt index = state.readingAt index := by
  unfold readingAt
  rw [entered]
  cases entry : state.enteredAt index with
  | none => rfl
  | some entry' =>
      dsimp only
      rw [live entry'.1 entry'.2 entry]

theorem readingAt_enters {id : Nat} {state next : Server}
    (entered : EntersLive state next index ms id) :
    next.readingAt index = .live (.admitted index (state.expires_at ms)) := by
  simp [readingAt, entered.enteredAt, entered.live, IdMap.find?_insert]

theorem readingAt_enters_other {id : Nat} {state next : Server} (consistent : state.Consistent)
    (entered : EntersLive state next index ms id) (different : other ≠ index) :
    next.readingAt other = state.readingAt other := by
  apply readingAt_congr
  · rw [entered.enteredAt, if_neg different]
  · intro otherId ms' enteredOther
    rw [entered.live, IdMap.find?_insert, if_neg]
    intro same
    rw [same] at enteredOther
    exact different (consistent.distinct _ _ _ (idAt_of_enteredAt enteredOther) entered.drawn)

theorem requests_of {rpc after : Rpc} {reading : Reading} {state next : Server}
    (sent : sentOf index state event.1 next event.2 = sentNow)
    (delivered : ((next.idAt index).elim [] fun id => deliveredOf id event) = deliveredNow)
    (now : next.readingAt index = reading)
    (change : RequestChange (state.request index rpc) sentNow deliveredNow
      { reading := reading, pump := after.pump, inbound := after.inbound,
        running := next.running }) : state.Requests next event index rpc after := by
  rw [Requests, sent, delivered]
  subst now
  exact change

theorem elim_undelivered (quiet : ∀ id, deliveredOf id event = []) (id? : Option Nat) :
    (id?.elim [] fun id => deliveredOf id event) = [] := by
  cases id? with
  | none => rfl
  | some id => exact quiet id

/-- A request of which nothing changes is left as it is. -/
theorem requests_same {rpc after : Rpc} {state next : Server}
    (unsent : sentOf index state event.1 next event.2 = [])
    (quiet : ∀ id, deliveredOf id event = []) (reading : next.readingAt index = state.readingAt index)
    (same : after.pump = rpc.pump ∧ after.inbound = rpc.inbound)
    (running : next.running = state.running) : state.Requests next event index rpc after := by
  apply requests_of unsent (elim_undelivered quiet _) reading
  rw [same.1, same.2, running]
  exact .same

/-- Calls are taken out of `live`. -/
theorem requests_leaves {ids : List Nat} {rpc after : Rpc}
    (left : LeavesLive state next remover outcome ids) (rpcs : next.rpcs = state.rpcs)
    (running : next.running = state.running) (unsent : sentOf index state event.1 next event.2 = [])
    (quiet : ∀ id, deliveredOf id event = []) (known : state.rpcs[index]? = some rpc)
    (found : next.rpcs[index]? = some after) : state.Requests next event index rpc after := by
  rw [rpcs, known] at found
  cases found
  by_cases taken : ∃ id ms, state.enteredAt index = some (id, ms) ∧ id ∈ ids
  · rcases taken with ⟨id, ms, entered, member⟩
    rcases left.held id member with ⟨call, held⟩
    have before : (state.request index rpc).reading = .live call := by
      simp [request, readingAt, entered, held]
    have now : next.readingAt index = .gone := by
      simp [readingAt, left.enteredAt, entered, left.live, member]
    apply requests_of unsent (elim_undelivered quiet _) now
    rw [running]
    exact .left call before
  · apply requests_same unsent quiet ?_ ⟨rfl, rfl⟩ running
    apply readingAt_congr (left.enteredAt index)
    intro id ms entered
    rw [left.live, if_neg]
    intro member
    exact taken ⟨id, ms, entered, member⟩

/-- What changes the requests neither directly nor through `live`. -/
structure SameRequests (state next : Server) : Prop where
  live : next.queue.live = state.queue.live
  running : next.running = state.running
  rpcs : ∀ (index : Nat) rpc after, state.rpcs[index]? = some rpc →
    next.rpcs[index]? = some after → after.pump = rpc.pump ∧ after.inbound = rpc.inbound

theorem sameRequests_of_rpcs {state next : Server} (live : next.queue.live = state.queue.live)
    (running : next.running = state.running) (rpcs : next.rpcs = state.rpcs) :
    SameRequests state next := by
  refine ⟨live, running, fun index rpc after known found => ?_⟩
  rw [rpcs, known] at found
  cases found
  exact ⟨rfl, rfl⟩

theorem sameRequests_update (state : Server) (index : Nat) (change : Rpc → Rpc)
    (same : ∀ rpc, (change rpc).pump = rpc.pump ∧ (change rpc).inbound = rpc.inbound) :
    SameRequests state (state.update index change) := by
  refine ⟨rfl, rfl, fun other rpc after known found => ?_⟩
  rcases update_cases known found with ⟨_, rfl⟩ | ⟨_, rfl⟩
  · exact same rpc
  · exact ⟨rfl, rfl⟩

end Server

/-- The steps that touch no request. -/
theorem serverStep_sameRequests (taken : serverStep state action = some (next, reply))
    (elsewhere : action.reachesRequests = false) : Server.SameRequests state next := by
  cases action with
  | handle_queued | pump_inbound | read_into | complete | advance | reap_loop | queue_free
  | server_stop => cases elsewhere
  | tick elapsed =>
      cases taken
      exact Server.sameRequests_of_rpcs rfl rfl rfl
  | arrive path body =>
      rcases serverStep_arrive_cases taken with ⟨_, rfl, _⟩
      refine ⟨rfl, rfl, fun index rpc after known found => ?_⟩
      have inside : index < state.rpcs.length := (List.getElem?_eq_some_iff.mp known).1
      rw [List.getElem?_append_left inside, known] at found
      cases found
      exact ⟨rfl, rfl⟩
  | poll_frame index =>
      rcases Server.poll_frame_cases taken with
        ⟨_, _, _, _, ⟨_, _, _, _, rfl⟩ | ⟨_, _, rfl⟩⟩
      · exact Server.sameRequests_update _ _ _ fun _ => ⟨rfl, rfl⟩
      · exact Server.sameRequests_update _ _ _ fun _ => ⟨rfl, rfl⟩
  | hang_up index =>
      rcases Server.hang_up_cases taken with ⟨_, _, _, _, rfl⟩
      exact Server.sameRequests_update _ _ _ fun _ => ⟨rfl, rfl⟩
  | accept out_call_id out_method =>
      rcases serverStep_accept_cases taken with ⟨rfl, _⟩ | ⟨_, _, _, _, _, rfl, _⟩
      · exact Server.sameRequests_of_rpcs rfl rfl rfl
      · exact Server.sameRequests_of_rpcs rfl rfl rfl
  | write call_id data bytes =>
      rcases Server.call_write_cases taken with ⟨_, _, _, _, rfl⟩ | ⟨_, _, _, _, _, _, rfl⟩
      · exact Server.sameRequests_of_rpcs rfl rfl rfl
      · exact Server.sameRequests_update _ _ _ fun _ => ⟨rfl, rfl⟩
  | configure max_pending deadline_ms =>
      rcases Server.queue_configure_cases (Option.some.inj taken) with
        ⟨_, rfl, _⟩ | ⟨_, _, rfl⟩
      · exact Server.sameRequests_of_rpcs rfl rfl rfl
      · exact Server.sameRequests_of_rpcs rfl rfl rfl
  | store_deadline position =>
      rcases Server.store_deadline_cases taken with ⟨deadline_ms, _, _, rfl⟩
      exact Server.sameRequests_of_rpcs rfl rfl rfl

namespace Server

theorem handle_queued_requests {state : Server} {rpc after : Rpc} (consistent : state.Consistent)
    (taken : state.handle_queued target = some (next, reply))
    (known : state.rpcs[index]? = some rpc) (found : next.rpcs[index]? = some after)
    (notRefused : after.arrival ≠ .refused) :
    state.Requests next (.handle_queued target, reply) index rpc after := by
  rcases handle_queued_cases taken with ⟨handling, handled, queue, targetKnown, step, rfl, rfl⟩
  have quiet : ∀ id, deliveredOf id (.handle_queued target, .silent) = [] := fun _ => rfl
  -- all but the insertion leave `live` alone, and whether the RPC has entered
  have unentered : queue.live = state.queue.live →
      handled.arrival.entered? = handling.arrival.entered? →
      (after.pump = rpc.pump ∧ after.inbound = rpc.inbound) →
      state.Requests ({ state with queue := queue }.update target fun _ => handled)
        (.handle_queued target, .silent) index rpc after := by
    intro live entry same
    suffices reading : readingAt ({ state with queue := queue }.update target fun _ => handled)
        index = state.readingAt index from requests_same rfl quiet reading same rfl
    apply readingAt_congr
    · apply update_rpcs_bind { state with queue := queue } target
      intro other otherKnown
      cases targetKnown.symm.trans otherKnown
      exact entry
    · intro id ms _
      rw [update_queue, live]
  rcases update_cases known found with ⟨rfl, rfl⟩ | ⟨different, rfl⟩
  · cases known.symm.trans targetKnown
    cases step with
    | refuses => exact absurd rfl notRefused
    | admits arrival | stamps arrival =>
        exact unentered rfl (by simp [arrival, Arrival.entered?]) ⟨rfl, rfl⟩
    | draws ms arrival | pushes ms id arrival =>
        exact unentered rfl (by simp [arrival, Arrival.entered?]) ⟨rfl, rfl⟩
    | inserts ms id arrival =>
        have entered := entersLive_of_inserts known arrival
        have before : (state.request target rpc).reading = .handler := by
          simp [request, readingAt, entered.outside]
        have now := readingAt_enters entered
        apply requests_of rfl (elim_undelivered quiet _) now
        exact .entered _ before rfl rfl
  · cases step with
    | refuses arrival | admits arrival | stamps arrival =>
        exact unentered rfl (by simp [arrival, Arrival.entered?]) ⟨rfl, rfl⟩
    | draws ms arrival | pushes ms id arrival =>
        exact unentered rfl (by simp [arrival, Arrival.entered?]) ⟨rfl, rfl⟩
    | inserts ms id arrival =>
        have entered := entersLive_of_inserts targetKnown arrival
        exact requests_same rfl quiet (readingAt_enters_other consistent entered (Ne.symm different))
          ⟨rfl, rfl⟩ rfl

theorem pump_inbound_requests {state : Server} {rpc after : Rpc}
    (taken : state.pump_inbound target = some (next, reply))
    (known : state.rpcs[index]? = some rpc) (found : next.rpcs[index]? = some after) :
    state.Requests next (.pump_inbound target, reply) index rpc after := by
  have calls := (pump_inbound_calls taken).sameCalls
  rcases pump_inbound_cases taken with
    ⟨pumping, pump, inbound, running, targetKnown, stepped, rfl, rfl⟩
  have reading := readingAt_congr (calls.enteredAt index) fun id ms _ => rfl
  rcases update_cases known found with ⟨rfl, rfl⟩ | ⟨different, rfl⟩
  · cases known.symm.trans targetKnown
    have sent : sentOf target state (.pump_inbound target) (state.update target fun rpc =>
        { rpc with pump := pump, inbound := inbound }) .silent =
          inbound.buffer.drop rpc.inbound.buffer.length := by
      simp [sentOf, bufferAt, known, found]
    apply requests_of sent (elim_undelivered (fun _ => rfl) _) reading
    exact .pumped pump inbound running stepped
  · apply requests_same ?_ (fun _ => rfl) reading ⟨rfl, rfl⟩ rfl
    simp [sentOf, different]

theorem call_read_into_requests {state : Server} {rpc after : Rpc} (consistent : state.Consistent)
    (taken : state.call_read_into call_id buffer = some (next, reply))
    (known : state.rpcs[index]? = some rpc) (found : next.rpcs[index]? = some after) :
    state.Requests next (.read_into call_id buffer, reply) index rpc after := by
  have calls := (call_read_into_calls taken).sameCalls
  rcases call_read_into_cases taken with
    ⟨absent, rfl, rfl⟩ | ⟨call, target, read, inbound, answer, held, targetKnown, answered, rfl, rfl⟩
  · cases known.symm.trans found
    apply requests_same rfl ?_ rfl ⟨rfl, rfl⟩ rfl
    intro id
    simp [deliveredOf, ZPR_ERR, ZPR_CALL_MESSAGE]
  · rcases (consistent.live call_id call held).1 with ⟨sameRpc, ms, entered⟩
    rw [← sameRpc] at entered
    have drawn := idAt_of_enteredAt entered
    rcases update_cases known found with ⟨rfl, rfl⟩ | ⟨different, rfl⟩
    · cases known.symm.trans targetKnown
      have before : (state.request call.inbound_rx rpc).reading = .live call := by
        simp [request, readingAt, entered, held]
      have outcome := call.readStep rpc.inbound buffer
      rw [answered] at outcome
      have now : Server.readingAt (update { state with queue := { state.queue with
            live := state.queue.live.insert call_id read } } call.inbound_rx fun rpc =>
              { rpc with inbound := inbound }) call.inbound_rx = .live read := by
        simp [readingAt, calls.enteredAt, entered, IdMap.find?_insert]
      apply requests_of rfl ?_ now
      · exact .read call read inbound answer before outcome
      · rw [calls.idAt, drawn]
        simp [deliveredOf]
    · have nothing : (state.idAt index).elim [] (fun id =>
          deliveredOf id (.read_into call_id buffer, .read answer)) = [] := by
        cases own : state.idAt index with
        | none => rfl
        | some id =>
            rw [Option.elim_some, deliveredOf, if_neg]
            intro same
            rw [← same.1] at own
            exact different (consistent.distinct _ _ _ drawn own)
      have reading : Server.readingAt (update { state with queue := { state.queue with
            live := state.queue.live.insert call_id read } } call.inbound_rx fun rpc =>
              { rpc with inbound := inbound }) index = state.readingAt index := by
        apply readingAt_congr (calls.enteredAt index)
        intro id ms' enteredHere
        rw [update_queue, IdMap.find?_insert, if_neg]
        intro same
        rw [same] at enteredHere
        exact different (consistent.distinct _ _ _ drawn (idAt_of_enteredAt enteredHere))
      apply requests_of rfl ?_ reading
      · exact .same
      · rw [calls.idAt]
        exact nothing

theorem advance_requests {state : Server} {rpc after : Rpc} (consistent : state.Consistent)
    (taken : state.advance call_id = some (next, reply))
    (known : state.rpcs[index]? = some rpc) (found : next.rpcs[index]? = some after) :
    state.Requests next (.advance call_id, reply) index rpc after := by
  rcases advance_goesOn taken with ⟨rfl, _, removal, moved⟩
  have reading := readingAt_congr (moved.enteredAt index) fun id ms _ => by rw [moved.live]
  have quiet : ∀ id, deliveredOf id (.advance call_id, .silent) = [] := fun _ => rfl
  rcases consistent.removed call_id removal moved.held with ⟨owns, status⟩
  rcases advance_cases taken with ⟨other, held, _, ⟨stage, rfl⟩ | ⟨stage, rfl⟩ | ⟨stage, rfl⟩⟩
  · cases moved.held.symm.trans held
    rw [stage, if_pos rfl] at status
    rw [status, send_status] at found
    apply requests_same rfl quiet reading
    · rcases update_cases known found with ⟨_, rfl⟩ | ⟨_, rfl⟩ <;> exact ⟨rfl, rfl⟩
    · rw [status]
      rfl
  · cases known.symm.trans found
    exact requests_same rfl quiet reading ⟨rfl, rfl⟩ rfl
  · cases moved.held.symm.trans held
    have noStatus : removal.call.status_tx = none := by simpa [stage] using status
    have running : (drop_call { state with removed := state.removed.erase call_id }
        removal.call).running = state.running := by
      rcases drop_call_eq _ removal.call with ⟨rpcs, dropped⟩
      rw [dropped]
    rcases drop_call_cases owns.inbound noStatus found known with ⟨rfl, rfl⟩ | ⟨_, rfl⟩
    · rcases owns.entered with ⟨ms, entered⟩
      have gone : state.readingAt removal.call.outbound_tx = .gone := by
        simp [readingAt, entered, consistent.not_live_of_removed moved.held]
      apply requests_of rfl (elim_undelivered quiet _) reading
      rw [running]
      exact .dropped gone
    · exact requests_same rfl quiet reading ⟨rfl, rfl⟩ running

theorem call_complete_requests {state : Server} {rpc after : Rpc}
    (taken : state.call_complete call_id grpc_status message = (next, reply))
    (known : state.rpcs[index]? = some rpc) (found : next.rpcs[index]? = some after) :
    state.Requests next (.complete call_id grpc_status message, reply) index rpc after := by
  rcases call_complete_cases taken with ⟨_, rfl, rfl, _⟩ | ⟨msg, call, _, held, rfl, rfl⟩
  · cases known.symm.trans found
    exact requests_same rfl (fun _ => rfl) rfl ⟨rfl, rfl⟩ rfl
  · refine requests_leaves (take_leavesLive state .complete (grpc_status, msg) ?_) rfl rfl rfl
      (fun _ => rfl) known found
    intro id member
    cases List.mem_singleton.mp member
    exact ⟨call, held⟩

theorem reap_loop_requests {state : Server} {rpc after : Rpc}
    (taken : state.reap_loop = some (next, reply)) (known : state.rpcs[index]? = some rpc)
    (found : next.rpcs[index]? = some after) :
    state.Requests next (.reap_loop, reply) index rpc after := by
  rcases reap_loop_cases taken with ⟨rfl, rfl | rfl | rfl⟩ | ⟨now, _, rfl, rfl⟩
  · cases known.symm.trans found
    exact requests_same rfl (fun _ => rfl) rfl ⟨rfl, rfl⟩ rfl
  · cases known.symm.trans found
    exact requests_same rfl (fun _ => rfl) rfl ⟨rfl, rfl⟩ rfl
  · cases known.symm.trans found
    exact requests_same rfl (fun _ => rfl) rfl ⟨rfl, rfl⟩ rfl
  · refine requests_leaves
      { take_leavesLive { state with reaper := .waiting } .reaper reaperStatus ?_ with } rfl rfl rfl
      (fun _ => rfl) known found
    intro id member
    rcases mem_expired.mp member with ⟨call, held, _⟩
    exact ⟨call, held⟩

theorem queue_free_requests {state : Server} {rpc after : Rpc}
    (known : state.rpcs[index]? = some rpc) (found : state.queue_free.1.rpcs[index]? = some after) :
    state.Requests state.queue_free.1 (.queue_free, state.queue_free.2) index rpc after := by
  refine requests_leaves (take_leavesLive state .free freeStatus ?_) rfl rfl rfl (fun _ => rfl)
    known found
  intro id member
  exact IdMap.mem_keys.mp member

theorem server_stop_requests {state : Server} {rpc after : Rpc}
    (taken : state.server_stop = some (next, reply)) (known : state.rpcs[index]? = some rpc)
    (found : next.rpcs[index]? = some after) :
    state.Requests next (.server_stop, reply) index rpc after := by
  have calls := (server_stop_calls taken).sameCalls
  rcases server_stop_cases taken with ⟨_, _, _, _, rfl, rfl⟩
  simp only [List.getElem?_map, known, Option.map_some, Option.some.injEq] at found
  subst found
  have reading := readingAt_congr (calls.enteredAt index) fun id ms _ => rfl
  exact requests_of rfl (elim_undelivered (fun _ => rfl) _) reading .stopped

end Server

/-- Every step of the server is one event, or none, of each single request. -/
theorem serverStep_requests {rpc after : Rpc} (consistent : state.Consistent)
    (taken : serverStep state action = some (next, reply))
    (known : state.rpcs[index]? = some rpc) (found : next.rpcs[index]? = some after)
    (notRefused : after.arrival ≠ .refused) :
    state.Requests next (action, reply) index rpc after := by
  have others : action.reachesRequests = false → action.movesCalls = false →
      (∀ id, deliveredOf id (action, reply) = []) → sentOf index state action next reply = [] →
      state.Requests next (action, reply) index rpc after := by
    intro elsewhere unmoved quiet unsent
    have same := serverStep_sameRequests taken elsewhere
    have calls := serverStep_sameCalls taken unmoved
    have reading : next.readingAt index = state.readingAt index := by
      apply Server.readingAt_congr (calls.enteredAt index)
      intro id ms _
      rw [same.live]
    exact Server.requests_same unsent quiet reading (same.rpcs index rpc after known found)
      same.running
  cases action with
  | handle_queued target =>
      exact Server.handle_queued_requests consistent taken known found notRefused
  | pump_inbound target => exact Server.pump_inbound_requests taken known found
  | read_into call_id buffer => exact Server.call_read_into_requests consistent taken known found
  | complete call_id grpc_status message =>
      exact Server.call_complete_requests (Option.some.inj taken) known found
  | advance call_id => exact Server.advance_requests consistent taken known found
  | reap_loop => exact Server.reap_loop_requests taken known found
  | queue_free =>
      cases taken
      exact Server.queue_free_requests known found
  | server_stop => exact Server.server_stop_requests taken known found
  | _ => exact others rfl rfl (fun _ => rfl) rfl

end Zpr.GrpcServer
