import Zpr.GrpcServer.CallOwnership

namespace Zpr.GrpcServer

open Ffi

/-! # The calls that wait to be accepted

`pending` grows only at its end, by `handle_queued`, and shrinks only at its
front, by `zpr_grpc_accept`. -/

/-- The id, if any, that an event returns to the host as accepted. -/
def acceptedOf : Action × Reply → List Nat
  | (.accept _ _, .accepted reply) =>
      if reply.rc = ZPR_CALL_MESSAGE then reply.out_call_id.toList else []
  | _ => []

/-- Neither the clock, nor the reaper, nor the end of the server, nor an action on
`pending`. -/
def Action.apart : Action → Bool
  | .tick _ | .handle_queued _ | .accept _ _ | .reap_loop | .server_stop => false
  | _ => true

def Action.handles : Action → Bool
  | .handle_queued _ => true
  | _ => false

/-- The actions that put a call into `pending` or take one out. -/
def Action.queues (action : Action) : Bool :=
  match action with
  | .accept _ _ => true
  | _ => action.handles

/-- `pending`, the clock, the reaper and the runtime are left alone. -/
structure Apart (state next : Server) : Prop where
  pending : next.queue.pending = state.queue.pending
  now : next.now = state.now
  reaper : next.reaper = state.reaper
  running : next.running = state.running

theorem serverStep_apart (taken : serverStep state action = some (next, reply))
    (apart : action.apart = true) : Apart state next := by
  cases action with
  | accept | handle_queued | tick | reap_loop | server_stop => cases apart
  | arrive path body =>
      rcases serverStep_arrive_cases taken with ⟨_, rfl, _⟩
      exact ⟨rfl, rfl, rfl, rfl⟩
  | pump_inbound index =>
      rcases Server.pump_inbound_cases taken with ⟨_, _, _, _, _, _, _, rfl⟩
      exact ⟨rfl, rfl, rfl, rfl⟩
  | poll_frame index =>
      rcases Server.poll_frame_cases taken with
        ⟨_, _, _, _, ⟨_, _, _, _, rfl⟩ | ⟨_, _, rfl⟩⟩
      · exact ⟨rfl, rfl, rfl, rfl⟩
      · exact ⟨rfl, rfl, rfl, rfl⟩
  | hang_up index =>
      rcases Server.hang_up_cases taken with ⟨_, _, _, _, rfl⟩
      exact ⟨rfl, rfl, rfl, rfl⟩
  | read_into call_id buffer =>
      rcases Server.call_read_into_cases taken with
        ⟨_, rfl, _⟩ | ⟨_, _, _, _, _, _, _, _, _, rfl⟩
      · exact ⟨rfl, rfl, rfl, rfl⟩
      · exact ⟨rfl, rfl, rfl, rfl⟩
  | write call_id data bytes =>
      rcases Server.call_write_cases taken with ⟨_, _, _, _, rfl⟩ | ⟨_, _, _, _, _, _, rfl⟩
      · exact ⟨rfl, rfl, rfl, rfl⟩
      · exact ⟨rfl, rfl, rfl, rfl⟩
  | complete call_id grpc_status message =>
      rcases Server.call_complete_cases (Option.some.inj taken) with
        ⟨_, _, rfl, _⟩ | ⟨_, _, _, _, _, rfl⟩
      · exact ⟨rfl, rfl, rfl, rfl⟩
      · exact ⟨rfl, rfl, rfl, rfl⟩
  | advance call_id =>
      rcases Server.advance_cases taken with
        ⟨removal, _, _, ⟨_, rfl⟩ | ⟨_, rfl⟩ | ⟨_, rfl⟩⟩
      · rcases Server.send_status_eq _ removal.call.status_tx removal.outcome with ⟨rpcs, answered⟩
        rw [answered]
        exact ⟨rfl, rfl, rfl, rfl⟩
      · cases remover : removal.remover <;> exact ⟨rfl, rfl, rfl, rfl⟩
      · rcases Server.drop_call_eq _ removal.call with ⟨rpcs, dropped⟩
        rw [dropped]
        exact ⟨rfl, rfl, rfl, rfl⟩
  | configure max_pending deadline_ms =>
      rcases Server.queue_configure_cases (Option.some.inj taken) with
        ⟨_, rfl, _⟩ | ⟨_, _, rfl⟩
      · exact ⟨rfl, rfl, rfl, rfl⟩
      · exact ⟨rfl, rfl, rfl, rfl⟩
  | store_deadline index =>
      rcases Server.store_deadline_cases taken with ⟨_, _, _, rfl⟩
      exact ⟨rfl, rfl, rfl, rfl⟩
  | queue_free =>
      cases taken
      exact ⟨rfl, rfl, rfl, rfl⟩

theorem serverStep_pending (taken : serverStep state action = some (next, reply))
    (elsewhere : action.queues = false) : next.queue.pending = state.queue.pending := by
  cases action with
  | accept | handle_queued => cases elsewhere
  | tick time =>
      cases taken
      rfl
  | reap_loop =>
      rcases Server.reap_loop_cases taken with
        ⟨_, rfl | rfl | rfl⟩ | ⟨now, _, _, rfl⟩ <;> rfl
  | server_stop =>
      rcases Server.server_stop_cases taken with ⟨_, _, _, _, _, rfl⟩
      rfl
  | _ => exact (serverStep_apart taken rfl).pending

/-! ## Arrivals -/

def Server.arrivalAt (state : Server) (index : Nat) : Option Arrival :=
  (state.rpcs[index]?).map Rpc.arrival

theorem Server.idAt_eq_arrivalAt (state : Server) (index : Nat) :
    state.idAt index = (state.arrivalAt index).bind Arrival.id? := by
  rw [arrivalAt, Option.bind_map]
  rfl

theorem Server.arrivalAt_handle {state : Server} {queue : CallQueue} {after : Rpc}
    (known : state.rpcs[index]? = some rpc) (other : Nat) :
    ({ state with queue := queue }.update index fun _ => after).arrivalAt other =
      if other = index then some after.arrival else state.arrivalAt other := by
  simp only [Server.arrivalAt, Server.update_rpcs, eq_comm (a := index)]
  split
  · rename_i own
    rw [own, known]
    rfl
  · rfl

/-- Apart from `handle_queued`, steps leave arrivals alone or add a new one. -/
theorem serverStep_arrivalAt (taken : serverStep state action = some (next, reply))
    (elsewhere : action.handles = false) (index : Nat) :
    next.arrivalAt index = state.arrivalAt index ∨
      state.arrivalAt index = none ∧ next.arrivalAt index = some .arrived := by
  unfold Server.arrivalAt
  cases known : state.rpcs[index]? with
  | some rpc =>
      rcases serverStep_keeps_rpc taken known with ⟨after, found, _, same | ⟨handling, _⟩⟩
      · exact .inl (by rw [found, Option.map_some, Option.map_some, same])
      · rw [handling] at elsewhere
        cases elsewhere
  | none =>
      cases found : next.rpcs[index]? with
      | none => exact .inl rfl
      | some after =>
          rcases serverStep_new_rpc taken known found with ⟨path, body, _, rfl⟩
          exact .inr ⟨rfl, rfl⟩

/-- How far an RPC has got it had got before. -/
theorem arrivalAt_was (taken : serverStep state action = some (next, reply))
    (elsewhere : action.handles = false) (arrival : next.arrivalAt index = some what)
    (movedOn : what ≠ .arrived) : state.arrivalAt index = some what := by
  rcases serverStep_arrivalAt taken elsewhere index with same | ⟨_, arrived⟩
  · rw [← same, arrival]
  · rw [arrived, Option.some.injEq] at arrival
    exact absurd arrival.symm movedOn

end Zpr.GrpcServer
