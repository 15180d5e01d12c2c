import Zpr.GrpcServer.Deadline
import Zpr.GrpcServer.QueuedReads

namespace Zpr.GrpcServer

/-! # RPCs whose client is connected

The client of an RPC is connected only as long as the runtime is there, and the channels
of an RPC never change their size. -/

theorem OutboundBody.poll_status_rx (body : OutboundBody) : body.poll_status.1.rx = body.rx := by
  cases polled : body.status_rx <;> simp [poll_status, Oneshot.poll, polled]

theorem OutboundBody.poll_frame_capacity (body : OutboundBody) :
    body.poll_frame.1.rx.capacity = body.rx.capacity := by
  rcases body.poll_frame_spec with
    ⟨msg, buffer, _, _, shows⟩ | ⟨_, _, _, waits⟩ | ⟨_, turns⟩ | ⟨_, ends⟩
  · rw [shows]
  · rw [waits]
  · rw [turns, poll_status_rx]
  · rw [ends]

theorem ResponseChange.capacity {response next : Response}
    (change : ResponseChange response newWrites newRemovals newFrames next) :
    next.body.rx.capacity = response.body.rx.capacity := by
  cases change with
  | polled body frame connected ready =>
      have same := response.body.poll_frame_capacity
      rw [ready] at same
      exact same
  | waited body connected pending =>
      have same := response.body.poll_frame_capacity
      rw [pending] at same
      exact same
  | _ => rfl

/-- A response once given up stays given up. -/
theorem ResponseChange.connected {response next : Response}
    (change : ResponseChange response newWrites newRemovals newFrames next)
    (connected : next.connected = true) : response.connected = true := by
  cases change with
  | hungUp => cases connected
  | _ => exact connected

theorem RequestChange.capacity {request next : Request} {sent returned : List Bytes}
    (change : RequestChange request sent returned next) :
    next.inbound.capacity = request.inbound.capacity := by
  cases change with
  | pumped pump inbound running stepped => exact Pump.step_capacity stepped
  | read call read inbound reply reading answered => cases answered <;> rfl
  | _ => rfl

/-- What is known of every RPC that has not been refused. -/
structure Connections (state : Server) : Prop where
  consistent : state.Consistent
  running : ∀ (index : Nat) rpc, state.rpcs[index]? = some rpc → rpc.arrival ≠ .refused →
    rpc.connected = true → state.running = true
  room : ∀ (index : Nat) rpc, state.rpcs[index]? = some rpc → rpc.arrival ≠ .refused →
    rpc.inbound.capacity = 8 ∧ rpc.body.rx.capacity = 8

namespace Connections

theorem start : Connections .start where
  consistent := .start
  running index rpc known := by simp [Server.start] at known
  room index rpc known := by simp [Server.start] at known

/-- The client of an RPC was connected before if it is so now. -/
theorem connected_before {index : Nat} {rpc after : Rpc} (consistent : state.Consistent)
    (taken : serverStep state action = some (next, reply))
    (known : state.rpcs[index]? = some rpc) (found : next.rpcs[index]? = some after)
    (notRefused : after.arrival ≠ .refused) (connected : after.connected = true) :
    rpc.connected = true :=
  (serverStep_responds consistent taken known found notRefused).connected connected

theorem step (connections : Connections state)
    (taken : serverStep state action = some (next, reply)) : Connections next := by
  refine ⟨connections.consistent.step (serverStep_calls taken), ?_, ?_⟩
  · intro index after found notRefused connected
    have notStopped : action ≠ .server_stop := by
      rintro rfl
      rcases Server.server_stop_cases taken with ⟨_, _, _, _, _, rfl⟩
      rw [List.getElem?_map, Option.map_eq_some_iff] at found
      rcases found with ⟨rpc, _, rfl⟩
      cases connected
    rw [serverStep_running taken notStopped]
    cases known : state.rpcs[index]? with
    | some rpc =>
        exact connections.running index rpc known (serverStep_notRefused taken known found notRefused)
          (connected_before connections.consistent taken known found notRefused connected)
    | none =>
        rcases serverStep_new_rpc taken known found with ⟨path, body, rfl, rfl⟩
        exact (serverStep_arrive_cases taken).1
  · intro index after found notRefused
    cases known : state.rpcs[index]? with
    | some rpc =>
        have before := connections.room index rpc known
          (serverStep_notRefused taken known found notRefused)
        have request := serverStep_requests connections.consistent taken known found notRefused
        have response := serverStep_responds connections.consistent taken known found notRefused
        exact ⟨request.capacity.trans before.1, response.capacity.trans before.2⟩
    | none =>
        rcases serverStep_new_rpc taken known found with ⟨path, body, rfl, rfl⟩
        exact ⟨rfl, rfl⟩

end Connections

theorem connections_of_run (run : RunWhere condition serverStep .start trace state) :
    Connections state :=
  run.stateInvariant Connections .start fun connections _ taken => connections.step taken

/-- Once the server has been stopped the runtime is gone. -/
theorem stopped_of_mem (run : RunWhere condition serverStep state trace final)
    (member : (.server_stop, reply) ∈ trace) : final.running = false := by
  rcases List.append_of_mem member with ⟨earlier, later, cut⟩
  rcases run.split cut with ⟨before, after, _, _, taken, rest⟩
  rcases Server.server_stop_cases taken with ⟨_, _, _, _, _, rfl⟩
  exact stopped_of_run rest rfl

end Zpr.GrpcServer
