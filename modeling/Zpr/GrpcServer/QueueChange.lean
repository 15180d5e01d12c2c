import Zpr.GrpcServer.QueuedServerStep

namespace Zpr.GrpcServer

open Ffi

/-! # What one step does to the queue

Apart from `live`, the queue is `pending`, two settings and five counters. Each of
them has one or two places where it changes. -/

/-- Everything that one step can do to the queue. -/
inductive QueueChange (state : Server) : Action → CallQueue → Prop
  | same (action : Action) (live : IdMap LiveCall) :
      QueueChange state action { state.queue with live := live }
  | handles (index : Nat) (rpc after : Rpc) (queue : CallQueue)
      (known : state.rpcs[index]? = some rpc)
      (handled : HandleStep state index rpc after queue) :
      QueueChange state (.handle_queued index) queue
  | accepts (out_call_id : Pointer) (out_method : Buffer) (call : Nat × String)
      (pending : List (Nat × String)) (held : state.queue.pending = call :: pending) :
      QueueChange state (.accept out_call_id out_method)
        { state.queue with pending := pending, accepted := state.queue.accepted + 1 }
  | counts (id : Nat) (removal : Removed) (held : state.removed.find? id = some removal)
      (answered : removal.stage = .answered) :
      QueueChange state (.advance id) (removal.remover.count state.queue)
  | configures (max_pending deadline_ms : Nat) (positive : max_pending ≠ 0) :
      QueueChange state (.configure max_pending deadline_ms)
        { state.queue with max_pending := max_pending }
  | stores (index deadline_ms : Nat) (known : state.configuring[index]? = some deadline_ms) :
      QueueChange state (.store_deadline index) { state.queue with deadline_ms := deadline_ms }

theorem serverStep_queue (taken : serverStep state action = some (next, reply)) :
    QueueChange state action next.queue := by
  cases action with
  | tick elapsed =>
      cases taken
      exact .same _ state.queue.live
  | arrive path body =>
      rcases serverStep_arrive_cases taken with ⟨_, rfl, _⟩
      exact .same _ state.queue.live
  | handle_queued index =>
      rcases Server.handle_queued_cases taken with ⟨rpc, after, queue, known, handled, rfl, _⟩
      exact .handles index rpc after queue known handled
  | pump_inbound index =>
      rcases Server.pump_inbound_cases taken with ⟨_, _, _, _, _, _, _, rfl⟩
      exact .same _ state.queue.live
  | poll_frame index =>
      rcases Server.poll_frame_cases taken with
        ⟨_, _, _, _, ⟨_, _, _, _, rfl⟩ | ⟨_, _, rfl⟩⟩
      · exact .same _ state.queue.live
      · exact .same _ state.queue.live
  | hang_up index =>
      rcases Server.hang_up_cases taken with ⟨_, _, _, _, rfl⟩
      exact .same _ state.queue.live
  | accept out_call_id out_method =>
      rcases serverStep_accept_cases taken with
        ⟨rfl, _⟩ | ⟨id, path, pending, answer, held, rfl, _⟩
      · exact .same _ _
      · exact .accepts out_call_id out_method (id, path) pending held
  | read_into call_id buffer =>
      rcases Server.call_read_into_cases taken with
        ⟨_, rfl, _⟩ | ⟨_, _, read, _, _, _, _, _, _, rfl⟩
      · exact .same _ _
      · exact .same _ (state.queue.live.insert call_id read)
  | write call_id data bytes =>
      rcases Server.call_write_cases taken with ⟨_, _, _, _, rfl⟩ | ⟨_, _, _, _, _, _, rfl⟩
      · exact .same _ _
      · exact .same _ state.queue.live
  | complete call_id grpc_status message =>
      rcases Server.call_complete_cases (Option.some.inj taken) with
        ⟨_, _, rfl, _⟩ | ⟨_, _, _, _, _, rfl⟩
      · exact .same _ _
      · exact .same _ _
  | advance call_id =>
      rcases Server.advance_cases taken with
        ⟨removal, held, _, ⟨_, rfl⟩ | ⟨stage, rfl⟩ | ⟨_, rfl⟩⟩
      · rcases Server.send_status_eq _ removal.call.status_tx removal.outcome with ⟨rpcs, answered⟩
        rw [answered]
        exact .same _ state.queue.live
      · exact .counts call_id removal held stage
      · rcases Server.drop_call_eq _ removal.call with ⟨rpcs, dropped⟩
        rw [dropped]
        exact .same _ state.queue.live
  | configure max_pending deadline_ms =>
      rcases Server.queue_configure_cases (Option.some.inj taken) with
        ⟨_, rfl, _⟩ | ⟨positive, _, rfl⟩
      · exact .same _ _
      · exact .configures max_pending deadline_ms positive
  | store_deadline index =>
      rcases Server.store_deadline_cases taken with ⟨deadline_ms, known, _, rfl⟩
      exact .stores index deadline_ms known
  | reap_loop =>
      rcases Server.reap_loop_cases taken with ⟨_, rfl | rfl | rfl⟩ | ⟨now, _, _, rfl⟩
      · exact .same _ _
      · exact .same _ state.queue.live
      · exact .same _ state.queue.live
      · exact .same _ _
  | queue_free =>
      cases taken
      exact .same _ _
  | server_stop =>
      rcases Server.server_stop_cases taken with ⟨_, _, _, _, _, rfl⟩
      exact .same _ state.queue.live

namespace QueueChange

variable {state : Server} {action : Action} {queue : CallQueue}

/-- The settings are the host's. -/
theorem max_pending_cases (change : QueueChange state action queue) :
    queue.max_pending = state.queue.max_pending ∨
      ∃ deadline_ms, action = .configure queue.max_pending deadline_ms := by
  cases change with
  | configures max_pending deadline_ms => exact .inr ⟨deadline_ms, rfl⟩
  | handles index rpc after queue known handled => cases handled <;> exact .inl rfl
  | counts id removal => cases remover : removal.remover <;> exact .inl rfl
  | same | accepts | stores => exact .inl rfl

/-- Only an accept takes a call from `pending`, and what comes goes to the end. -/
theorem pending_grows (change : QueueChange state action queue)
    (notAccept : ∀ out_call_id out_method, action ≠ .accept out_call_id out_method) :
    ∃ more, queue.pending = state.queue.pending ++ more := by
  cases change with
  | handles index rpc after queue known handled =>
      cases handled with
      | pushes ms id => exact ⟨_, rfl⟩
      | refuses | admits | stamps | draws | inserts => exact ⟨[], (List.append_nil _).symm⟩
  | accepts out_call_id out_method => exact absurd rfl (notAccept out_call_id out_method)
  | counts id removal =>
      cases remover : removal.remover <;> exact ⟨[], (List.append_nil _).symm⟩
  | same | configures | stores => exact ⟨[], (List.append_nil _).symm⟩

end QueueChange

end Zpr.GrpcServer
