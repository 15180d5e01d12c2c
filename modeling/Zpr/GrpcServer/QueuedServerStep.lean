import Zpr.GrpcServer.QueuedServer

namespace Zpr.GrpcServer

open Ffi

/-! # What one step of the queued server can do

One lemma for each operation, with its guards: later modules do not unfold the
operations. -/

namespace Server

@[simp] theorem update_queue (state : Server) (index : Nat) (change : Rpc → Rpc) :
    (state.update index change).queue = state.queue := rfl

theorem update_rpcs (state : Server) (index : Nat) (change : Rpc → Rpc) (rpc : Nat) :
    (state.update index change).rpcs[rpc]? =
      if index = rpc then (state.rpcs[rpc]?).map change else state.rpcs[rpc]? := by
  simp only [update, List.getElem?_modify]
  split <;> simp

/-- An update changes one RPC. -/
theorem update_cases {state : Server} {index other : Nat} {change : Rpc → Rpc}
    (known : state.rpcs[other]? = some rpc)
    (found : (state.update index change).rpcs[other]? = some after) :
    index = other ∧ after = change rpc ∨ index ≠ other ∧ after = rpc := by
  rw [update_rpcs, known] at found
  split at found
  · rename_i own
    cases found
    exact .inl ⟨own, rfl⟩
  · rename_i different
    cases found
    exact .inr ⟨different, rfl⟩

/-- Answering a call and dropping it are between the remover and the RPCs. -/
theorem send_status_eq (state : Server) (status_tx : Option Nat) (outcome : Int × String) :
    ∃ rpcs, state.send_status status_tx outcome = { state with rpcs := rpcs } := by
  cases status_tx with
  | none => exact ⟨state.rpcs, rfl⟩
  | some index => exact ⟨_, rfl⟩

theorem drop_call_eq (state : Server) (call : LiveCall) :
    ∃ rpcs, state.drop_call call = { state with rpcs := rpcs } := by
  unfold drop_call
  cases call.status_tx with
  | none => exact ⟨_, rfl⟩
  | some index => exact ⟨_, rfl⟩

/-- What a call leaves behind of its RPC when it is dropped after its status was sent. -/
theorem drop_call_cases {state : Server} {call : LiveCall}
    (sameRpc : call.inbound_rx = call.outbound_tx) (sent : call.status_tx = none)
    (found : (state.drop_call call).rpcs[index]? = some after)
    (known : state.rpcs[index]? = some rpc) :
    call.outbound_tx = index ∧ after = { rpc with
        inbound := rpc.inbound.dropReceiver
        body := { rpc.body with rx := rpc.body.rx.dropSender } } ∨
      call.outbound_tx ≠ index ∧ after = rpc := by
  simp only [drop_call, sent, sameRpc] at found
  rw [update_rpcs, update_rpcs, known] at found
  split at found
  · rename_i own
    cases found
    exact .inl ⟨own, rfl⟩
  · rename_i different
    cases found
    exact .inr ⟨different, rfl⟩

theorem update_rpcs_bind (state : Server) (index : Nat) (change : Rpc → Rpc)
    (look : Rpc → Option Value)
    (same : ∀ rpc, state.rpcs[index]? = some rpc → look (change rpc) = look rpc) (other : Nat) :
    ((state.update index change).rpcs[other]?).bind look = (state.rpcs[other]?).bind look := by
  rw [update_rpcs]
  split
  · rename_i equal
    subst equal
    cases known : state.rpcs[index]? with
    | none => rfl
    | some rpc => exact same rpc known
  · rfl

end Server

/-- One step of `handle_queued` for `rpc`: what becomes of the RPC and of the
queue. -/
inductive HandleStep (state : Server) (index : Nat) (rpc : Rpc) : Rpc → CallQueue → Prop
  | refuses (arrival : rpc.arrival = .arrived)
      (full : state.queue.max_pending ≤ state.queue.pending.length) :
      HandleStep state index rpc
        { rpc with
          arrival := .refused
          refusal := immediate_error GRPC_RESOURCE_EXHAUSTED
            "the server has more calls queued than it can accept"
          inbound := rpc.inbound.dropReceiver }
        { state.queue with refused := state.queue.refused + 1 }
  | admits (arrival : rpc.arrival = .arrived)
      (room : state.queue.pending.length < state.queue.max_pending) :
      HandleStep state index rpc { rpc with arrival := .admitted } state.queue
  | stamps (arrival : rpc.arrival = .admitted) :
      HandleStep state index rpc { rpc with arrival := .stamped state.queue.deadline_ms }
        state.queue
  | draws (ms : Nat) (arrival : rpc.arrival = .stamped ms) :
      HandleStep state index rpc { rpc with arrival := .numbered ms state.queue.next_id }
        { state.queue with next_id := state.queue.next_id + 1 }
  | inserts (ms id : Nat) (arrival : rpc.arrival = .numbered ms id) :
      HandleStep state index rpc { rpc with arrival := .inserted ms id }
        { state.queue with
          live := state.queue.live.insert id (.admitted index (state.expires_at ms)) }
  | pushes (ms id : Nat) (arrival : rpc.arrival = .inserted ms id) :
      HandleStep state index rpc { rpc with arrival := .queued ms id }
        { state.queue with pending := state.queue.pending ++ [(id, rpc.path)] }

theorem HandleStep.not_refused (handled : HandleStep state index rpc after queue) :
    rpc.arrival ≠ .refused := by
  cases handled with
  | refuses arrival | admits arrival | stamps arrival => simp [arrival]
  | draws _ arrival | inserts _ _ arrival | pushes _ _ arrival => simp [arrival]

theorem HandleStep.path (handled : HandleStep state index rpc after queue) :
    after.path = rpc.path := by
  cases handled <;> rfl

namespace Server

theorem handle_queued_cases {state : Server}
    (taken : state.handle_queued index = some (next, reply)) :
    ∃ rpc after queue, state.rpcs[index]? = some rpc ∧ HandleStep state index rpc after queue ∧
      next = { state with queue := queue }.update index (fun _ => after) ∧ reply = .silent := by
  unfold handle_queued at taken
  split at taken
  · cases taken
  · split at taken
    · cases taken
    · rename_i rpc known
      split at taken
      · rename_i arrival
        split at taken
        · rename_i full
          cases taken
          exact ⟨rpc, _, _, known, .refuses arrival full, rfl, rfl⟩
        · rename_i room
          cases taken
          exact ⟨rpc, _, _, known, .admits arrival (Nat.lt_of_not_le room), rfl, rfl⟩
      · rename_i arrival
        cases taken
        exact ⟨rpc, _, _, known, .stamps arrival, rfl, rfl⟩
      · rename_i ms arrival
        cases taken
        exact ⟨rpc, _, _, known, .draws ms arrival, rfl, rfl⟩
      · rename_i ms id arrival
        cases taken
        exact ⟨rpc, _, _, known, .inserts ms id arrival, rfl, rfl⟩
      · rename_i ms id arrival
        cases taken
        exact ⟨rpc, _, _, known, .pushes ms id arrival, rfl, rfl⟩
      · cases taken
      · cases taken

theorem pump_inbound_cases {state : Server}
    (taken : state.pump_inbound index = some (next, reply)) :
    ∃ rpc pump inbound, state.running = true ∧ state.rpcs[index]? = some rpc ∧
      rpc.pump.step rpc.inbound = some (pump, inbound) ∧ reply = .silent ∧
      next = state.update index fun rpc => { rpc with pump := pump, inbound := inbound } := by
  unfold pump_inbound at taken
  split at taken
  · cases taken
  · rename_i running
    split at taken
    · cases taken
    · rename_i rpc known
      rcases Option.map_eq_some_iff.mp taken with ⟨⟨pump, inbound⟩, pumped, moved⟩
      cases moved
      exact ⟨rpc, pump, inbound, Bool.of_not_eq_false running, known, pumped, rfl, rfl⟩

/-- The frame comes from the response body, or from the immediate error of a
refused RPC. -/
theorem poll_frame_cases {state : Server}
    (taken : state.poll_frame index = some (next, reply)) :
    ∃ rpc, state.running = true ∧ state.rpcs[index]? = some rpc ∧ rpc.connected = true ∧
      ((∃ ms id, rpc.arrival = .queued ms id ∧ reply = .polled rpc.body.poll_frame.2 ∧
          next = state.update index fun other =>
            { other with body := rpc.body.poll_frame.1 }) ∨
        rpc.arrival = .refused ∧ reply = .polled (.ready rpc.refusal.head?) ∧
          next = state.update index fun other => { other with refusal := other.refusal.tail }) := by
  unfold poll_frame at taken
  split at taken
  · cases taken
  · rename_i running
    split at taken
    · cases taken
    · rename_i rpc known
      split at taken
      · cases taken
      · rename_i connected
        refine ⟨rpc, Bool.of_not_eq_false running, known, Bool.of_not_eq_false connected, ?_⟩
        split at taken
        · rename_i ms id arrival
          cases taken
          exact .inl ⟨ms, id, arrival, rfl, rfl⟩
        · rename_i arrival
          cases taken
          exact .inr ⟨arrival, rfl, rfl⟩
        · cases taken

theorem hang_up_cases {state : Server}
    (taken : state.hang_up index = some (next, reply)) :
    ∃ rpc, state.rpcs[index]? = some rpc ∧
      (rpc.arrival = .refused ∨ ∃ ms id, rpc.arrival = .queued ms id) ∧
      reply = .silent ∧ next = state.update index Rpc.hangUp := by
  unfold hang_up at taken
  split at taken
  · cases taken
  · rename_i rpc known
    split at taken
    · rename_i ms id arrival
      cases taken
      exact ⟨rpc, known, .inr ⟨ms, id, arrival⟩, rfl, rfl⟩
    · rename_i arrival
      cases taken
      exact ⟨rpc, known, .inl arrival, rfl, rfl⟩
    · cases taken

/-- A read fails for want of the call, or goes to the call. -/
theorem call_read_into_cases {state : Server}
    (taken : state.call_read_into call_id buffer = some (next, reply)) :
    (state.queue.live.find? call_id = none ∧ next = state ∧
      reply = .read { rc := ZPR_ERR, out_len := buffer.out_len.store 0, written := [],
                      last_error := some (noLiveCall call_id) }) ∨
    ∃ call rpc read inbound answer, state.queue.live.find? call_id = some call ∧
      state.rpcs[call.inbound_rx]? = some rpc ∧
      call.read_into rpc.inbound buffer = (read, inbound, answer) ∧ reply = .read answer ∧
      next = { state with queue := { state.queue with
        live := state.queue.live.insert call_id read } }.update call.inbound_rx fun rpc =>
          { rpc with inbound := inbound } := by
  unfold call_read_into at taken
  split at taken
  · rename_i absent
    cases taken
    exact .inl ⟨absent, rfl, rfl⟩
  · rename_i call held
    rcases Option.map_eq_some_iff.mp taken with ⟨rpc, known, moved⟩
    cases answered : call.read_into rpc.inbound buffer with
    | mk read rest =>
        rw [answered] at moved
        cases moved
        exact .inr ⟨call, rpc, read, rest.1, rest.2, held, known, answered, rfl, rfl⟩

/-- A completion fails and changes nothing, or takes the call out of `live`. -/
theorem call_complete_cases {state : Server}
    (taken : state.call_complete call_id grpc_status message = (next, reply)) :
    (∃ error, reply = .returned ZPR_ERR (some error) ∧ next = state ∧
      (status_message message = .error error ∨
        error = noLiveCall call_id ∧ state.queue.live.find? call_id = none)) ∨
    ∃ msg call, status_message message = .ok msg ∧
      state.queue.live.find? call_id = some call ∧ reply = .returned ZPR_OK none ∧
      next = state.take .complete (grpc_status, msg) [call_id] := by
  unfold call_complete at taken
  split at taken
  · rename_i error parsed
    cases taken
    exact .inl ⟨error, rfl, rfl, .inl parsed⟩
  · rename_i msg parsed
    split at taken
    · rename_i absent
      cases taken
      exact .inl ⟨noLiveCall call_id, rfl, rfl, .inr ⟨rfl, absent⟩⟩
    · rename_i call held
      cases taken
      exact .inr ⟨msg, call, parsed, held, rfl, rfl⟩

/-- The three steps of a remover. -/
theorem advance_cases {state : Server} (taken : state.advance call_id = some (next, reply)) :
    ∃ removal, state.removed.find? call_id = some removal ∧ reply = .silent ∧
      (removal.stage = .taken ∧
        next = { state with removed := state.removed.insert call_id { removal with
          call := { removal.call with status_tx := none }, stage := .answered } }.send_status
            removal.call.status_tx removal.outcome ∨
      removal.stage = .answered ∧
        next = { state with
          queue := removal.remover.count state.queue
          removed := state.removed.insert call_id { removal with stage := .counted } } ∨
      removal.stage = .counted ∧
        next = { state with removed := state.removed.erase call_id }.drop_call removal.call) := by
  rcases Option.map_eq_some_iff.mp taken with ⟨removal, held, moved⟩
  refine ⟨removal, held, ?_⟩
  cases stage : removal.stage with
  | taken =>
      rw [stage] at moved
      cases moved
      exact ⟨rfl, .inl ⟨rfl, rfl⟩⟩
  | answered =>
      rw [stage] at moved
      cases moved
      exact ⟨rfl, .inr (.inl ⟨rfl, rfl⟩)⟩
  | counted =>
      rw [stage] at moved
      cases moved
      exact ⟨rfl, .inr (.inr ⟨rfl, rfl⟩)⟩

theorem queue_configure_cases {state : Server}
    (taken : state.queue_configure max_pending deadline_ms = (next, reply)) :
    (max_pending = 0 ∧ next = state ∧
      reply = .returned ZPR_ERR (some "a max_pending of 0 would refuse every call")) ∨
    max_pending ≠ 0 ∧ reply = .returned ZPR_OK none ∧
      next = { state with
        queue := { state.queue with max_pending := max_pending }
        configuring := state.configuring ++ [deadline_ms] } := by
  unfold queue_configure at taken
  split at taken
  · rename_i zero
    cases taken
    exact .inl ⟨zero, rfl, rfl⟩
  · rename_i positive
    cases taken
    exact .inr ⟨positive, rfl, rfl⟩

theorem store_deadline_cases {state : Server}
    (taken : state.store_deadline index = some (next, reply)) :
    ∃ deadline_ms, state.configuring[index]? = some deadline_ms ∧ reply = .silent ∧
      next = { state with
        queue := { state.queue with deadline_ms := deadline_ms }
        configuring := state.configuring.eraseIdx index } := by
  rcases Option.map_eq_some_iff.mp taken with ⟨deadline_ms, known, moved⟩
  cases moved
  exact ⟨deadline_ms, known, rfl, rfl⟩

/-- The runtime is dropped between two sweeps, with every `handle_queued` at rest. -/
theorem server_stop_cases {state : Server} (taken : state.server_stop = some (next, reply)) :
    state.running = true ∧ state.reaper = .waiting ∧ state.reaping = false ∧
      (∀ rpc ∈ state.rpcs, rpc.arrival.settled = true) ∧ reply = .silent ∧
      next = { state with running := false, rpcs := state.rpcs.map Rpc.shutDown } := by
  unfold server_stop at taken
  split at taken
  · rename_i ready
    simp only [Bool.and_eq_true, beq_iff_eq, Bool.not_eq_true', List.all_eq_true] at ready
    rcases ready with ⟨⟨⟨running, waiting⟩, idle⟩, settled⟩
    cases taken
    exact ⟨running, waiting, idle, settled, rfl, rfl⟩
  · cases taken

/-- A write changes nothing, or puts its message at the end of the channel. -/
theorem call_write_cases {state : Server}
    (taken : state.call_write call_id data bytes = some (next, reply)) :
    (∃ rc error, reply = .returned rc error ∧ rc ≠ ZPR_CALL_MESSAGE ∧ next = state) ∨
      ∃ call target, state.queue.live.find? call_id = some call ∧
        state.rpcs[call.outbound_tx]? = some target ∧ target.body.rx.receiverAlive = true ∧
        reply = .returned ZPR_CALL_MESSAGE none ∧
        next = state.update call.outbound_tx fun rpc => { rpc with body := { rpc.body with
          rx := { target.body.rx with buffer := target.body.rx.buffer ++ [bytes] } } } := by
  unfold call_write at taken
  split at taken
  · cases taken
    exact .inl ⟨_, _, rfl, by decide, rfl⟩
  · split at taken
    · cases taken
      exact .inl ⟨_, _, rfl, by decide, rfl⟩
    · rename_i call held
      rcases Option.map_eq_some_iff.mp taken with ⟨target, known, moved⟩
      rcases target.body.rx.trySend_cases bytes with
        ⟨result, _⟩ | ⟨result, alive, _⟩ | ⟨result, _⟩
      · rw [result] at moved
        cases moved
        exact .inl ⟨_, _, rfl, by decide, rfl⟩
      · rw [result] at moved
        cases moved
        exact .inr ⟨call, target, held, known, alive, rfl, rfl⟩
      · rw [result] at moved
        cases moved
        exact .inl ⟨_, _, rfl, by decide, rfl⟩

/-- The reaper gets on with its tick, or sweeps with the clock reading it took. -/
theorem reap_loop_cases {state : Server} (taken : state.reap_loop = some (next, reply)) :
    (reply = .silent ∧ (next = state ∨ next = { state with reaper := .armed } ∨
      next = { state with reaper := .timed state.now })) ∨
    ∃ now, state.reaper = .timed now ∧ reply = .removed (state.expired now) ∧
      next = { state with reaper := .waiting }.take .reaper reaperStatus (state.expired now) := by
  unfold reap_loop at taken
  split at taken
  · cases taken
  · split at taken
    · split at taken
      · cases taken
      · split at taken
        · cases taken
          exact .inl ⟨rfl, .inl rfl⟩
        · cases taken
          exact .inl ⟨rfl, .inr (.inl rfl)⟩
    · cases taken
      exact .inl ⟨rfl, .inr (.inr rfl)⟩
    · rename_i now reaper
      cases taken
      exact .inr ⟨now, reaper, rfl, rfl⟩

end Server

/-- An RPC arrives only as long as the runtime is there. -/
theorem serverStep_arrive_cases
    (taken : serverStep state (.arrive path body) = some (next, reply)) :
    state.running = true ∧ next = { state with rpcs := state.rpcs ++ [.arrive path body] } ∧
      reply = .silent := by
  simp only [serverStep] at taken
  split at taken
  · rename_i running
    cases taken
    exact ⟨running, rfl, rfl⟩
  · cases taken

/-- An accept changes nothing, or hands out the call at the front. -/
theorem zpr_grpc_accept_cases (q : CallQueue) (out_call_id : Pointer) (out_method : Buffer) :
    ((zpr_grpc_accept q out_call_id out_method).1 = q ∧
      (zpr_grpc_accept q out_call_id out_method).2.rc ≠ ZPR_CALL_MESSAGE) ∨
    ∃ id path pending, q.pending = (id, path) :: pending ∧
      zpr_grpc_accept q out_call_id out_method =
        ({ q with pending := pending, accepted := q.accepted + 1 },
          { copy_into (as_bytes path) out_method with
            rc := ZPR_CALL_MESSAGE, out_call_id := out_call_id.store id }) := by
  cases held : q.pending with
  | nil => exact .inl (by simp [zpr_grpc_accept, held, ZPR_CALL_NONE, ZPR_CALL_MESSAGE])
  | cons head pending =>
      rcases head with ⟨id, path⟩
      by_cases copied : (copy_into (as_bytes path) out_method).rc = ZPR_OK
      · exact .inr ⟨id, path, pending, rfl, by simp [zpr_grpc_accept, held, copied]⟩
      · refine .inl ?_
        simp only [zpr_grpc_accept, held, ne_eq, copied, not_false_eq_true, if_true, true_and]
        exact copy_into_failed copied (by decide)

/-- The same for the step of the server. -/
theorem serverStep_accept_cases
    (taken : serverStep state (.accept out_call_id out_method) = some (next, reply)) :
    (next = state ∧ ∃ answer, reply = .accepted answer ∧ answer.rc ≠ ZPR_CALL_MESSAGE) ∨
    ∃ id path pending answer, state.queue.pending = (id, path) :: pending ∧
      next = { state with queue := { state.queue with
        pending := pending, accepted := state.queue.accepted + 1 } } ∧
      reply = .accepted answer ∧ answer.rc = ZPR_CALL_MESSAGE ∧
      answer.out_call_id = out_call_id.store id := by
  simp only [serverStep, Option.some.injEq, Prod.mk.injEq] at taken
  rcases taken with ⟨moved, answered⟩
  rcases zpr_grpc_accept_cases state.queue out_call_id out_method with
    ⟨queue, failed⟩ | ⟨id, path, pending, held, result⟩
  · rw [queue] at moved
    exact .inl ⟨moved.symm, _, answered.symm, failed⟩
  · rw [result] at moved answered
    exact .inr ⟨id, path, pending, _, held, moved.symm, answered.symm, rfl, rfl⟩

end Zpr.GrpcServer
