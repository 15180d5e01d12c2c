import Zpr.GrpcServer.QueuedReads

namespace Zpr.GrpcServer

open Ffi

/-! # What the host has still to read of a call

The message that the call holds and those in its channel are one queue, and a read is a
read of that queue. Between two reads the queue only grows. -/

/-- The messages of a live call that no read has returned. -/
def Server.unread (state : Server) (id : Nat) : List Bytes :=
  match state.queue.live.find? id with
  | none => []
  | some call => call.pending_msg.toList ++ state.bufferAt call.inbound_rx

/-- A read of a queue of messages: what it answers, and what it leaves. -/
inductive NextRead (buffer : Buffer) : List Bytes → BufferReply → List Bytes → Prop
  | returns (msg : Bytes) (rest : List Bytes) (copied : (copy_into msg buffer).rc = ZPR_OK) :
      NextRead buffer (msg :: rest) { copy_into msg buffer with rc := ZPR_CALL_MESSAGE } rest
  | fails (msg : Bytes) (rest : List Bytes) (failed : (copy_into msg buffer).rc ≠ ZPR_OK) :
      NextRead buffer (msg :: rest) (copy_into msg buffer) (msg :: rest)
  | nothing (reply : BufferReply)
      (told : reply.rc = ZPR_CALL_NONE ∨ reply.rc = ZPR_CALL_CLIENT_DONE) :
      NextRead buffer [] reply []

theorem LiveCall.read_into_nextRead (call : LiveCall) (inbound : Channel Bytes) (buffer : Buffer)
    (ended : call.client_done = true → call.pending_msg = none ∧ inbound.buffer = []) :
    NextRead buffer (call.pending_msg.toList ++ inbound.buffer)
      (call.read_into inbound buffer).2.2
      ((call.read_into inbound buffer).1.pending_msg.toList ++
        (call.read_into inbound buffer).2.1.buffer) := by
  cases held : call.pending_msg with
  | some msg =>
      by_cases copied : (copy_into msg buffer).rc = ZPR_OK
      · have outcome : call.read_into inbound buffer = ({ call with pending_msg := none }, inbound,
            { copy_into msg buffer with rc := ZPR_CALL_MESSAGE }) := by
          simp [LiveCall.read_into, held, copied]
        rw [outcome]
        exact .returns msg inbound.buffer copied
      · have outcome : call.read_into inbound buffer = (call, inbound, copy_into msg buffer) := by
          simp [LiveCall.read_into, held, copied]
        rw [outcome, held]
        exact .fails msg inbound.buffer copied
  | none =>
      cases done : call.client_done with
      | true =>
          have outcome : call.read_into inbound buffer = (call, inbound,
              { rc := ZPR_CALL_CLIENT_DONE, out_len := buffer.out_len.store 0, written := [],
                last_error := none }) := by
            simp [LiveCall.read_into, held, done]
          rw [outcome, held, (ended done).2]
          exact .nothing _ (.inr rfl)
      | false =>
          rcases inbound.tryRecv_cases with
            ⟨msg, rest, next, received⟩ | ⟨empty, _, received⟩ | ⟨empty, _, received⟩
          · rw [next]
            by_cases copied : (copy_into msg buffer).rc = ZPR_OK
            · have outcome : call.read_into inbound buffer = (call, { inbound with buffer := rest },
                  { copy_into msg buffer with rc := ZPR_CALL_MESSAGE }) := by
                simp [LiveCall.read_into, held, done, received, copied]
              rw [outcome, held]
              exact .returns msg rest copied
            · have outcome : call.read_into inbound buffer = ({ call with pending_msg := some msg },
                  { inbound with buffer := rest }, copy_into msg buffer) := by
                simp [LiveCall.read_into, held, done, received, copied]
              rw [outcome]
              exact .fails msg rest copied
          · have outcome : call.read_into inbound buffer = (call, inbound,
                { rc := ZPR_CALL_NONE, out_len := buffer.out_len.store 0, written := [],
                  last_error := none }) := by
              simp [LiveCall.read_into, held, done, received]
            rw [outcome, held, empty]
            exact .nothing _ (.inl rfl)
          · have outcome : call.read_into inbound buffer = ({ call with client_done := true },
                inbound, { rc := ZPR_CALL_CLIENT_DONE, out_len := buffer.out_len.store 0,
                           written := [], last_error := none }) := by
              simp [LiveCall.read_into, held, done, received]
            rw [outcome, empty]
            dsimp only
            rw [held]
            exact .nothing _ (.inr rfl)

namespace Lossless

variable {trace : List (Action × Reply)} {state : Server} {id : Nat}

/-- Of a live call, what has been sent is what has been returned and what is unread. -/
theorem sent_eq (lossless : Lossless trace state) (held : state.queue.live.find? id = some call) :
    ∃ rpc, state.rpcs[call.inbound_rx]? = some rpc ∧
      sent call.inbound_rx trace = delivered id trace ++ state.unread id ∧
      (call.client_done = true → call.pending_msg = none ∧ rpc.inbound.buffer = []) := by
  rcases (lossless.consistent.live id call held).1 with ⟨sameRpc, ms, entered⟩
  rw [← sameRpc] at entered
  have drawn := Server.idAt_of_enteredAt entered
  rcases lossless.history_of_drawn drawn with ⟨rpc, body, known, brought, history⟩
  have accounts := history.accounts
  rw [Server.reading_of_live lossless.consistent drawn held] at accounts
  refine ⟨rpc, known, ?_, fun done => ⟨(accounts.2 done).1, (accounts.2 done).2.1⟩⟩
  rw [accounts.1]
  simp [Server.unread, held, Server.bufferAt, known, Server.request]

/-- A read of a live call is a read of what is unread. -/
theorem read_into_of_live (lossless : Lossless trace state)
    (held : state.queue.live.find? id = some call) (buffer : Buffer) :
    ∃ next reply, serverStep state (.read_into id buffer) = some (next, .read reply) ∧
      NextRead buffer (state.unread id) reply (next.unread id) := by
  rcases lossless.sent_eq held with ⟨rpc, known, _, ended⟩
  have outcome := call.read_into_nextRead rpc.inbound buffer ended
  cases answered : call.read_into rpc.inbound buffer with
  | mk read rest =>
      rw [answered] at outcome
      have sameRpc : read.inbound_rx = call.inbound_rx := by
        have handles := call.read_into_handles rpc.inbound buffer
        rw [answered] at handles
        exact congrArg Prod.fst handles
      refine ⟨({ state with queue := { state.queue with
          live := state.queue.live.insert id read } } : Server).update call.inbound_rx
            fun rpc => { rpc with inbound := rest.1 }, rest.2, ?_, ?_⟩
      · simp [serverStep, Server.call_read_into, held, known, answered]
      · have before : state.unread id = call.pending_msg.toList ++ rpc.inbound.buffer := by
          simp [Server.unread, held, Server.bufferAt, known]
        rw [before]
        simp only [Server.unread, Server.update_queue, IdMap.find?_insert, if_pos, sameRpc,
          Server.bufferAt, Server.update_rpcs, known, Option.map_some, Option.elim_some]
        exact outcome

end Lossless

/-- A read of a call that is not there changes nothing. -/
theorem serverStep_read_into_of_absent {id : Nat} {state : Server}
    (absent : state.queue.live.find? id = none) (buffer : Buffer) :
    serverStep state (.read_into id buffer) =
      some (state, .read { rc := ZPR_ERR, out_len := buffer.out_len.store 0, written := [],
                           last_error := some (noLiveCall id) }) := by
  simp only [serverStep, Server.call_read_into, absent]

/-- As long as the call is there, a step that does not read it adds to what is unread. -/
theorem unread_grows {id : Nat} (run : RunWhere condition serverStep .start trace state)
    (held : state.queue.live.find? id = some call)
    (unreadBy : ∀ buffer, action ≠ .read_into id buffer)
    (taken : serverStep state action = some (next, reply))
    (still : next.queue.live.find? id = some after) :
    ∃ more, next.unread id = state.unread id ++ more := by
  have lossless := lossless_of_run run
  have losslessNext := lossless.step run taken
  have sameRpc : after.inbound_rx = call.inbound_rx := by
    rcases Server.Consistent.live_was (serverStep_calls taken) still with
      ⟨before, heldBefore, handles⟩ | ⟨index, ms, entered, _⟩
    · cases held.symm.trans heldBefore
      exact (congrArg Prod.fst handles).symm
    · have absent := (lossless.consistent.absent entered.drawn entered.outside).1
      rw [held] at absent
      cases absent
  have quiet : deliveredOf id (action, reply) = [] := by
    cases action with
    | read_into call_id buffer =>
        cases reply with
        | read answer =>
            rw [deliveredOf, if_neg]
            intro same
            exact unreadBy buffer (by rw [same.1])
        | _ => rfl
    | _ => rfl
  rcases lossless.sent_eq held with ⟨_, _, before, _⟩
  rcases losslessNext.sent_eq still with ⟨_, _, now, _⟩
  rw [sameRpc, sent, observe_next run taken, delivered_next, quiet, List.append_nil] at now
  rw [← sent, before, List.append_assoc, List.append_cancel_left_eq] at now
  exact ⟨_, now.symm⟩

end Zpr.GrpcServer
