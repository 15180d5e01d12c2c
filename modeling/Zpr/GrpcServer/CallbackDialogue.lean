import Zpr.Foundation.Observation
import Zpr.GrpcServer.CallDialogue
import Zpr.GrpcServer.CallbackHistory

namespace Zpr.GrpcServer

open Ffi

/-! # The dialogue of a call in callback mode

The closure of the handler releases the outcome after it has dropped the stream, where a
queued call has its outcome sent first; a client does not see the difference. -/

namespace CallbackCall

def fate (call : CallbackCall) : Fate (Int × String) :=
  match call.handler with
  | .running => .undecided
  | .returned outcome | .reclaimed outcome => .decided outcome
  | .ended => call.body.fate

/-- A handler that has returned reads no more. -/
def inbox (call : CallbackCall) : List Bytes :=
  if call.handler = .running then call.inbound.buffer else []

def dialogue (call : CallbackCall) : Dialogue Bytes (Int × String) where
  inbox := call.inbox
  halfClosed := !call.inbound.senderAlive
  outbox := call.body.outbox
  connected := call.connected
  fate := call.fate

end CallbackCall

/-- The events of a call in callback mode. A read that has to wait, and a write that finds
the channel full, are none. -/
def callbackDialogueNote : Note CallbackCall CallbackAction CallbackReply CallEvent :=
  fun call action next reply =>
    match action, reply with
    | .pump_inbound, _ =>
        (if call.handler = .running then
          (next.inbound.buffer.drop call.inbound.buffer.length).map fun msg =>
            (.arrive msg, .silent)
        else []) ++ halfCloses (!call.inbound.senderAlive) (!next.inbound.senderAlive)
    | .poll_frame, .polled poll => [(.poll, pollOf poll)]
    | .hang_up, _ => [(.hangUp, .silent)]
    | .read _, .read answer =>
        -- the message is gone from the channel even if the handler gave it no place
        [(.read, if answer.rc = 1 then .message (answer.out.getD (call.inbound.buffer.headD []))
          else .ended)]
    | .write data bytes, .returned rc _ =>
        [(.write (if data = .null then [] else bytes), if rc = ZPR_OK then .taken else .gone)]
    | .returns out_status out_msg, _ =>
        [(.finish (out_status, returned_message out_msg), .silent)]
    | .send_status, _ => [(.release, .silent)]
    | _, _ => []

/-- A call in callback mode as its two parties have seen it. -/
def callbackDialogueTrace (start : CallbackCall) (trace : CallbackTrace) : List CallEvent :=
  observe callbackStep callbackDialogueNote start (trace.map Prod.fst)

/-- What a dialogue needs to know of its channels and of the handler. -/
structure CallbackCall.Known (call : CallbackCall) : Prop where
  closed : call.inbound.senderAlive = false ↔ call.pump.phase = .finished
  agrees : ∃ outcome, call.handler.Agrees call.body outcome
  alive : call.body.rx.receiverAlive = call.connected
  inRoom : call.inbound.capacity = 8
  outRoom : call.body.rx.capacity = 8

namespace CallbackCall

variable {call next : CallbackCall} {action : CallbackAction} {reply : CallbackReply}

def Speaks (call next : CallbackCall) (action : CallbackAction) (reply : CallbackReply) : Prop :=
  Run (dialogueStep callRules) call.dialogue (callbackDialogueNote call action next reply)
    next.dialogue

theorem Known.opened {request : RequestBody} (opened : handle path request = .ok call) :
    call.Known := by
  unfold handle at opened
  split at opened
  · cases opened
  · cases opened
    exact ⟨by simp [Channel.create, Pump.spawn], ⟨[], rfl, rfl, rfl⟩, rfl, rfl, rfl⟩

theorem dialogue_of_opened {request : RequestBody} (opened : handle path request = .ok call) :
    call.dialogue = .opened := by
  unfold handle at opened
  split at opened
  · cases opened
  · cases opened
    rfl

theorem inbox_length_le (call : CallbackCall) :
    call.inbox.length ≤ call.inbound.buffer.length + 1 := by
  unfold inbox
  split
  · exact Nat.le_succ _
  · exact Nat.zero_le _

theorem pump_speaks {after : Pump} {rest : Channel Bytes} (known : call.Known)
    (stepped : call.pump.step call.inbound = some (after, rest)) :
    Known { call with pump := after, inbound := rest } ∧
      call.Speaks { call with pump := after, inbound := rest } .pump_inbound .silent := by
  rcases Pump.step_spec stepped with ⟨_, spec⟩
  have open_ : call.inbound.senderAlive = true := by
    apply Bool.of_not_eq_false
    intro dead
    exact spec.working (known.closed.mp dead)
  refine ⟨{ known with
    closed := spec.closed open_
    inRoom := (Pump.step_capacity stepped).trans known.inRoom }, ?_⟩
  apply pump_dialogue stepped open_ known.inRoom (call.inbox_length_le)
  · intro same
    simp only [inbox, same]
  · intro msg appended
    simp only [inbox, appended]
    split <;> rfl
  · intro running
    simp only [fate, running]

theorem poll_speaks (known : call.Known) (taken : call.poll_frame = some (next, reply)) :
    next.Known ∧ call.Speaks next .poll_frame reply := by
  rcases call with ⟨pump, inbound, body, handler, connected⟩
  simp only [poll_frame, Option.ite_none_right_eq_some, Option.some.injEq, Prod.mk.injEq] at taken
  rcases taken with ⟨rfl, rfl, rfl⟩
  rcases known.agrees with ⟨outcome, agrees⟩
  simp only at agrees
  rcases poll_frame_cases_of_handler agrees with
    ⟨msg, buffer, streaming, held, polled⟩ | ⟨notEnded, empty, polled⟩ |
    ⟨result, rfl, streaming, empty, polled⟩ | ⟨result, rfl, finished, atStatus, polled⟩ |
    ⟨done, polled⟩
  · rw [polled]
    refine ⟨{ known with agrees := ⟨outcome, by cases handler <;> exact agrees⟩ }, Run.single ?_⟩
    cases handler <;> simp [dialogueStep, Dialogue.poll, dialogue, inbox, fate, OutboundBody.outbox,
      OutboundBody.fate, streaming, held, pollOf, shown, callRules]
  · rw [polled]
    refine ⟨{ known with }, Run.single ?_⟩
    have nothing : body.outbox = [] := by
      unfold OutboundBody.outbox
      split
      · rename_i streaming
        exact empty streaming
      · rfl
    cases handler with
    | ended => exact absurd rfl notEnded
    | _ => simp [dialogueStep, Dialogue.poll, dialogue, inbox, fate, nothing, pollOf]
  · rw [polled]
    rcases agrees with ⟨same, waiting, dead, _⟩
    refine ⟨{ known with agrees := ⟨outcome, same, waiting, dead, by simp⟩ }, Run.single ?_⟩
    simp [dialogueStep, Dialogue.poll, dialogue, inbox, fate, OutboundBody.outbox, streaming, empty,
      pollOf]
  · rw [polled]
    rcases agrees with ⟨other, same, dead, ended⟩
    have unfinished : body.state ≠ .done := by
      rcases atStatus with awaiting | ⟨streaming, _⟩
      · simp [awaiting]
      · simp [streaming]
    have sent : body.status_rx = .sent result := by
      cases finished.symm.trans same
      exact ended.resolve_left unfinished
    have nothing : body.outbox = [] := by
      rcases atStatus with awaiting | ⟨streaming, empty⟩
      · simp [OutboundBody.outbox, awaiting]
      · simp [OutboundBody.outbox, streaming, empty]
    refine ⟨{ known with agrees := ⟨outcome, result, finished, dead, .inl rfl⟩ }, Run.single ?_⟩
    simp only [dialogue, nothing]
    simp [dialogueStep, Dialogue.poll, inbox, fate, OutboundBody.outbox, OutboundBody.fate,
      unfinished, sent, pollOf, callRules]
  · rw [polled]
    refine ⟨{ known with }, Run.single ?_⟩
    cases handler with
    | running | returned | reclaimed => simp [Handler.Agrees, done] at agrees
    | ended =>
        simp [dialogueStep, Dialogue.poll, dialogue, inbox, fate, OutboundBody.outbox,
          OutboundBody.fate, done, pollOf]

theorem read_speaks (known : call.Known) (running : call.handler = .running)
    (taken : call.stream_read out = some (next, reply)) :
    next.Known ∧ call.Speaks next (.read out) reply := by
  rcases call with ⟨pump, tx, body, handler, connected⟩
  subst running
  rcases Option.map_eq_some_iff.mp taken with ⟨⟨_, inbound, answer⟩, received, moved⟩
  cases moved
  rcases tx.tryRecv_cases with
    ⟨msg, buffer, held, result⟩ | ⟨_, _, result⟩ | ⟨empty, dead, result⟩
  · simp only [zpr_grpc_stream_read, result, Option.some.injEq, Prod.mk.injEq, true_and] at received
    rcases received with ⟨rfl, rfl⟩
    refine ⟨{ known with }, Run.single ?_⟩
    cases out <;> simp [dialogueStep, Dialogue.read, dialogue, inbox, fate, held, Pointer.store]
  · simp [zpr_grpc_stream_read, result] at received
  · simp only [zpr_grpc_stream_read, result, Option.some.injEq, Prod.mk.injEq, true_and] at received
    rcases received with ⟨rfl, rfl⟩
    refine ⟨{ known with }, Run.single ?_⟩
    simp [dialogueStep, Dialogue.read, dialogue, inbox, fate, empty, dead]

theorem write_speaks (known : call.Known) (running : call.handler = .running)
    (taken : call.stream_write data bytes = some (next, reply)) :
    next.Known ∧ call.Speaks next (.write data bytes) reply := by
  rcases call with ⟨pump, tx, body, handler, connected⟩
  subst running
  rcases known.agrees with ⟨outcome, waiting, sending, streaming⟩
  have alike : body.rx.receiverAlive = connected := known.alive
  have capacity : body.rx.capacity = 8 := known.outRoom
  rcases Option.map_eq_some_iff.mp taken with ⟨⟨rx, answer⟩, written, moved⟩
  cases moved
  rw [zpr_grpc_stream_write] at written
  rcases body.rx.trySend_cases (if data = .null then [] else bytes) with
    ⟨result, dead⟩ | ⟨result, alive, room⟩ | ⟨result, _⟩
  · simp only [result, Option.some.injEq, Prod.mk.injEq] at written
    rcases written with ⟨rfl, rfl⟩
    refine ⟨{ known with }, Run.single ?_⟩
    rw [alike] at dead
    simp [dialogueStep, Dialogue.write, dialogue, inbox, fate, dead, ZPR_OK, ZPR_ERR]
  · simp only [result, Option.some.injEq, Prod.mk.injEq] at written
    rcases written with ⟨rfl, rfl⟩
    rw [capacity] at room
    rw [alike] at alive
    refine ⟨⟨known.closed, ⟨outcome, waiting, sending, streaming⟩, known.alive, known.inRoom,
      known.outRoom⟩, Run.single ?_⟩
    have streams : body.state = .streaming := streaming
    simp [dialogueStep, Dialogue.write, dialogue, inbox, fate, alive, OutboundBody.outbox,
      streams, callRules, room]
  · simp [result] at written

theorem step_speaks (known : call.Known)
    (taken : callbackStep call action = some (next, reply)) :
    next.Known ∧ call.Speaks next action reply := by
  rcases call with ⟨pump, tx, body, handler, connected⟩
  cases action with
  | pump_inbound =>
      rcases Option.map_eq_some_iff.mp taken with ⟨⟨pump, inbound⟩, stepped, moved⟩
      cases moved
      exact pump_speaks known stepped
  | poll_frame => exact poll_speaks known taken
  | hang_up =>
      cases taken
      refine ⟨{ known with agrees := ?_, alive := rfl }, ?_⟩
      · rcases known.agrees with ⟨outcome, agrees⟩
        exact ⟨outcome, by cases handler <;> exact agrees⟩
      · apply Run.single
        cases handler <;> simp [dialogueStep, dialogue, inbox, fate, OutboundBody.outbox,
          OutboundBody.fate, Channel.dropReceiver]
  | read out =>
      simp only [callbackStep] at taken
      split at taken
      · rename_i running
        exact read_speaks known running taken
      · cases taken
  | write data bytes =>
      simp only [callbackStep] at taken
      split at taken
      · rename_i running
        exact write_speaks known running taken
      · cases taken
  | returns out_status out_msg =>
      simp only [callbackStep] at taken
      split at taken
      · rename_i running
        cases taken
        subst running
        rcases known.agrees with ⟨outcome, waiting, sending, streaming⟩
        exact ⟨{ known with agrees := ⟨[_], rfl, waiting, sending, streaming⟩ }, Run.single rfl⟩
      · cases taken
  | reclaim =>
      simp only [callbackStep] at taken
      split at taken
      · rename_i outcome
        cases taken
        rcases known.agrees with ⟨all, same, waiting, sending, streaming⟩
        have streams : body.state = .streaming := streaming
        refine ⟨⟨known.closed, ⟨all, same, waiting, rfl, ?_⟩, known.alive, known.inRoom,
          known.outRoom⟩, ?_⟩
        · simp [reclaim, streams]
        · have unseen : (CallbackCall.mk pump tx body (.returned outcome) connected).dialogue =
              (reclaim ⟨pump, tx, body, .returned outcome, connected⟩ outcome).dialogue := by
            simp [dialogue, inbox, fate, reclaim, OutboundBody.outbox, streams,
              Channel.dropReceiver, Channel.dropSender]
          rw [Speaks, unseen]
          exact .start
      · cases taken
  | send_status =>
      simp only [callbackStep] at taken
      split at taken
      · rename_i outcome
        cases taken
        rcases known.agrees with ⟨all, same, waiting, dead, unfinished⟩
        have waits : body.status_rx = .waiting := waiting
        have notDone : body.state ≠ .done := unfinished
        refine ⟨⟨known.closed, ⟨all, outcome, same, dead, .inr ?_⟩, known.alive, known.inRoom,
          known.outRoom⟩, ?_⟩
        · simp [send_status, waits, Oneshot.send]
        · apply Run.single
          simp [dialogueStep, Dialogue.release, dialogue, inbox, fate, send_status, waits,
            Oneshot.send, OutboundBody.outbox, OutboundBody.fate, notDone]
      · cases taken

end CallbackCall

theorem callback_call_is_a_dialogue (opened : handle path body = .ok start)
    (run : Run callbackStep start trace call) :
    Run (dialogueStep callRules) .opened (callbackDialogueTrace start trace) call.dialogue := by
  have known : ∀ {trace call}, Run callbackStep start trace call → call.Known := fun run =>
    run.stateInvariant CallbackCall.Known (.opened opened) fun known _ taken =>
      (CallbackCall.step_speaks known taken).1
  rw [← CallbackCall.dialogue_of_opened opened]
  exact RunWhere.refines CallbackCall.dialogue (fun _ => True) (fun _ _ => trivial)
    (fun earlier _ taken _ => (CallbackCall.step_speaks (known earlier) taken).2) run trivial

end Zpr.GrpcServer
