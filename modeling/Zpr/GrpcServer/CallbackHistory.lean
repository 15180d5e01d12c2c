import Zpr.GrpcServer.CallbackCall
import Zpr.GrpcServer.RequestHistory

namespace Zpr.GrpcServer

open Ffi

/-! # A host program in callback mode

The handler makes the calls that its program says, and the state of the call is what the
program and the request have made of it. -/

abbrev CallbackTrace := List (CallbackAction × CallbackReply)

/-- What an event shows to the host program. -/
def callbackEventOf : CallbackAction × CallbackReply → List HostEvent
  | (.read _, .read reply) =>
      if reply.rc = 1 then [.read (reply.out.getD [])]
      else if reply.rc = 0 then [.client_done]
      else []
  | (.write _ bytes, .returned rc _) => if rc = ZPR_OK then [.wrote bytes] else [.refused bytes]
  | _ => []

def callbackEvents (trace : CallbackTrace) : List HostEvent := trace.flatMap callbackEventOf

def callbackFramesOf : CallbackAction × CallbackReply → List (Option Frame)
  | (.poll_frame, .polled (.ready frame)) => [frame]
  | _ => []

/-- The answers to the polls of the response body. -/
def callbackFrames (trace : CallbackTrace) : List (Option Frame) := trace.flatMap callbackFramesOf

/-- The handler runs the program: it reads into a buffer of its own, writes the bytes of
its message, and returns with the status and, in a block of `zpr_alloc`, the message. -/
def RunsProgram (program : HostProgram) (trace : CallbackTrace) : CallbackAction → Prop
  | .read out => program (callbackEvents trace) = .read ∧ out = .valid
  | .write data bytes =>
      program (callbackEvents trace) = .write bytes ∧ (bytes ≠ [] → data = .valid)
  | .returns out_status out_msg =>
      ∃ message, program (callbackEvents trace) = .finish out_status message ∧
        (out_msg = some (as_bytes message) ∨ message = "" ∧ out_msg = none)
  | _ => True

@[simp] theorem callbackEvents_next (trace : CallbackTrace) (event : CallbackAction × CallbackReply) :
    callbackEvents (trace ++ [event]) = callbackEvents trace ++ callbackEventOf event := by
  simp [callbackEvents]

@[simp] theorem callbackFrames_next (trace : CallbackTrace) (event : CallbackAction × CallbackReply) :
    callbackFrames (trace ++ [event]) = callbackFrames trace ++ callbackFramesOf event := by
  simp [callbackFrames]

/-- Where the sender ends of the response stand, against the outcome that the program has
come to. -/
def Handler.Agrees (body : OutboundBody) (outcome : List (Int × String)) : Handler → Prop
  | .running =>
      body.status_rx = .waiting ∧ body.rx.senderAlive = true ∧ body.state = .streaming
  | .returned result =>
      outcome = [result] ∧ body.status_rx = .waiting ∧ body.rx.senderAlive = true ∧
        body.state = .streaming
  | .reclaimed result =>
      outcome = [result] ∧ body.status_rx = .waiting ∧ body.rx.senderAlive = false ∧
        body.state ≠ .done
  | .ended =>
      ∃ result, outcome = [result] ∧ body.rx.senderAlive = false ∧
        (body.state = .done ∨ body.status_rx = .sent result)

/-- What the program has seen, the request and the frames so far explain the state of a
call. -/
structure CallbackExplained (program : HostProgram) (messages : List Bytes)
    (history : List HostEvent) (frames : List (Option Frame)) (call : CallbackCall) : Prop where
  reached : ∃ stage, historyAt program messages stage = beforeRefusal history
  unrefused : call.connected = true → Unrefused history
  inOrder : messagesRead history <+: messages
  pumped : call.handler = .running →
    messagesRead history ++ call.inbound.buffer ++ call.pump.toSend = messages
  attended : call.handler = .running → call.inbound.receiverAlive = true
  closed : call.inbound.senderAlive = false ↔ call.pump.phase = .finished
  agrees : call.handler.Agrees call.body (program history).outcome
  alive : call.body.rx.receiverAlive = call.connected
  delivered : call.connected = true →
    Delivered call.body (messagesWritten history) (program history).outcome frames
  inboundRoom : call.inbound.capacity = 8
  outboundRoom : call.body.rx.capacity = 8

/-- What a poll can find, given where the sender ends stand. -/
theorem poll_frame_cases_of_handler {body : OutboundBody} {handler : Handler}
    (agrees : handler.Agrees body outcome) :
    (∃ msg buffer, body.state = .streaming ∧ body.rx.buffer = msg :: buffer ∧
      body.poll_frame =
        ({ body with rx := { body.rx with buffer := buffer } }, .ready (shown msg))) ∨
    (handler ≠ .ended ∧ (body.state = .streaming → body.rx.buffer = []) ∧
      body.poll_frame = (body, .pending)) ∨
    (∃ result, handler = .reclaimed result ∧ body.state = .streaming ∧ body.rx.buffer = [] ∧
      body.poll_frame = ({ body with state := .awaitingStatus }, .pending)) ∨
    (∃ result, handler = .ended ∧ outcome = [result] ∧
      (body.state = .awaitingStatus ∨ body.state = .streaming ∧ body.rx.buffer = []) ∧
      body.poll_frame = ({ body with status_rx := .received, state := .done },
        .ready (some (.trailers (trailers result.1 result.2))))) ∨
    (body.state = .done ∧ body.poll_frame = (body, .ready none)) := by
  rcases body.poll_frame_spec with shows | ⟨_, empty, alive, waits⟩ | ⟨atStatus, polls⟩ | ended
  · exact .inl shows
  · refine .inr (.inl ⟨?_, fun _ => empty, waits⟩)
    rintro rfl
    rcases agrees with ⟨_, _, dropped, _⟩
    rw [alive] at dropped
    cases dropped
  · cases handler with
    | running | returned =>
        rcases atStatus with awaiting | ⟨_, _, dead⟩
        · simp [Handler.Agrees, awaiting] at agrees
        · simp [Handler.Agrees, dead] at agrees
    | reclaimed result =>
        rcases agrees with ⟨_, waiting, _, _⟩
        have waits := polls.trans (OutboundBody.poll_status_of_waiting waiting)
        rcases atStatus with awaiting | ⟨streaming, empty, _⟩
        · refine .inr (.inl ⟨by simp, by simp [awaiting], ?_⟩)
          rw [waits, ← awaiting]
        · exact .inr (.inr (.inl ⟨result, rfl, streaming, empty, waits⟩))
    | ended =>
        rcases agrees with ⟨result, outcome, _, done | sent⟩
        · simp [OutboundBody.AtStatus, done] at atStatus
        · refine .inr (.inr (.inr (.inl ⟨result, rfl, outcome, ?_, ?_⟩)))
          · exact atStatus.imp_right fun streaming => ⟨streaming.1, streaming.2.1⟩
          · exact polls.trans (OutboundBody.poll_status_of_sent sent)
  · exact .inr (.inr (.inr (.inr ended)))

namespace CallbackExplained

variable {program : HostProgram} {messages : List Bytes} {history : List HostEvent}
  {frames : List (Option Frame)} {call : CallbackCall}

theorem started (opened : handle path body = .ok call) :
    CallbackExplained program body.messages [] [] call := by
  unfold handle at opened
  split at opened
  · cases opened
  · cases opened
    exact ⟨⟨0, rfl⟩, fun _ => nofun, List.nil_prefix, fun _ => rfl, fun _ => rfl, by simp [Channel.create, Pump.spawn],
      ⟨rfl, rfl, rfl⟩, rfl, fun _ => rfl, rfl, rfl⟩

theorem step_pump (explained : CallbackExplained program messages history frames call)
    (stepped : call.pump.step call.inbound = some (pump, inbound)) :
    CallbackExplained program messages history frames
      { call with pump := pump, inbound := inbound } := by
  rcases Pump.step_spec stepped with ⟨sent, spec⟩
  have open_ : call.inbound.senderAlive = true := by
    apply Bool.of_not_eq_false
    intro dead
    exact spec.working (explained.closed.mp dead)
  refine { explained with
    pumped := fun running => ?_
    attended := fun running => ?_
    closed := spec.closed open_
    inboundRoom := (Pump.step_capacity stepped).trans explained.inboundRoom }
  · have moved := Pump.step_toSend (explained.attended running) stepped
    rw [List.append_assoc, moved, ← List.append_assoc]
    exact explained.pumped running
  · rw [spec.receiverAlive]
    exact explained.attended running

theorem step_polled (explained : CallbackExplained program messages history frames call)
    (connected : call.connected = true) (ready : call.body.poll_frame = (body, .ready frame)) :
    CallbackExplained program messages history (frames ++ [frame]) { call with body := body } := by
  rcases call with ⟨pump, inbound, before, handler, isConnected⟩
  have agrees : handler.Agrees before (program history).outcome := explained.agrees
  have delivered : Delivered before (messagesWritten history) (program history).outcome frames :=
    explained.delivered connected
  have alive : before.rx.receiverAlive = isConnected := explained.alive
  have room : before.rx.capacity = 8 := explained.outboundRoom
  rcases poll_frame_cases_of_handler agrees with
    ⟨msg, buffer, state, held, result⟩ | ⟨_, _, result⟩ | ⟨_, _, _, _, result⟩ |
    ⟨outcome, rfl, finished, ended, result⟩ | ⟨state, result⟩
  · cases result.symm.trans ready
    refine { explained with agrees := ?_, alive := alive, delivered := fun _ => ?_,
                            outboundRoom := room }
    · cases handler <;> exact agrees
    · simpa [Delivered, state, held] using delivered
  · cases result.symm.trans ready
  · cases result.symm.trans ready
  · cases result.symm.trans ready
    have shownAll : frames = (messagesWritten history).map shown := by
      rcases ended with awaiting | ⟨streaming, empty⟩
      · simp only [Delivered, awaiting] at delivered
        exact delivered.2
      · simpa [Delivered, streaming, empty] using delivered
    rcases agrees with ⟨_, _, dead, _⟩
    refine { explained with agrees := ⟨outcome, finished, dead, .inl rfl⟩, alive := alive,
                            delivered := fun _ => ⟨0, outcome, finished, ?_⟩
                            outboundRoom := room }
    rw [shownAll]
    rfl
  · cases result.symm.trans ready
    refine { explained with delivered := fun _ => ?_ }
    simp only [Delivered, state] at delivered ⊢
    rcases delivered with ⟨polls, outcome, finished, rfl⟩
    refine ⟨polls + 1, outcome, finished, ?_⟩
    simp [closing, List.replicate_succ']

theorem step_waited (explained : CallbackExplained program messages history frames call)
    (connected : call.connected = true) (pending : call.body.poll_frame = (body, .pending)) :
    CallbackExplained program messages history frames { call with body := body } := by
  rcases call with ⟨pump, inbound, before, handler, isConnected⟩
  have agrees : handler.Agrees before (program history).outcome := explained.agrees
  have delivered : Delivered before (messagesWritten history) (program history).outcome frames :=
    explained.delivered connected
  rcases poll_frame_cases_of_handler agrees with
    ⟨_, _, _, _, result⟩ | ⟨_, _, result⟩ | ⟨outcome, rfl, streaming, empty, result⟩ |
    ⟨_, _, _, _, result⟩ | ⟨_, result⟩
  · cases result.symm.trans pending
  · cases result.symm.trans pending
    exact explained
  · cases result.symm.trans pending
    rcases agrees with ⟨finished, waiting, dead, _⟩
    refine { explained with agrees := ⟨finished, waiting, dead, by simp⟩, delivered := fun _ => ?_ }
    simpa [Delivered, streaming, empty] using delivered
  · cases result.symm.trans pending
  · cases result.symm.trans pending

/-- While the handler runs the response is streaming, so that the outcome of the program
does not matter to it yet. -/
theorem delivered_of_running (explained : CallbackExplained program messages history frames call)
    (running : call.handler = .running) (connected : call.connected = true) :
    frames ++ call.body.rx.buffer.map shown = (messagesWritten history).map shown := by
  have agrees := explained.agrees
  have delivered := explained.delivered connected
  rw [running] at agrees
  rcases agrees with ⟨_, _, streaming⟩
  simpa only [Delivered, streaming] using delivered

/-- A read shows the program its next event, and the client nothing. -/
theorem shows_read {event : HostEvent}
    (explained : CallbackExplained program messages history frames call)
    (running : call.handler = .running) (next : nextEvent program messages history = some event)
    (silent : event.messageWritten = [])
    (pumped : messagesRead (history ++ [event]) ++ buffer ++ call.pump.toSend = messages) :
    CallbackExplained program messages (history ++ [event]) frames
      { call with inbound := { call.inbound with buffer := buffer } } := by
  have agrees := explained.agrees
  rw [running] at agrees
  rcases agrees with ⟨waiting, sending, streaming⟩
  refine { explained with
    reached := beforeRefusal_next explained.reached next
    unrefused := fun connected =>
      (explained.unrefused connected).append (nextEvent_isRefusal next)
    inOrder := ?_
    pumped := fun _ => pumped
    agrees := ?_
    delivered := fun connected => ?_ }
  · rw [← pumped, List.append_assoc]
    exact List.prefix_append _ _
  · show call.handler.Agrees _ _
    rw [running]
    exact ⟨waiting, sending, streaming⟩
  · have delivered := explained.delivered_of_running running connected
    simpa [Delivered, streaming, messagesWritten, silent] using delivered

theorem step_read (explained : CallbackExplained program messages history frames call)
    (running : call.handler = .running) (reads : program history = .read)
    (taken : call.stream_read .valid = some (next, reply)) :
    CallbackExplained program messages
      (history ++ callbackEventOf (.read .valid, reply)) frames next := by
  have pumped := explained.pumped running
  rcases Option.map_eq_some_iff.mp taken with ⟨⟨_, inbound, answer⟩, received, moved⟩
  cases moved
  rcases call.inbound.tryRecv_cases with
    ⟨msg, buffer, held, result⟩ | ⟨_, _, result⟩ | ⟨empty, dead, result⟩
  · simp only [zpr_grpc_stream_read, result, Option.some.injEq, Prod.mk.injEq, true_and] at received
    rcases received with ⟨rfl, rfl⟩
    have arrived : messages[(messagesRead history).length]? = some msg := by
      rw [← pumped, held]
      simp
    apply explained.shows_read running (nextEvent_of_read reads arrived) rfl
    rw [held] at pumped
    simpa [messagesRead, HostEvent.messageRead] using pumped
  · simp [zpr_grpc_stream_read, result] at received
  · simp only [zpr_grpc_stream_read, result, Option.some.injEq, Prod.mk.injEq, true_and] at received
    rcases received with ⟨rfl, rfl⟩
    have all : messagesRead history = messages := by
      have finished := explained.closed.mp dead
      simpa [empty, Pump.toSend, finished] using pumped
    apply explained.shows_read running (nextEvent_of_done reads all) rfl
    simpa [messagesRead, HostEvent.messageRead] using pumped

/-- The program learns that the client is gone. -/
theorem refused (explained : CallbackExplained program messages history frames call)
    (running : call.handler = .running) (gone : call.connected = false) :
    CallbackExplained program messages (history ++ [.refused bytes]) frames call := by
  have agrees := explained.agrees
  rw [running] at agrees
  refine { explained with
    reached := ?_
    unrefused := fun connected => ?_
    inOrder := ?_
    pumped := fun _ => ?_
    agrees := ?_
    delivered := fun connected => ?_ }
  · rw [beforeRefusal_refused]
    exact explained.reached
  · rw [gone] at connected
    cases connected
  · simpa [messagesRead, HostEvent.messageRead] using explained.inOrder
  · simpa [messagesRead, HostEvent.messageRead] using explained.pumped running
  · rw [running]
    exact agrees
  · rw [gone] at connected
    cases connected

theorem step_write (explained : CallbackExplained program messages history frames call)
    (running : call.handler = .running) (writes : program history = .write bytes)
    (given : bytes ≠ [] → data = .valid)
    (taken : call.stream_write data bytes = some (next, reply)) :
    CallbackExplained program messages
      (history ++ callbackEventOf (.write data bytes, reply)) frames next := by
  have agrees := explained.agrees
  rw [running] at agrees
  rcases agrees with ⟨waiting, sending, streaming⟩
  have sent : (if data = .null then [] else bytes) = bytes := by
    split
    · rename_i isNull
      by_contra different
      have valid := given (Ne.symm different)
      rw [isNull] at valid
      cases valid
    · rfl
  rcases Option.map_eq_some_iff.mp taken with ⟨⟨rx, answer⟩, written, moved⟩
  cases moved
  rw [zpr_grpc_stream_write, sent] at written
  rcases call.body.rx.trySend_cases bytes with
    ⟨result, dead⟩ | ⟨result, receiving, _⟩ | ⟨result, _⟩
  · simp only [result, Option.some.injEq, Prod.mk.injEq] at written
    rcases written with ⟨rfl, rfl⟩
    have gone : call.connected = false := explained.alive.symm.trans dead
    exact explained.refused running gone
  · simp only [result, Option.some.injEq, Prod.mk.injEq] at written
    rcases written with ⟨rfl, rfl⟩
    refine { explained with
      reached := beforeRefusal_next explained.reached (nextEvent_of_write writes)
      unrefused := fun connected => (explained.unrefused connected).append rfl
      inOrder := ?_
      pumped := fun _ => ?_
      agrees := ?_
      delivered := fun connected => ?_ }
    · simpa [callbackEventOf, messagesRead, HostEvent.messageRead] using explained.inOrder
    · have pumped := explained.pumped running
      simpa [callbackEventOf, messagesRead, HostEvent.messageRead] using pumped
    · show call.handler.Agrees _ _
      rw [running]
      exact ⟨waiting, sending, streaming⟩
    · have delivered := explained.delivered_of_running running connected
      simp only [Delivered, streaming, callbackEventOf, if_true, messagesWritten_append,
        List.map_append, ← delivered]
      rw [List.append_assoc]
      rfl
  · simp [result] at written

theorem step_returns (explained : CallbackExplained program messages history frames call)
    (running : call.handler = .running)
    (finishes : program history = .finish out_status message)
    (given : out_msg = some (as_bytes message) ∨ message = "" ∧ out_msg = none) :
    CallbackExplained program messages history frames
      { call with handler := .returned (out_status, returned_message out_msg) } := by
  have agrees := explained.agrees
  rw [running] at agrees
  rcases agrees with ⟨waiting, sending, streaming⟩
  have told : returned_message out_msg = message := by
    rcases given with rfl | ⟨rfl, rfl⟩
    · exact from_utf8_lossy_as_bytes message
    · rfl
  refine { explained with
    pumped := fun reads => by cases reads
    attended := fun reads => by cases reads
    agrees := ⟨?_, waiting, sending, streaming⟩ }
  rw [finishes, told]
  rfl

theorem step_reclaim (explained : CallbackExplained program messages history frames call)
    (returned : call.handler = .returned outcome) :
    CallbackExplained program messages history frames (call.reclaim outcome) := by
  have agrees := explained.agrees
  rw [returned] at agrees
  rcases agrees with ⟨finished, waiting, _, streaming⟩
  refine { explained with
    pumped := fun reads => by cases reads
    attended := fun reads => by cases reads
    agrees := ⟨finished, waiting, rfl, ?_⟩ }
  simp [CallbackCall.reclaim, streaming]

theorem step_send_status (explained : CallbackExplained program messages history frames call)
    (reclaimed : call.handler = .reclaimed outcome) :
    CallbackExplained program messages history frames (call.send_status outcome) := by
  have agrees := explained.agrees
  rw [reclaimed] at agrees
  rcases agrees with ⟨finished, waiting, dead, _⟩
  refine { explained with
    pumped := fun reads => by cases reads
    attended := fun reads => by cases reads
    agrees := ⟨outcome, finished, dead, .inr ?_⟩ }
  simp [CallbackCall.send_status, waiting, Oneshot.send]

theorem step_hang_up (explained : CallbackExplained program messages history frames call) :
    CallbackExplained program messages history frames
      { call with
        connected := false
        body := { call.body with rx := call.body.rx.dropReceiver } } := by
  refine { explained with
    unrefused := fun connected => by cases connected
    agrees := ?_
    alive := rfl
    delivered := fun connected => by cases connected }
  have agrees := explained.agrees
  show call.handler.Agrees _ _
  cases handler : call.handler <;> rw [handler] at agrees <;> exact agrees

end CallbackExplained

/-- The history goes on explaining the call, whatever the program, the client and the
tasks do. -/
theorem callbackExplained_step {program : HostProgram} {messages : List Bytes}
    {trace : CallbackTrace} {call : CallbackCall}
    (explained : CallbackExplained program messages (callbackEvents trace) (callbackFrames trace) call)
    (runs : RunsProgram program trace action)
    (taken : callbackStep call action = some (next, reply)) :
    CallbackExplained program messages (callbackEvents (trace ++ [(action, reply)]))
      (callbackFrames (trace ++ [(action, reply)])) next := by
  rw [callbackEvents_next, callbackFrames_next]
  cases action with
  | pump_inbound =>
      rcases Option.map_eq_some_iff.mp taken with ⟨⟨pump, inbound⟩, stepped, moved⟩
      cases moved
      simpa [callbackEventOf, callbackFramesOf] using explained.step_pump stepped
  | poll_frame =>
      simp only [callbackStep, CallbackCall.poll_frame] at taken
      split at taken
      · rename_i connected
        cases taken
        cases result : call.body.poll_frame with
        | mk body poll =>
            cases poll with
            | pending =>
                simpa [callbackEventOf, callbackFramesOf] using explained.step_waited connected result
            | ready frame =>
                simpa [callbackEventOf, callbackFramesOf] using explained.step_polled connected result
      · cases taken
  | hang_up =>
      cases taken
      simpa [callbackEventOf, callbackFramesOf] using explained.step_hang_up
  | read out =>
      rcases runs with ⟨reads, rfl⟩
      simp only [callbackStep] at taken
      split at taken
      · rename_i running
        have after := explained.step_read running reads taken
        simpa [callbackFramesOf] using after
      · cases taken
  | write data bytes =>
      rcases runs with ⟨writes, given⟩
      simp only [callbackStep] at taken
      split at taken
      · rename_i running
        have after := explained.step_write running writes given taken
        simpa [callbackFramesOf] using after
      · cases taken
  | returns out_status out_msg =>
      rcases runs with ⟨message, finishes, given⟩
      simp only [callbackStep] at taken
      split at taken
      · rename_i running
        cases taken
        have after := explained.step_returns running finishes given
        simpa [callbackEventOf, callbackFramesOf] using after
      · cases taken
  | reclaim =>
      simp only [callbackStep] at taken
      split at taken
      · rename_i outcome returned
        cases taken
        simpa [callbackEventOf, callbackFramesOf] using explained.step_reclaim returned
      · cases taken
  | send_status =>
      simp only [callbackStep] at taken
      split at taken
      · rename_i outcome reclaimed
        cases taken
        simpa [callbackEventOf, callbackFramesOf] using explained.step_send_status reclaimed
      · cases taken

theorem callbackExplained_of_run {program : HostProgram} (opened : handle path body = .ok start)
    (run : GuidedRun (RunsProgram program) callbackStep start trace call) :
    CallbackExplained program body.messages (callbackEvents trace) (callbackFrames trace) call :=
  run.invariant
    (fun trace call => CallbackExplained program body.messages (callbackEvents trace)
      (callbackFrames trace) call)
    (CallbackExplained.started opened)
    fun _ explained runs taken => callbackExplained_step explained runs taken

/-- A client that stays connected is shown nothing but what the program shows it. -/
theorem CallbackExplained.shows {program : HostProgram} {messages : List Bytes}
    {history : List HostEvent} {frames : List (Option Frame)} {call : CallbackCall}
    (explained : CallbackExplained program messages history frames call)
    (connected : call.connected = true) : Shows program messages frames := by
  rcases isPrefix_of_delivered (explained.delivered connected) with ⟨polls, isPrefix⟩
  rcases explained.reached with ⟨stage, reached⟩
  rw [beforeRefusal_of_unrefused (explained.unrefused connected)] at reached
  exact shows_of_history reached (List.prefix_refl _) isPrefix

end Zpr.GrpcServer
