import Zpr.GrpcServer.CallbackHistory

namespace Zpr.GrpcServer

open Ffi

/-! # A host program in callback mode gets on

As long as the client has not been shown what it is to see at some stage of the program,
the client, the handler or the pump has a step to take. -/

/-- The steps that the closure still has to take. -/
def Handler.left : Handler → Nat
  | .running => 3
  | .returned _ => 2
  | .reclaimed _ => 1
  | .ended => 0

/-- What is left to do until the client has been shown what it is to see at `stage`. -/
def callbackLeft (program : HostProgram) (messages : List Bytes) (stage : Nat)
    (trace : CallbackTrace) (call : CallbackCall) : Nat :=
  ((response program messages stage).length - (callbackFrames trace).length) +
    ((historyAt program messages stage).length - (callbackEvents trace).length) +
    call.pump.work + call.handler.left

/-- A step that leads on. -/
def CallbackProgress (program : HostProgram) (messages : List Bytes) (stage : Nat)
    (trace : CallbackTrace) (call : CallbackCall) : Prop :=
  ∃ action next reply, RunsProgram program trace action ∧
    callbackStep call action = some (next, reply) ∧ next.connected = true ∧
    callbackLeft program messages stage (trace ++ [(action, reply)]) next <
      callbackLeft program messages stage trace call

section Progress

variable {program : HostProgram} {messages : List Bytes} {trace : CallbackTrace}
  {call : CallbackCall}

theorem CallbackProgress.of_ready (connected : call.connected = true)
    (behind : (callbackFrames trace).length < (response program messages stage).length)
    (ready : call.body.poll_frame = (body, .ready frame)) :
    CallbackProgress program messages stage trace call := by
  refine ⟨.poll_frame, { call with body := body }, .polled (.ready frame), trivial, ?_, connected, ?_⟩
  · simp [callbackStep, CallbackCall.poll_frame, connected, ready]
  · simp only [callbackLeft, callbackFrames_next, callbackEvents_next, callbackFramesOf,
      callbackEventOf, List.append_nil, List.length_append, List.length_singleton]
    omega

/-- A step of the closure or of the pump, which neither the program nor the client sees. -/
theorem CallbackProgress.of_quiet {next : CallbackCall} (runs : RunsProgram program trace action)
    (taken : callbackStep call action = some (next, .silent)) (connected : next.connected = true)
    (quiet : callbackEventOf (action, .silent) = [] ∧ callbackFramesOf (action, .silent) = [])
    (smaller : next.pump.work + next.handler.left < call.pump.work + call.handler.left) :
    CallbackProgress program messages stage trace call := by
  refine ⟨action, next, .silent, runs, taken, connected, ?_⟩
  simp only [callbackLeft, callbackFrames_next, callbackEvents_next, quiet.1, quiet.2,
    List.append_nil]
  omega

/-- A step that shows the program its next event. -/
theorem CallbackProgress.of_event {next : CallbackCall} (runs : RunsProgram program trace action)
    (taken : callbackStep call action = some (next, reply)) (connected : next.connected = true)
    (shows : callbackEventOf (action, reply) = [event])
    (unseen : callbackFramesOf (action, reply) = [])
    (same : next.pump = call.pump ∧ next.handler = call.handler)
    (behind : (callbackEvents trace).length < (historyAt program messages stage).length) :
    CallbackProgress program messages stage trace call := by
  refine ⟨action, next, reply, runs, taken, connected, ?_⟩
  simp only [callbackLeft, callbackFrames_next, callbackEvents_next, shows, unseen,
    List.append_nil, List.length_append, List.length_singleton, same.1, same.2]
  omega

/-- A handler that is to read finds a message or the end of the request, if need be when
the pump has run. -/
theorem CallbackProgress.of_reading
    (explained : CallbackExplained program messages (callbackEvents trace) (callbackFrames trace) call)
    (connected : call.connected = true) (running : call.handler = .running)
    (reads : program (callbackEvents trace) = .read)
    (behind : (callbackEvents trace).length < (historyAt program messages stage).length) :
    CallbackProgress program messages stage trace call := by
  have allowed : RunsProgram program trace (.read .valid) := ⟨reads, rfl⟩
  rcases call.inbound.tryRecv_cases with
    ⟨msg, buffer, held, result⟩ | ⟨nothing, sending, _⟩ | ⟨_, _, result⟩
  · have taken : callbackStep call (.read .valid) =
        some ({ call with inbound := { call.inbound with buffer := buffer } },
          .read { rc := 1, out := some msg }) := by
      simp [callbackStep, running, CallbackCall.stream_read, zpr_grpc_stream_read, result,
        Pointer.store]
    exact CallbackProgress.of_event allowed taken connected rfl rfl ⟨rfl, rfl⟩ behind
  · have working : call.pump.phase ≠ .finished := by
      intro finished
      rw [explained.closed.mpr finished] at sending
      cases sending
    have room : 0 < call.inbound.capacity := by
      rw [explained.inboundRoom]
      exact Nat.zero_lt_succ _
    rcases call.pump.step_of_room working nothing room (explained.attended running) with
      ⟨pump, inbound, stepped, smaller, _⟩
    have taken : callbackStep call .pump_inbound =
        some ({ call with pump := pump, inbound := inbound }, .silent) := by
      simp [callbackStep, stepped]
    have pumps : RunsProgram program trace .pump_inbound := trivial
    apply CallbackProgress.of_quiet pumps taken connected ⟨rfl, rfl⟩
    show pump.work + call.handler.left < call.pump.work + call.handler.left
    omega
  · have taken : callbackStep call (.read .valid) =
        some (call, .read { rc := 0, out := some [] }) := by
      rw [callbackStep, if_pos running]
      simp [CallbackCall.stream_read, zpr_grpc_stream_read, result, Pointer.store]
    exact CallbackProgress.of_event allowed taken connected rfl rfl ⟨rfl, rfl⟩ behind

/-- A handler whose messages have all been sent to the client can go on with its
program. -/
theorem CallbackProgress.of_running
    (explained : CallbackExplained program messages (callbackEvents trace) (callbackFrames trace) call)
    (connected : call.connected = true) (running : call.handler = .running)
    (empty : call.body.rx.buffer = [])
    (behind : (callbackFrames trace).length < (response program messages stage).length) :
    CallbackProgress program messages stage trace call := by
  rcases explained.reached with ⟨now, reached⟩
  rw [beforeRefusal_of_unrefused (explained.unrefused connected)] at reached
  have shownAll := congrArg List.length (explained.delivered_of_running running connected)
  simp only [empty, List.map_nil, List.append_nil, List.length_map] at shownAll
  rw [shownAll] at behind
  cases decided : program (callbackEvents trace) with
  | read =>
      have someEvent : ∃ event, nextEvent program messages (callbackEvents trace) = some event := by
        simp [nextEvent, decided]
      rcases someEvent with ⟨event, next⟩
      exact CallbackProgress.of_reading explained connected running decided
        (history_behind reached behind next)
  | write msg =>
      have next : nextEvent program messages (callbackEvents trace) = some (.wrote msg) :=
        nextEvent_of_write decided
      have alive : call.body.rx.receiverAlive = true := explained.alive.trans connected
      have taken : callbackStep call (.write .valid msg) =
          some ({ call with body := { call.body with rx := { call.body.rx with buffer := [msg] } } },
            .returned ZPR_OK none) := by
        simp [callbackStep, running, CallbackCall.stream_write, zpr_grpc_stream_write,
          Channel.trySend, alive, empty, explained.outboundRoom]
      have allowed : RunsProgram program trace (.write .valid msg) := ⟨decided, fun _ => rfl⟩
      exact CallbackProgress.of_event allowed taken connected rfl rfl ⟨rfl, rfl⟩
        (history_behind reached behind next)
  | finish status message =>
      have allowed : RunsProgram program trace (.returns status (some (as_bytes message))) :=
        ⟨message, decided, .inl rfl⟩
      let outcome := (status, returned_message (some (as_bytes message)))
      have taken : callbackStep call (.returns status (some (as_bytes message))) =
          some ({ call with handler := .returned outcome }, .silent) := by
        simp [callbackStep, running, outcome]
      apply CallbackProgress.of_quiet allowed taken connected ⟨rfl, rfl⟩
      rw [running]
      simp [Handler.left]

theorem CallbackProgress.of_reclaimed (connected : call.connected = true)
    (reclaimed : call.handler = .reclaimed outcome) :
    CallbackProgress program messages stage trace call := by
  have taken : callbackStep call .send_status = some (call.send_status outcome, .silent) := by
    simp [callbackStep, reclaimed]
  have allowed : RunsProgram program trace .send_status := trivial
  apply CallbackProgress.of_quiet allowed taken connected ⟨rfl, rfl⟩
  simp [CallbackCall.send_status, reclaimed, Handler.left]

/-- The client polls where that shows it something; else the closure goes on. -/
theorem CallbackProgress.of_history
    (explained : CallbackExplained program messages (callbackEvents trace) (callbackFrames trace) call)
    (connected : call.connected = true)
    (behind : (callbackFrames trace).length < (response program messages stage).length) :
    CallbackProgress program messages stage trace call := by
  rcases poll_frame_cases_of_handler explained.agrees with
    ⟨_, _, _, _, ready⟩ | ⟨notEnded, empty, _⟩ | ⟨outcome, reclaimed, _⟩ | ⟨_, _, _, _, ready⟩ |
      ⟨_, ready⟩
  · exact CallbackProgress.of_ready connected behind ready
  · cases handler : call.handler with
    | running =>
        have agrees := explained.agrees
        rw [handler] at agrees
        exact CallbackProgress.of_running explained connected handler (empty agrees.2.2) behind
    | returned outcome =>
        have taken : callbackStep call .reclaim = some (call.reclaim outcome, .silent) := by
          simp [callbackStep, handler]
        have allowed : RunsProgram program trace .reclaim := trivial
        apply CallbackProgress.of_quiet allowed taken connected ⟨rfl, rfl⟩
        simp [CallbackCall.reclaim, handler, Handler.left]
    | reclaimed outcome => exact CallbackProgress.of_reclaimed connected handler
    | ended => exact absurd handler notEnded
  · exact CallbackProgress.of_reclaimed connected reclaimed
  · exact CallbackProgress.of_ready connected behind ready
  · exact CallbackProgress.of_ready connected behind ready

end Progress

/-- Whatever has happened to a call, if its client is still there it can be shown as much
as its program is to show it. -/
theorem exists_callback_extension {program : HostProgram} (opened : handle path body = .ok start)
    (run : GuidedRun (RunsProgram program) callbackStep start trace call)
    (connected : call.connected = true) (stage : Nat) :
    ∃ later final, GuidedRun (RunsProgram program) callbackStep start (trace ++ later) final ∧
      final.connected = true ∧
      (response program body.messages stage).length ≤ (callbackFrames (trace ++ later)).length := by
  have progress : ∀ trace call, GuidedRun (RunsProgram program) callbackStep start trace call →
      call.connected = true →
      ¬ (response program body.messages stage).length ≤ (callbackFrames trace).length →
      CallbackProgress program body.messages stage trace call := by
    intro trace call run connected unfinished
    exact CallbackProgress.of_history (callbackExplained_of_run opened run) connected
      (Nat.lt_of_not_le unfinished)
  exact GuidedRun.exists_extension (callbackLeft program body.messages stage) progress run connected

end Zpr.GrpcServer
