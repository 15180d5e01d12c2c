import Zpr.GrpcServer.CompressedMessage
import Zpr.GrpcServer.RequestHistory

namespace Zpr.GrpcServer

open Ffi

/-! # What the end-of-request signal says

Every way for the pump to end closes the channel, and a closed channel is all
that the host's read sees. -/

variable {Reader Call Reply : Type}

/-- One frame of the wire format, whatever its compression flag. -/
def wireFrame (frame : UInt8 × Bytes) : Bytes :=
  frame.1 :: u32_to_be_bytes frame.2.length ++ frame.2

/-- The stream stops between two frames, not inside one. -/
def AtFrameBoundary (stream : Bytes) : Prop :=
  ∃ frames : List (UInt8 × Bytes), (∀ frame ∈ frames, frame.2.length < 2 ^ 32) ∧
    stream = frames.flatMap wireFrame

/-- The client finished sending: a clean end of stream between two frames. -/
def EndsCleanly (body : RequestBody) : Prop :=
  body.failed = false ∧ AtFrameBoundary (received body.frames)

theorem five_le_of_atFrameBoundary {stream : Bytes} (boundary : AtFrameBoundary stream)
    (sent : stream ≠ []) : 5 ≤ stream.length := by
  rcases boundary with ⟨frames, _, rfl⟩
  cases frames with
  | nil => exact absurd rfl sent
  | cons frame frames =>
      simp only [List.flatMap_cons, wireFrame, u32_to_be_bytes, List.cons_append,
        List.nil_append, List.length_cons, List.length_append]
      omega

theorem callRead_drains : Drains callRead
    (fun call => call.pending_msg = none ∧ call.client_done = false)
    (fun reply => reply.rc = ZPR_CALL_CLIENT_DONE) where
  take := by
    intro call inbound item buffer ready held
    let room : Buffer := { out := .valid, out_cap := item.length, out_len := .valid }
    have copied : (copy_into item room).rc = ZPR_OK := by simp [copy_into, room]
    refine ⟨room, call, { copy_into item room with rc := ZPR_CALL_MESSAGE }, ready, ?_⟩
    simp [callRead, LiveCall.read_into, ready.1, ready.2, Channel.tryRecv, held, copied]
  finish := by
    intro call inbound ready held closed
    let nowhere : Buffer := { out := .null, out_cap := 0, out_len := .null }
    refine ⟨nowhere, { call with client_done := true }, inbound,
      { rc := ZPR_CALL_CLIENT_DONE, out_len := none, written := [], last_error := none },
      rfl, ?_⟩
    simp [callRead, LiveCall.read_into, ready.1, ready.2, Channel.tryRecv, held, closed,
      nowhere, Pointer.store]

theorem stream_read_drains : Drains zpr_grpc_stream_read (fun _ => True)
    (fun reply => reply.rc = 0) where
  take := by
    intro stream inbound item buffer _ held
    refine ⟨.valid, stream, { rc := 1, out := some item }, trivial, ?_⟩
    simp [zpr_grpc_stream_read, Channel.tryRecv, held, Pointer.store]
  finish := by
    intro stream inbound _ held closed
    refine ⟨.valid, stream, inbound, { rc := 0, out := some [] }, rfl, ?_⟩
    simp [zpr_grpc_stream_read, Channel.tryRecv, held, closed, Pointer.store]

theorem exists_run_done_of_opened {read : HostRead Reader Call Reply} {Ready : Reader → Prop}
    {Done : Reply → Prop} (drains : Drains read Ready Done) (body : RequestBody)
    {reader : Reader} (ready : Ready reader) :
    ∃ trace final call reply, Run (requestStep read) (.opened body reader) trace final ∧
      (.read call, some reply) ∈ trace ∧ Done reply := by
  apply RequestStream.exists_run_done drains
  refine ⟨ready, Nat.zero_lt_succ _, rfl, fun finished => ?_⟩
  cases finished

theorem exists_call_client_done (body : RequestBody) (rpc expires_at : Nat) :
    ∃ trace final buffer reply,
      Run (requestStep callRead) (.opened body (.admitted rpc expires_at)) trace final ∧
      (.read buffer, some reply) ∈ trace ∧ reply.rc = ZPR_CALL_CLIENT_DONE :=
  exists_run_done_of_opened callRead_drains body ⟨rfl, rfl⟩

theorem exists_stream_client_done (body : RequestBody) :
    ∃ trace final out reply,
      Run (requestStep zpr_grpc_stream_read) (.opened body ()) trace final ∧
      (.read out, some reply) ∈ trace ∧ reply.rc = 0 :=
  exists_run_done_of_opened stream_read_drains body trivial

/-! ## The state of the pump when the signal is given -/

/-- What the buffer of the pump holds when it has read the whole body, with a channel that
takes every message. -/
def Pump.left (pump : Pump) : Bytes :=
  match pump.phase with
  | .reading => (pump_frames pump.buf pump.body.frames).2
  | .sending _ => (pump_frames (decode_loop pump.buf).2 pump.body.frames).2
  | .finished => pump.buf

theorem Pump.decode_left (pump : Pump) :
    pump.decode.left = (pump_frames (decode_loop pump.buf).2 pump.body.frames).2 := by
  cases decoded : try_decode_one pump.buf with
  | mk msg buf =>
      cases msg with
      | none => simp [decode, decoded, left, decode_loop_of_none decoded]
      | some msg => simp [decode, decoded, left, decode_loop_of_some decoded]

/-- A step of the pump neither revives its channel nor changes what will be left. -/
theorem Pump.step_left {pump next : Pump} {tx after : Channel Bytes}
    (alive : tx.receiverAlive = true) (taken : pump.step tx = some (next, after)) :
    next.left = pump.left ∧ pump.phase ≠ .finished ∧ after.receiverAlive = true ∧
      (after.senderAlive = false → tx.senderAlive = false ∨ next.phase = .finished) := by
  unfold step at taken
  cases phase : pump.phase with
  | finished => simp [phase] at taken
  | reading =>
      cases frames : pump.body.frames with
      | nil =>
          simp only [phase, frames, Option.some.injEq, Prod.mk.injEq] at taken
          rcases taken with ⟨rfl, rfl⟩
          exact ⟨by simp [left, phase, frames, pump_frames], by simp, alive, fun _ => .inr rfl⟩
      | cons frame frames' =>
          cases frame with
          | other =>
              simp only [phase, frames, Option.some.injEq, Prod.mk.injEq] at taken
              rcases taken with ⟨rfl, rfl⟩
              exact ⟨by simp [left, phase, frames, pump_frames, pump_frame], by simp, alive, .inl⟩
          | data chunk =>
              simp only [phase, frames, Option.some.injEq, Prod.mk.injEq] at taken
              rcases taken with ⟨rfl, rfl⟩
              refine ⟨?_, by simp, alive, .inl⟩
              rw [decode_left]
              simp [left, phase, frames, pump_frames, pump_frame]
  | sending msg =>
      rcases tx.trySend_cases msg with ⟨_, dead⟩ | ⟨result, _, _⟩ | ⟨result, _, _⟩
      · rw [alive] at dead
        cases dead
      · simp only [phase, result, Option.some.injEq, Prod.mk.injEq] at taken
        rcases taken with ⟨rfl, rfl⟩
        refine ⟨?_, by simp, alive, .inl⟩
        rw [decode_left]
        simp [left, phase]
      · simp [phase, result] at taken

/-- A host that is told of the end only where it has been told before, or the channel has
closed. -/
structure Reports (read : HostRead Reader Call Reply) (Told : Reader → Prop)
    (Done : Reply → Prop) : Prop where
  channel : ∀ {reader inbound call after left reply},
    read reader inbound call = some (after, left, reply) →
      left.senderAlive = inbound.senderAlive ∧ left.receiverAlive = inbound.receiverAlive
  done : ∀ {reader inbound call after left reply},
    read reader inbound call = some (after, left, reply) → Done reply ∨ Told after →
      Told reader ∨ inbound.senderAlive = false

theorem callRead_reports : Reports callRead (fun call => call.client_done = true)
    (fun reply => reply.rc = ZPR_CALL_CLIENT_DONE) where
  channel := by
    intro call inbound buffer after left reply taken
    have outcome := call.readStep inbound buffer
    rw [Option.some.inj taken] at outcome
    cases outcome <;> exact ⟨rfl, rfl⟩
  done := by
    intro call inbound buffer after left reply taken told
    have outcome := call.readStep inbound buffer
    rw [Option.some.inj taken] at outcome
    cases outcome with
    | returnsHeld _ _ _ rc | returnsNext _ _ _ _ _ _ rc =>
        rcases told with done | told
        · rw [rc] at done
          cases done
        · exact .inl told
    | keepsHeld _ _ _ failed | holdsNext _ _ _ _ _ _ failed =>
        exact .inl (told.resolve_left failed.2)
    | findsNothing _ _ _ _ rc =>
        rcases told with done | told
        · rw [rc] at done
          cases done
        · exact .inl told
    | findsEnd _ ended => exact ended.imp_right fun closed => closed.2

theorem stream_read_reports : Reports zpr_grpc_stream_read (fun _ => False)
    (fun reply => reply.rc = 0) where
  channel := by
    intro stream inbound out after left reply taken
    rcases inbound.tryRecv_cases with ⟨_, _, _, result⟩ | ⟨_, _, result⟩ | ⟨_, _, result⟩
    · simp only [zpr_grpc_stream_read, result, Option.some.injEq, Prod.mk.injEq] at taken
      rcases taken with ⟨_, rfl, _⟩
      exact ⟨rfl, rfl⟩
    · simp [zpr_grpc_stream_read, result] at taken
    · simp only [zpr_grpc_stream_read, result, Option.some.injEq, Prod.mk.injEq] at taken
      rcases taken with ⟨_, rfl, _⟩
      exact ⟨rfl, rfl⟩
  done := by
    intro stream inbound out after left reply taken told
    rcases inbound.tryRecv_cases with ⟨_, _, _, result⟩ | ⟨_, _, result⟩ | ⟨_, dead, _⟩
    · simp only [zpr_grpc_stream_read, result, Option.some.injEq, Prod.mk.injEq] at taken
      rcases taken with ⟨_, _, rfl⟩
      rcases told with done | told
      · cases done
      · exact told.elim
    · simp [zpr_grpc_stream_read, result] at taken
    · exact .inr dead

/-- The signal is given by a pump that has returned. -/
structure RequestStream.Signals (body : RequestBody) (Told : Reader → Prop) (Done : Reply → Prop)
    (trace : List (RequestAction Call × Option Reply)) (state : RequestStream Reader) : Prop where
  left : state.pump.left = (pump_inbound body.frames).2
  alive : state.inbound.receiverAlive = true
  closed : state.inbound.senderAlive = false → state.pump.phase = .finished
  told : Told state.reader → state.pump.phase = .finished
  signalled : ∀ call reply, (.read call, some reply) ∈ trace → Done reply →
    state.pump.phase = .finished

theorem RequestStream.signals_of_run {read : HostRead Reader Call Reply} {Told : Reader → Prop}
    {Done : Reply → Prop} (reports : Reports read Told Done) {body : RequestBody} {reader : Reader}
    (untold : ¬ Told reader) (run : Run (requestStep read) (.opened body reader) trace final) :
    final.Signals body Told Done trace := by
  apply run.invariant fun trace state => state.Signals body Told Done trace
  · exact ⟨rfl, rfl, fun dead => Bool.noConfusion dead, fun told => absurd told untold,
      fun _ _ member => absurd member List.not_mem_nil⟩
  · intro trace state action next reply _ signals _ taken
    cases action with
    | pump =>
        rcases Option.map_eq_some_iff.mp taken with ⟨⟨pump, inbound⟩, stepped, moved⟩
        cases moved
        rcases Pump.step_left signals.alive stepped with ⟨left, working, alive, closes⟩
        refine ⟨left.trans signals.left, alive, fun dead => ?_,
          fun told => absurd (signals.told told) working, fun call reply member done => ?_⟩
        · rcases closes dead with before | finished
          · exact absurd (signals.closed before) working
          · exact finished
        · rcases List.mem_append.mp member with earlier | last
          · exact absurd (signals.signalled call reply earlier done) working
          · simp at last
    | read call =>
        rcases Option.map_eq_some_iff.mp taken with ⟨⟨after, inbound, answer⟩, received, moved⟩
        cases moved
        rcases reports.channel received with ⟨sender, receiver⟩
        have finished : Done answer ∨ Told after → state.pump.phase = .finished := fun told =>
          (reports.done received told).elim signals.told signals.closed
        refine ⟨signals.left, receiver.trans signals.alive,
          fun dead => signals.closed (sender ▸ dead), fun told => finished (.inr told),
          fun other reply member done => ?_⟩
        rcases List.mem_append.mp member with earlier | last
        · exact signals.signalled other reply earlier done
        · simp only [List.mem_singleton, Prod.mk.injEq, Option.some.injEq] at last
          rw [last.2] at done
          exact finished (.inl done)

/-- Whenever the host is told that the client is done, the body has come to a clean end
between two frames, and no part of a frame is left in the buffer. -/
def Trusted (read : HostRead Reader Call Reply) (Done : Reply → Prop) (body : RequestBody)
    (reader : Reader) : Prop :=
  ∀ trace final, Run (requestStep read) (.opened body reader) trace final →
    ∀ call reply, (.read call, some reply) ∈ trace → Done reply →
      EndsCleanly body ∧ final.pump.buf = []

theorem trusted_iff {read : HostRead Reader Call Reply} {Ready Told : Reader → Prop}
    {Done : Reply → Prop} (drains : Drains read Ready Done) (reports : Reports read Told Done)
    (body : RequestBody) {reader : Reader} (ready : Ready reader) (untold : ¬ Told reader) :
    Trusted read Done body reader ↔ EndsCleanly body ∧ DecodesWhole body.frames := by
  have left : ∀ {trace final}, Run (requestStep read) (.opened body reader) trace final →
      ∀ {call reply}, (.read call, some reply) ∈ trace → Done reply →
        final.pump.buf = (pump_inbound body.frames).2 := by
    intro trace final run call reply member done
    have signals := RequestStream.signals_of_run reports untold run
    have same := signals.left
    rw [Pump.left, signals.signalled call reply member done] at same
    exact same
  constructor
  · intro trusted
    rcases exists_run_done_of_opened drains body ready with
      ⟨trace, final, call, reply, run, member, done⟩
    rcases trusted trace final run call reply member done with ⟨clean, empty⟩
    rw [left run member done] at empty
    exact ⟨clean, (pump_inbound_left_eq_nil_iff _).mp empty⟩
  · rintro ⟨clean, whole⟩ trace final run call reply member done
    rw [left run member done]
    exact ⟨clean, (pump_inbound_left_eq_nil_iff _).mpr whole⟩

/-- The end-of-request signal, `ZPR_CALL_CLIENT_DONE` in queued mode and the return value 0
in callback mode, is given for every body. It can be trusted for exactly those bodies that
end without an error and between two frames, and at whose end decoding, which starts afresh
after every compressed header, is between two frames as well. -/
theorem client_done_trusted_iff (body : RequestBody) (rpc expires_at : Nat) :
    (Trusted callRead (fun reply => reply.rc = ZPR_CALL_CLIENT_DONE) body
        (.admitted rpc expires_at) ↔
      body.failed = false ∧ AtFrameBoundary (received body.frames) ∧ DecodesWhole body.frames) ∧
    (Trusted zpr_grpc_stream_read (fun reply => reply.rc = 0) body () ↔
      body.failed = false ∧ AtFrameBoundary (received body.frames) ∧
        DecodesWhole body.frames) := by
  rw [← and_assoc]
  constructor
  · exact trusted_iff callRead_drains callRead_reports body ⟨rfl, rfl⟩ (by simp [LiveCall.admitted])
  · exact trusted_iff stream_read_drains stream_read_reports body trivial not_false

/-- The host can be told, in either mode, that the client is done. -/
def ReportedDone (body : RequestBody) : Prop :=
  (∃ trace final buffer reply,
    Run (requestStep callRead) (.opened body (.admitted 0 0)) trace final ∧
    (.read buffer, some reply) ∈ trace ∧ reply.rc = ZPR_CALL_CLIENT_DONE) ∧
  (∃ trace final out reply,
    Run (requestStep zpr_grpc_stream_read) (.opened body ()) trace final ∧
    (.read out, some reply) ∈ trace ∧ reply.rc = 0)

/-- An upload that stops three bytes into a frame header, and one that is reset
before it brings a byte: both modes tell the host that the client is done. -/
theorem client_done_after_truncated_or_reset_upload :
    (¬ EndsCleanly { frames := [.data [0, 0, 0]], failed := false } ∧
      ReportedDone { frames := [.data [0, 0, 0]], failed := false }) ∧
    ¬ EndsCleanly { frames := [], failed := true } ∧
      ReportedDone { frames := [], failed := true } := by
  refine ⟨⟨fun clean => ?_, ?_⟩, fun clean => ?_, ?_⟩
  · have long := five_le_of_atFrameBoundary clean.2 (by simp [received])
    simp [received] at long
  · exact ⟨exists_call_client_done _ 0 0, exists_stream_client_done _⟩
  · cases clean.1
  · exact ⟨exists_call_client_done _ 0 0, exists_stream_client_done _⟩

end Zpr.GrpcServer
