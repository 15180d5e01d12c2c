import Zpr.Grpc.ClientStreamStep

namespace Zpr.Grpc

open Ffi

/-! # Pull mode loses nothing

The two ways to read and the held message share one position in the line of
messages: a read delivers the first of them, or leaves the line as it is. -/

theorem TakesOff.undelivered {s after : GrpcClientStream} (taken : TakesOff s.mode after.mode off)
    (given : got ++ after.pending.toList = s.pending.toList ++ off) :
    got ++ after.undelivered = s.undelivered := by
  rw [GrpcClientStream.undelivered, GrpcClientStream.undelivered, taken.waiting,
    ← List.append_assoc, given, List.append_assoc]

/-- `zpr_grpc_client_stream_read_into`, by what it returns: a message that has
been delivered, or one that is held for want of a buffer, or neither. -/
theorem read_into_cases
    (taken : zpr_grpc_client_stream_read_into s buffer = some (after, reply)) :
    (∃ m, reply.rc = 1 ∧ reply.written = m ∧ s.undelivered = m :: after.undelivered ∧
      (copy_into m buffer).rc = ZPR_OK) ∨
    (∃ m, reply = copy_into m buffer ∧ reply.rc ≠ ZPR_OK ∧ after.pending = some m ∧
      after.undelivered = s.undelivered) ∨
    ((reply.rc = 0 ∨ reply.rc = ZPR_ERR) ∧ after.undelivered = s.undelivered) := by
  rcases Option.map_eq_some_iff.mp taken with ⟨⟨middle, what⟩, found, equal⟩
  rcases GrpcClientStream.next_takesOff found with ⟨unheld, off, takesOff, message⟩
  have line : what.message?.toList ++ middle.undelivered = s.undelivered := by
    apply takesOff.undelivered
    rw [unheld, message]
    exact List.append_nil _
  cases what with
  | message bytes =>
      dsimp only at equal
      split at equal
      · rename_i failed
        cases equal
        refine .inr (.inl ⟨bytes, rfl, failed, rfl, ?_⟩)
        rw [← line, GrpcClientStream.undelivered, GrpcClientStream.undelivered, unheld]
        rfl
      · rename_i copied
        cases equal
        have ok := not_not.mp copied
        exact .inl ⟨bytes, rfl, copy_into_written_of_ok ok, line.symm, ok⟩
  | finished =>
      cases equal
      exact .inr (.inr ⟨.inl rfl, line⟩)
  | failed error =>
      cases equal
      exact .inr (.inr ⟨.inr rfl, line⟩)

/-- A short buffer is told the size of the message that comes next, and that
message still comes next. -/
theorem read_into_short
    (taken : zpr_grpc_client_stream_read_into s buffer = some (after, reply))
    (short : reply.rc = ZPR_ERR_SHORT_BUFFER) :
    ∃ m rest, s.undelivered = m :: rest ∧ after.undelivered = m :: rest ∧
      reply.out_len = buffer.out_len.store m.length := by
  rcases read_into_cases taken with ⟨m, one, _⟩ | ⟨m, rfl, _, held, line⟩ | ⟨zero | error, _⟩
  · rw [short] at one
    cases one
  · have first : after.undelivered = m :: after.mode.waiting := by
      rw [GrpcClientStream.undelivered, held]
      rfl
    exact ⟨m, after.mode.waiting, line.symm.trans first, first, copy_into_out_len m buffer⟩
  · rw [short] at zero
    cases zero
  · rw [short] at error
    cases error

/-- Without a buffer no message but an empty one is delivered. -/
theorem read_into_null
    (taken : zpr_grpc_client_stream_read_into s buffer = some (after, reply))
    (isNull : buffer.out = .null) (first : s.undelivered = m :: rest) (nonempty : m ≠ []) :
    reply.rc ≠ 1 ∧ after.undelivered = s.undelivered := by
  rcases read_into_cases taken with ⟨m', _, _, line, ok⟩ | ⟨m', rfl, failed, _, line⟩ | ⟨quiet, line⟩
  · rw [first] at line
    cases line
    exact absurd (eq_nil_of_copy_into_null ok isNull) nonempty
  · exact ⟨copy_into_failed failed (by decide), line⟩
  · refine ⟨fun one => ?_, line⟩
    rcases quiet with zero | error
    · rw [zero] at one
      cases one
    · rw [error] at one
      cases one

/-- The messages that the host will be given. -/
def ClientCall.undelivered (call : ClientCall) : List Bytes :=
  call.stream.elim [] GrpcClientStream.undelivered

/-- The host reads, and does not succeed in buffering the stream. -/
def ReadsUnbuffered (call : ClientCall) (action : Action) : Prop :=
  Reads call action ∧ ∀ capacity, action = .buffer .valid capacity → capacity = 0

/-- What has come off the wire has been delivered, or is held. -/
def Pulled (trace : List (Action × Reply)) (call : ClientCall) : Prop :=
  ∃ inner pending consumed, call = ⟨some ⟨.Pull inner, pending⟩, .unspawned⟩ ∧
    arrived trace = consumed ++ inner.answers ∧
    delivered trace ++ pending.toList = messagesOf consumed

theorem Pulled.step (pulled : Pulled trace call) (reads : ReadsUnbuffered call action)
    (taken : clientStep call action = some (next, reply)) :
    Pulled (trace ++ [(action, reply)]) next := by
  rcases pulled with ⟨inner, pending, consumed, rfl, arrivals, deliveries⟩
  generalize same : (action, reply) = event
  cases same ▸ clientStep_pull reads.1 taken with
  | arrives incoming =>
      refine ⟨inner.arrive incoming, pending, consumed, rfl, ?_, ?_⟩
      · rw [arrived_next, arrivals, List.append_assoc]
        rfl
      · simpa [deliveredOf] using deliveries
  | buffers capacity positive =>
      cases same
      exact absurd (reads.2 capacity rfl) positive
  | reads event after off read =>
      rcases read with ⟨takesOff, given, arrival, _, _⟩
      rcases after with ⟨mode, after⟩
      have deliveriesNext : delivered (trace ++ [event]) ++ after.toList =
          messagesOf consumed ++ off := by
        rw [delivered_next, List.append_assoc, given, ← List.append_assoc, deliveries]
      cases takesOff with
      | nothing =>
          refine ⟨inner, after, consumed, rfl, ?_, ?_⟩
          · rw [arrived_next, arrival, arrivals, List.append_nil]
          · rw [deliveriesNext, List.append_nil]
      | answer _ rest incoming answered =>
          rcases Streaming.message_takes answered with ⟨off, split, same⟩
          refine ⟨rest, after, consumed ++ off, rfl, ?_, ?_⟩
          · rw [arrived_next, arrival, arrivals, List.append_nil, split, List.append_assoc]
          · rw [deliveriesNext, messagesOf_append, same]

theorem pulled_of_run (run : RunWhere ReadsUnbuffered clientStep .opened trace call) :
    Pulled trace call :=
  run.invariant Pulled ⟨.opened, none, [], rfl, rfl, rfl⟩ fun _ pulled reads taken =>
    pulled.step reads taken

/-- A message that is held when the stream is buffered is the next one that the
host gets, whatever the pump does meanwhile. -/
def StillFirst (held : Bytes) (trace : List (Action × Reply)) (call : ClientCall) : Prop :=
  ∃ g pending pump, call = ⟨some ⟨.Ring g, pending⟩, pump⟩ ∧
    (delivered trace ++ pending.toList).head? = some held

theorem StillFirst.step {held : Bytes} (first : StillFirst held trace call)
    (reads : Reads call action) (taken : clientStep call action = some (next, reply)) :
    StillFirst held (trace ++ [(action, reply)]) next := by
  rcases first with ⟨g, pending, pump, rfl, first⟩
  cases clientStep_ring reads taken with
  | arrives incoming pump => exact ⟨g, pending, pump, rfl, by simpa [deliveredOf] using first⟩
  | pushes msg inner => exact ⟨_, pending, _, rfl, by simpa [deliveredOf] using first⟩
  | ends err => exact ⟨_, pending, _, rfl, by simpa [deliveredOf] using first⟩
  | turns pump => exact ⟨g, pending, pump, rfl, by simpa [deliveredOf] using first⟩
  | reads event after off read =>
      rcases read with ⟨takesOff, given, _⟩
      rcases after with ⟨mode, after⟩
      have line : (delivered (trace ++ [(action, reply)]) ++ after.toList).head? = some held := by
        rw [delivered_next, List.append_assoc, given, ← List.append_assoc, List.head?_append, first]
        rfl
      cases takesOff with
      | nothing => exact ⟨g, after, pump, rfl, line⟩
      | oldest g m q => exact ⟨_, after, pump, rfl, line⟩

theorem stillFirst_of_run {held : Bytes} {s : GrpcClientStream} {call : ClientCall}
    (handle : call.stream = some s) (pending : s.pending = some held)
    (buffered : clientStep call (.buffer .valid capacity) = some (next, .returned ZPR_OK none))
    (run : RunWhere Reads clientStep next trace final) : StillFirst held trace final := by
  apply run.invariant (StillFirst held)
  · simp only [clientStep, ClientCall.onHandle, handle, Option.bind_some,
      ClientCall.zpr_grpc_client_stream_buffer] at buffered
    split at buffered
    · cases buffered
    · split at buffered <;> cases buffered
      exact ⟨_, s.pending, _, rfl, by rw [pending]; rfl⟩
  · exact fun _ first reads taken => first.step reads taken

/-- While a stream is read off the wire, the messages delivered and the one held
are those that have come off it, in order. A short buffer learns the size of the
message that comes next, a missing one uses up nothing, and the message held when
the stream is buffered comes next all the same. -/
theorem pull_mode_lossless (run : RunWhere ReadsUnbuffered clientStep .opened trace call) :
    ∃ inner pending consumed, call = ⟨some ⟨.Pull inner, pending⟩, .unspawned⟩ ∧
      arrived trace = consumed ++ inner.answers ∧
      delivered trace ++ pending.toList = messagesOf consumed ∧
      (∀ buffer next reply,
        clientStep call (.read_into .valid buffer) = some (next, .filled reply) →
        (reply.rc = ZPR_ERR_SHORT_BUFFER → ∃ m rest, call.undelivered = m :: rest ∧
          next.undelivered = m :: rest ∧ reply.out_len = buffer.out_len.store m.length) ∧
        (buffer.out = .null → ∀ m rest, call.undelivered = m :: rest → m ≠ [] →
          reply.rc ≠ 1 ∧ next.undelivered = call.undelivered)) ∧
      (∀ capacity next held,
        clientStep call (.buffer .valid capacity) = some (next, .returned ZPR_OK none) →
        pending = some held → ∀ later final, RunWhere Reads clientStep next later final →
        ∃ s, final.stream = some s ∧
          (delivered later ++ s.pending.toList).head? = some held) := by
  rcases pulled_of_run run with ⟨inner, pending, consumed, rfl, arrivals, deliveries⟩
  refine ⟨inner, pending, consumed, rfl, arrivals, deliveries, ?_, ?_⟩
  · intro buffer next reply taken
    rcases Option.map_eq_some_iff.mp taken with ⟨⟨after, answer⟩, read, equal⟩
    cases equal
    exact ⟨read_into_short read, fun isNull m rest first => read_into_null read isNull first⟩
  · intro capacity next held buffered isHeld later final runLater
    rcases stillFirst_of_run rfl isHeld buffered runLater with ⟨g, pending, pump, rfl, first⟩
    exact ⟨_, rfl, first⟩

theorem pull_mode_lossless_after_short_buffer : ∃ trace call inner consumed,
    RunWhere ReadsUnbuffered clientStep .opened trace call ∧
      call = ⟨some ⟨.Pull inner, some [1, 2]⟩, .unspawned⟩ ∧
      arrived trace = consumed ++ inner.answers ∧
      delivered trace ++ [[1, 2]] = messagesOf consumed := by
  have replayed : ∃ trace call, replay clientStep .opened
        [.arrive (.message [7]), .arrive (.message [1, 2]), .arrive .finished,
          .read .valid .valid,
          .read_into .valid { out := .valid, out_cap := 1, out_len := .valid }] =
          some (trace, call) ∧
      call.stream.bind GrpcClientStream.pending = some [1, 2] := ⟨_, _, rfl, rfl⟩
  rcases replayed with ⟨trace, call, replayed, held⟩
  have run : RunWhere ReadsUnbuffered clientStep .opened trace call := by
    apply runWhere_of_replay replayed
    simp [ReadsUnbuffered, Reads]
  rcases pull_mode_lossless run with ⟨inner, pending, consumed, rfl, arrivals, deliveries, _⟩
  cases held
  exact ⟨trace, _, inner, consumed, run, rfl, arrivals, deliveries⟩

end Zpr.Grpc
