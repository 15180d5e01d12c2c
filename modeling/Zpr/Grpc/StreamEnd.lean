import Zpr.Grpc.ClientStream

namespace Zpr.Grpc

open Ffi

/-! # The end of a stream

A read that finds no message finds the end of the stream, an error, or nothing
yet. What the handle knows of the end is on the wire or in the ring. -/

/-- Only a clean end can come next: it has come in, or the stream has ended before and
goes on to answer so. -/
def Streaming.isOver (inner : Streaming) : Bool :=
  match inner.answers with
  | .finished :: _ => true
  | .message _ :: _ | .failed _ :: _ => false
  | [] => inner.ended.isSome

theorem Streaming.isOver_iff {inner : Streaming} :
    inner.isOver = true ↔ ∃ after, inner.message = some (after, .finished) := by
  rcases inner with ⟨_ | ⟨incoming, answers⟩, ended⟩
  · cases ended <;> simp [isOver, message]
  · cases incoming <;> simp [isOver, message]

namespace ClientStreamMode

/-- A read that finds no message is told of a clean end, and nothing more can come. -/
def isOver : ClientStreamMode → Bool
  | .Pull inner => inner.isOver
  | .Ring g => g.done && g.err.isNone

/-- The server has finished cleanly: that is what comes next off the wire or has come off
it, or what the pump has met. -/
def finished : ClientStreamMode → Bool
  | .Pull inner => inner.isOver && !inner.ended.any Option.isSome
  | .Ring g => g.done && g.err.isNone

/-- The stream is over, cleanly or not. -/
def ended : ClientStreamMode → Bool
  | .Pull ⟨.failed _ :: _, _⟩ => true
  | .Pull inner => inner.isOver
  | .Ring g => g.done

theorem isOver_of_finished {mode : ClientStreamMode} (finished : mode.finished = true) :
    mode.isOver = true := by
  cases mode with
  | Pull inner => exact (Bool.and_eq_true_iff.mp finished).1
  | Ring g => exact finished

theorem ended_of_isOver {mode : ClientStreamMode} (past : mode.isOver = true) :
    mode.ended = true := by
  cases mode with
  | Pull inner =>
      rcases inner with ⟨_ | ⟨first, answers⟩, ending⟩
      · exact past
      · cases first with
        | failed => rfl
        | message | finished => exact past
  | Ring g => exact (Bool.and_eq_true_iff.mp past).1

end ClientStreamMode

namespace GrpcClientStream

/-- There is no message left for the host in front of whatever comes next. -/
def drained (s : GrpcClientStream) : Bool :=
  s.pending.isNone &&
    match s.mode with
    | .Pull ⟨.message _ :: _, _⟩ => false
    | .Pull _ => true
    | .Ring g => g.q.isEmpty

/-- The server has finished cleanly, and every message that was not dropped has been
delivered. -/
def Done (s : GrpcClientStream) : Prop :=
  s.mode.finished = true ∧ s.drained = true

/-- The stream has ended, cleanly or with a failure that has been told, and every message
that was not dropped has been delivered. -/
def Over (s : GrpcClientStream) : Prop :=
  s.mode.isOver = true ∧ s.drained = true

instance (s : GrpcClientStream) : Decidable s.Done :=
  inferInstanceAs (Decidable (_ ∧ _))

instance (s : GrpcClientStream) : Decidable s.Over :=
  inferInstanceAs (Decidable (_ ∧ _))

theorem Done.isOver {s : GrpcClientStream} (isDone : s.Done) : s.Over :=
  ⟨ClientStreamMode.isOver_of_finished isDone.1, isDone.2⟩

/-- A read that finds neither a message nor an error is at the end of the stream, or
looks into an empty ring that the pump still fills. -/
theorem finished_of_next {s : GrpcClientStream} (found : s.next = some (after, .finished)) :
    s.Over ∨ s.mode.ended = false := by
  rcases s with ⟨mode, pending⟩
  cases pending with
  | some bytes => cases found
  | none =>
      cases mode with
      | Pull inner =>
          rcases Option.map_eq_some_iff.mp found with ⟨⟨rest, incoming⟩, answered, equal⟩
          cases equal
          have past := Streaming.isOver_iff.mpr ⟨rest, answered⟩
          refine .inl ⟨past, ?_⟩
          rcases inner with ⟨_ | ⟨first, answers⟩, ended⟩
          · rfl
          · cases first with
            | finished | failed => rfl
            | message => cases past
      | Ring g =>
          cases held : g.q with
          | cons m q =>
              simp only [next, held] at found
              cases found
          | nil =>
              cases failure : g.err with
              | some e =>
                  simp only [next, held, failure] at found
                  cases found
              | none =>
                  cases ended : g.done with
                  | false => exact .inr ended
                  | true =>
                      simp [Over, ClientStreamMode.isOver, drained, held, failure, ended]

/-- Once a stream is over and everything is delivered, a read finds that. -/
theorem next_of_over {s : GrpcClientStream} (reached : s.Over) :
    ∃ after, s.next = some (after, .finished) := by
  rcases s with ⟨mode, pending⟩
  rcases reached with ⟨past, drained⟩
  cases pending with
  | some bytes => cases drained
  | none =>
      cases mode with
      | Pull inner =>
          rcases Streaming.isOver_iff.mp past with ⟨rest, answered⟩
          exact ⟨_, Option.map_eq_some_iff.mpr ⟨_, answered, rfl⟩⟩
      | Ring g =>
          simp only [ClientStreamMode.isOver, Bool.and_eq_true, Option.isNone_iff_eq_none] at past
          simp only [GrpcClientStream.drained, Bool.and_eq_true, List.isEmpty_iff] at drained
          refine ⟨⟨.Ring g, none⟩, ?_⟩
          simp only [next, drained.2, past.2]

end GrpcClientStream

/-- A return code of 0 means that the read found neither a message nor an error. -/
theorem next_of_read_into_zero {s : GrpcClientStream}
    (taken : zpr_grpc_client_stream_read_into s buffer = some (after, reply)) :
    reply.rc = 0 ↔ ∃ middle, s.next = some (middle, .finished) := by
  rcases Option.map_eq_some_iff.mp taken with ⟨⟨middle, what⟩, found, equal⟩
  rw [found]
  cases what with
  | message bytes =>
      constructor
      · intro zero
        dsimp only at equal
        split at equal
        · rename_i failed
          cases equal
          exact absurd zero failed
        · cases equal
          cases zero
      · intro finished
        rcases finished with ⟨other, same⟩
        cases same
  | finished =>
      cases equal
      exact ⟨fun _ => ⟨_, rfl⟩, fun _ => rfl⟩
  | failed error =>
      cases equal
      constructor
      · intro zero
        cases zero
      · intro finished
        rcases finished with ⟨other, same⟩
        cases same

end Zpr.Grpc
