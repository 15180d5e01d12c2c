import Zpr.Grpc.BidiCall
import Zpr.Grpc.StreamEnd

namespace Zpr.Pascal

open Ffi Grpc

/-! # What a polling host is told

The two stream classes map the return code of `read_into` to a result. There is a
result for the end of a stream, and no return code that is mapped to it. -/

inductive TZprReadResult
  /-- nothing waiting -/
  | zrNone
  | zrMessage
  /-- the far end finished sending -/
  | zrClientDone
  | zrShortBuffer
  | zrError
  deriving DecidableEq, Repr

/-- The `case Rc of` of both `ReadInto`. -/
def readResult (Rc : Int) : TZprReadResult :=
  if Rc = 1 then .zrMessage
  else if Rc = 0 then .zrNone
  else if Rc = -2 then .zrShortBuffer
  else .zrError

/-- The arguments that `ReadInto` passes on: an `out` parameter is never null. -/
def intoBuffer (ABuffer : Pointer) (ACapacity : Nat) : Buffer where
  out := ABuffer
  out_cap := ACapacity
  out_len := .valid

/-- `none` while the call blocks. -/
def TZprGrpcClientStream.ReadInto (FHandle : GrpcClientStream) (ABuffer : Pointer)
    (ACapacity : Nat) : Option (GrpcClientStream × TZprReadResult × BufferReply) :=
  (zpr_grpc_client_stream_read_into FHandle (intoBuffer ABuffer ACapacity)).map
    fun (FHandle, reply) => (FHandle, readResult reply.rc, reply)

def TZprGrpcBidiStream.ReadInto (FHandle : Bidi.GrpcBidiStream) (ABuffer : Pointer)
    (ACapacity : Nat) : Option (Option Bidi.GrpcBidiStream × TZprReadResult × BufferReply) :=
  (Bidi.zpr_grpc_bidi_read_into (some FHandle) (intoBuffer ABuffer ACapacity)).map
    fun (FHandle, reply) => (FHandle, readResult reply.rc, reply)

/-- The end of the stream is reported exactly when it is reached, and that nothing is
waiting only while something can still come. -/
structure Truthful (s : GrpcClientStream) (result : TZprReadResult) : Prop where
  clientDone : result = .zrClientDone ↔ s.Done
  none : result = .zrNone → s.mode.ended = false

theorem readResult_ne_clientDone (Rc : Int) : readResult Rc ≠ .zrClientDone := by
  unfold readResult
  split_ifs <;> simp

theorem readResult_eq_none {Rc : Int} : readResult Rc = .zrNone ↔ Rc = 0 := by
  unfold readResult
  split_ifs with one zero <;> simp [*]

/-- A read into the host's memory is reported truthfully exactly before the end. -/
theorem truthful_iff {s : GrpcClientStream}
    (taken : zpr_grpc_client_stream_read_into s buffer = some (after, reply)) :
    Truthful s (readResult reply.rc) ↔ ¬ s.Over := by
  constructor
  · intro truthful reached
    have nothing := readResult_eq_none.mpr
      ((next_of_read_into_zero taken).mpr (GrpcClientStream.next_of_over reached))
    have running := truthful.none nothing
    rw [ClientStreamMode.ended_of_isOver reached.1] at running
    cases running
  · intro notOver
    constructor
    · constructor
      · intro told
        exact absurd told (readResult_ne_clientDone _)
      · intro isDone
        exact absurd isDone.isOver notOver
    · intro nothing
      rcases (next_of_read_into_zero taken).mp (readResult_eq_none.mp nothing) with
        ⟨middle, found⟩
      exact (GrpcClientStream.finished_of_next found).resolve_left notOver

/-! ## Over whole runs -/

/-- What `ReadInto` of a server-streaming call reports, where it is called. -/
def TellsTruth (call : ClientCall) : Grpc.Action → Prop
  | .read_into .valid ⟨ABuffer, ACapacity, .valid⟩ =>
      ∀ s after result reply, call.stream = some s →
        TZprGrpcClientStream.ReadInto s ABuffer ACapacity = some (after, result, reply) →
        Truthful s result
  | _ => True

/-- `ReadInto` is not called any more once the stream is over. -/
def StopsAtEnd (call : ClientCall) : Grpc.Action → Prop
  | .read_into .valid ⟨_, _, .valid⟩ => ∀ s, call.stream = some s → ¬ s.Over
  | _ => True

def TellsTruthBidi (call : Bidi.BidiCall) : Bidi.CallAction → Prop
  | .read_into .valid ⟨ABuffer, ACapacity, .valid⟩ =>
      ∀ s after result reply, call.stream = some s →
        TZprGrpcBidiStream.ReadInto s ABuffer ACapacity = some (after, result, reply) →
        Truthful s.reader result
  | _ => True

def StopsAtEndBidi (call : Bidi.BidiCall) : Bidi.CallAction → Prop
  | .read_into .valid ⟨_, _, .valid⟩ => ∀ s, call.stream = some s → ¬ s.reader.Over
  | _ => True

theorem tellsTruth_iff (taken : clientStep call action = some (next, reply)) :
    TellsTruth call action ↔ StopsAtEnd call action := by
  unfold TellsTruth StopsAtEnd
  split
  · rename_i ABuffer ACapacity
    rcases Option.bind_eq_some_iff.mp taken with ⟨s, held, rest⟩
    rcases Option.map_eq_some_iff.mp rest with ⟨⟨after, answer⟩, read, _⟩
    have reported : TZprGrpcClientStream.ReadInto s ABuffer ACapacity =
        some (after, readResult answer.rc, answer) := by
      apply Option.map_eq_some_iff.mpr
      exact ⟨_, read, rfl⟩
    constructor
    · intro tells other otherHeld
      cases held.symm.trans otherHeld
      exact (truthful_iff read).mp (tells s after _ answer held reported)
    · intro stops other after result reply otherHeld told
      cases held.symm.trans otherHeld
      cases reported.symm.trans told
      exact (truthful_iff read).mpr (stops s held)
  · simp only

theorem tellsTruthBidi_iff (taken : Bidi.bidiCallStep call action = some (next, reply)) :
    TellsTruthBidi call action ↔ StopsAtEndBidi call action := by
  unfold TellsTruthBidi StopsAtEndBidi
  split
  · rename_i ABuffer ACapacity
    rcases Bidi.BidiCall.read_into_valid taken with ⟨s, reader, answer, held, read, _, _⟩
    have reported : TZprGrpcBidiStream.ReadInto s ABuffer ACapacity =
        some (some { s with reader := reader }, readResult answer.rc, answer) := by
      apply Option.map_eq_some_iff.mpr
      exact ⟨_, Option.map_eq_some_iff.mpr ⟨_, read, rfl⟩, rfl⟩
    constructor
    · intro tells other otherHeld
      cases held.symm.trans otherHeld
      exact (truthful_iff read).mp (tells s _ _ answer held reported)
    · intro stops other after result reply otherHeld told
      cases held.symm.trans otherHeld
      cases reported.symm.trans told
      exact (truthful_iff read).mpr (stops s held)
  · simp only

/-- A ring that has nothing for the host: no message, no held one and no error. -/
structure Idle (s : GrpcClientStream) (g : RingInner) : Prop where
  ring : s = ⟨.Ring g, none⟩
  empty : g.q = []
  fine : g.err = none

theorem readInto_of_idle (idle : Idle s g) (ABuffer : Pointer) (ACapacity : Nat) :
    TZprGrpcClientStream.ReadInto s ABuffer ACapacity =
      some (s, .zrNone, { rc := 0, out_len := some 0, written := [], last_error := none }) := by
  rcases idle with ⟨rfl, empty, fine⟩
  simp [TZprGrpcClientStream.ReadInto, zpr_grpc_client_stream_read_into, GrpcClientStream.next,
    empty, fine, readResult, intoBuffer, Pointer.store]

/-- In both kinds of call the host is told the truth in exactly those runs in which it
stops reading at the end by itself; and what it is told of an idle ring never depends
on whether the server has finished. -/
theorem read_into_tells_truth_iff (trace : List (Grpc.Action × Reply)) (final : ClientCall)
    (rx : Channel Bytes) (bidiTrace : List (Bidi.CallAction × Reply)) (bidiFinal : Bidi.BidiCall) :
    (RunWhere TellsTruth clientStep .opened trace final ↔
      RunWhere StopsAtEnd clientStep .opened trace final) ∧
    (RunWhere TellsTruthBidi Bidi.bidiCallStep (.opened rx) bidiTrace bidiFinal ↔
      RunWhere StopsAtEndBidi Bidi.bidiCallStep (.opened rx) bidiTrace bidiFinal) ∧
    ∀ s g ABuffer ACapacity, Idle s g →
      (TZprGrpcClientStream.ReadInto s ABuffer ACapacity).map (fun answer => answer.2.1) =
        some .zrNone := by
  refine ⟨RunWhere.congr tellsTruth_iff, RunWhere.congr tellsTruthBidi_iff,
    fun s g ABuffer ACapacity idle => ?_⟩
  rw [readInto_of_idle idle, Option.map_some]

/-- Two buffered streams, one of which the server has finished: the host is told the
same. -/
theorem finished_stream_reads_as_empty : ∃ openTrace stillOpen closedTrace closed,
    Run clientStep .opened openTrace stillOpen ∧ Run clientStep .opened closedTrace closed ∧
      (∃ s, stillOpen.stream = some s ∧ s.mode.ended = false ∧
        (TZprGrpcClientStream.ReadInto s .valid 64).map (fun answer => answer.2.1) =
          some .zrNone) ∧
      ∃ s, closed.stream = some s ∧ s.Done ∧
        (TZprGrpcClientStream.ReadInto s .valid 64).map (fun answer => answer.2.1) =
          some .zrNone := by
  have replayed : ∃ openTrace stillOpen closedTrace closed,
      replay clientStep .opened [.buffer .valid 4] = some (openTrace, stillOpen) ∧
      replay clientStep .opened [.buffer .valid 4, .arrive .finished, .pump] =
        some (closedTrace, closed) ∧
      stillOpen.stream = some ⟨.Ring (.new 4), none⟩ ∧
      closed.stream = some ⟨.Ring { RingInner.new 4 with done := true }, none⟩ :=
    ⟨_, _, _, _, rfl, rfl, rfl, rfl⟩
  rcases replayed with ⟨openTrace, stillOpen, closedTrace, closed, replayedOpen, replayedClosed,
    openStream, closedStream⟩
  exact ⟨openTrace, stillOpen, closedTrace, closed, run_of_replay replayedOpen,
    run_of_replay replayedClosed, ⟨_, openStream, rfl, rfl⟩, _, closedStream, ⟨rfl, rfl⟩, rfl⟩

end Zpr.Pascal
