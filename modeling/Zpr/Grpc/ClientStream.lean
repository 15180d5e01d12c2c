import Zpr.Ffi
import Zpr.Foundation.Execution

namespace Zpr.Grpc

open Ffi

/-! # The client's side of a streaming call

The host reads a call that it opened in one of two modes: straight off the wire,
or out of a bounded ring that a pump task fills. The host calls from one thread
at a time, so that only the pump runs beside it, and what the two share is behind
the lock of the ring. -/

/-- One answer of `Streaming::message`, which is what a read finds. -/
inductive Incoming
  | message (bytes : Bytes)
  | finished
  | failed (status_message : String)
  deriving DecidableEq, Repr

/-- The end that an answer stands for: with the message of a failure. -/
def Incoming.end? : Incoming → Option (Option String)
  | .message _ => none
  | .finished => some none
  | .failed status_message => some (some status_message)

/-- The answers that have come in and that nobody has asked for yet, and the end of the
stream, once it has been the answer. -/
structure Streaming where
  answers : List Incoming
  ended : Option (Option String)
  deriving DecidableEq, Repr

namespace Streaming

def opened : Streaming where
  answers := []
  ended := none

def arrive (inner : Streaming) (incoming : Incoming) : Streaming :=
  { inner with answers := inner.answers ++ [incoming] }

/-- `Streaming::message`, or `none` while it blocks. Behind its end a stream answers for
ever that it has finished. -/
def message (inner : Streaming) : Option (Streaming × Incoming) :=
  match inner.answers with
  | incoming :: answers =>
      some ({ answers := answers, ended := inner.ended.or incoming.end? }, incoming)
  | [] => inner.ended.map fun _ => (inner, .finished)

end Streaming

structure RingInner where
  q : List Bytes
  cap : Nat
  dropped : Nat
  done : Bool
  err : Option String
  deriving DecidableEq, Repr

inductive ClientStreamMode
  | Pull (inner : Streaming)
  | Ring (inner : RingInner)
  deriving DecidableEq, Repr

structure GrpcClientStream where
  mode : ClientStreamMode
  pending : Option Bytes
  deriving DecidableEq, Repr

/-- What `zpr_grpc_client_stream_read` leaves behind: `out` is the content of the
buffer that now belongs to the host. -/
structure ReadReply where
  rc : Int
  out : Option Bytes
  last_error : Option String
  deriving DecidableEq, Repr

/-! ## Reading -/

/-- The beginning of both ways to read: take the held message, or else the next
one off the wire or out of the ring. `none` while the call blocks. -/
def GrpcClientStream.next (s : GrpcClientStream) : Option (GrpcClientStream × Incoming) :=
  match s.pending with
  | some bytes => some ({ s with pending := none }, .message bytes)
  | none =>
      match s.mode with
      | .Pull inner => inner.message.map fun (inner, incoming) =>
          ({ s with mode := .Pull inner }, incoming)
      | .Ring g =>
          match g.q with
          | m :: q => some ({ s with mode := .Ring { g with q := q } }, .message m)
          | [] =>
              match g.err with
              | some e => some (s, .failed e)
              -- the same answer whether the server has finished or the ring is empty
              | none => some (s, .finished)

def zpr_grpc_client_stream_read (s : GrpcClientStream) (out : Pointer) :
    Option (GrpcClientStream × ReadReply) :=
  s.next.map fun (s, next) =>
    match next with
    | .message bytes => (s, { rc := 1, out := out.store bytes, last_error := none })
    | .finished => (s, { rc := 0, out := out.store [], last_error := none })
    | .failed e => (s, { rc := ZPR_ERR, out := out.store [], last_error := some e })

def zpr_grpc_client_stream_read_into (s : GrpcClientStream) (buffer : Buffer) :
    Option (GrpcClientStream × BufferReply) :=
  s.next.map fun (s, next) =>
    match next with
    | .message bytes =>
        let copied := copy_into bytes buffer
        if copied.rc ≠ ZPR_OK then
          ({ s with pending := some bytes }, copied)
        else
          (s, { copied with rc := 1 })
    | .finished =>
        (s, { rc := 0, out_len := buffer.out_len.store 0, written := [], last_error := none })
    | .failed e =>
        (s, { rc := ZPR_ERR, out_len := buffer.out_len.store 0, written := [],
              last_error := some e })

/-! ## The ring -/

/-- The pump puts a message into the ring; where there is no room, the oldest one
has to go, and is returned. -/
def RingInner.push (g : RingInner) (msg : Bytes) : RingInner × Option Bytes :=
  if g.cap ≤ g.q.length then
    ({ g with q := g.q.tail ++ [msg], dropped := g.dropped + 1 }, g.q.head?)
  else
    ({ g with q := g.q ++ [msg] }, none)

def RingInner.new (capacity : Nat) : RingInner where
  q := []
  cap := capacity
  dropped := 0
  done := false
  err := none

/-- Where the pump task stands. It owns the wire. -/
inductive Pump
  | unspawned
  /-- waits for the next message -/
  | receiving (inner : Streaming)
  /-- has dealt with a message, and looks whether the handle still exists -/
  | checking (inner : Streaming)
  | returned
  deriving DecidableEq, Repr

/-- One call: the host's handle, until it is cancelled, and the pump task. -/
structure ClientCall where
  stream : Option GrpcClientStream
  pump : Pump
  deriving DecidableEq, Repr

/-- What `zpr_grpc_client_stream_open` hands out. -/
def ClientCall.opened : ClientCall where
  stream := some { mode := .Pull .opened, pending := none }
  pump := .unspawned

inductive Action
  /-- tonic has the next answer of `message` -/
  | arrive (incoming : Incoming)
  | read (stream : Pointer) (out : Pointer)
  | read_into (stream : Pointer) (buffer : Buffer)
  | buffer (stream : Pointer) (capacity : Nat)
  | stats (stream : Pointer) (out_depth out_dropped : Pointer)
  | cancel (stream : Pointer)
  | pump
  deriving DecidableEq, Repr

inductive Reply
  | silent
  | read (reply : ReadReply)
  | filled (reply : BufferReply)
  | returned (rc : Int) (last_error : Option String)
  | stats (rc : Int) (depth dropped : Option Nat) (last_error : Option String)
  /-- the message that the pump put into the ring, and the one that had to go -/
  | pushed (msg : Bytes) (discarded : Option Bytes)
  deriving DecidableEq, Repr

def zpr_grpc_client_stream_stats (s : GrpcClientStream) (out_depth out_dropped : Pointer) :
    Reply :=
  match s.mode with
  | .Ring g =>
      .stats ZPR_OK (out_depth.store g.q.length) (out_dropped.store g.dropped) none
  | .Pull _ => .stats ZPR_OK (out_depth.store 0) (out_dropped.store 0) none

namespace ClientCall

def arrive (call : ClientCall) (incoming : Incoming) : Option ClientCall :=
  match call.pump with
  | .receiving inner => some { call with pump := .receiving (inner.arrive incoming) }
  | .checking inner => some { call with pump := .checking (inner.arrive incoming) }
  | .unspawned | .returned =>
      match call.stream with
      | some ⟨.Pull inner, pending⟩ =>
          some { call with stream := some ⟨.Pull (inner.arrive incoming), pending⟩ }
      | _ => none

def zpr_grpc_client_stream_buffer (call : ClientCall) (s : GrpcClientStream) (capacity : Nat) :
    ClientCall × Reply :=
  if capacity = 0 then
    (call, .returned ZPR_ERR
      (some "a ring capacity of 0 would discard every message as it arrived"))
  else
    match s.mode with
    | .Ring _ => (call, .returned ZPR_ERR (some "this stream is already buffered"))
    | .Pull inner =>
        ({ call with
            stream := some { s with mode := .Ring (.new capacity) }
            pump := .receiving inner }, .returned ZPR_OK none)

/-- Change the ring that the handle shares with the pump. Once the handle is gone
nobody sees the ring. -/
def withRing (call : ClientCall) (change : RingInner → RingInner) : ClientCall :=
  match call.stream with
  | some ⟨.Ring g, pending⟩ => { call with stream := some ⟨.Ring (change g), pending⟩ }
  | _ => call

/-- What the pump task does with what it finds on the wire. -/
def receive (call : ClientCall) (inner : Streaming) : Incoming → ClientCall × Reply
  | .message msg =>
      let discarded := match call.stream with
        | some ⟨.Ring g, _⟩ => (g.push msg).2
        | _ => none
      ({ call.withRing (fun g => (g.push msg).1) with pump := .checking inner },
        .pushed msg discarded)
  | .finished =>
      ({ call.withRing (fun g => { g with done := true }) with pump := .returned }, .silent)
  | .failed message =>
      ({ call.withRing (fun g => { g with err := some message, done := true }) with
        pump := .returned }, .silent)

/-- One turn of the pump task: a message or the end of the stream, or its look at
the reference count of the ring. -/
def runPump (call : ClientCall) : Option (ClientCall × Reply) :=
  match call.pump with
  | .unspawned | .returned => none
  | .receiving inner => inner.message.map fun (inner, incoming) => call.receive inner incoming
  | .checking inner =>
      match call.stream with
      | some _ => some ({ call with pump := .receiving inner }, .silent)
      | none => some ({ call with pump := .returned }, .silent)

/-- An entry point that works on the handle, or complains about a null one. A
handle that has been freed is not used any more. -/
def onHandle (call : ClientCall) (stream : Pointer) (complaint : Reply)
    (body : GrpcClientStream → Option (ClientCall × Reply)) : Option (ClientCall × Reply) :=
  match stream with
  | .null => some (call, complaint)
  | .valid => call.stream.bind body

end ClientCall

/-- The error of an entry point that is given a null handle. -/
def nullHandle (entry : String) : String := s!"null stream handle passed to {entry}"

def clientStep : PartialStep ClientCall Action Reply
  | call, .arrive incoming => (call.arrive incoming).map fun call => (call, .silent)
  | call, .read stream out =>
      call.onHandle stream
        (.read { rc := ZPR_ERR, out := out.store []
                 last_error := some (nullHandle "zpr_grpc_client_stream_read") }) fun s =>
          (zpr_grpc_client_stream_read s out).map fun (s, reply) =>
            ({ call with stream := some s }, .read reply)
  | call, .read_into stream buffer =>
      call.onHandle stream
        (.filled { rc := ZPR_ERR, out_len := buffer.out_len.store 0, written := []
                   last_error := some (nullHandle "zpr_grpc_client_stream_read_into") }) fun s =>
          (zpr_grpc_client_stream_read_into s buffer).map fun (s, reply) =>
            ({ call with stream := some s }, .filled reply)
  | call, .buffer stream capacity =>
      call.onHandle stream
        (.returned ZPR_ERR (some (nullHandle "zpr_grpc_client_stream_buffer"))) fun s =>
          some (call.zpr_grpc_client_stream_buffer s capacity)
  | call, .stats stream out_depth out_dropped =>
      call.onHandle stream
        (.stats ZPR_ERR none none (some (nullHandle "zpr_grpc_client_stream_stats"))) fun s =>
          some (call, zpr_grpc_client_stream_stats s out_depth out_dropped)
  | call, .cancel stream =>
      call.onHandle stream .silent fun _ => some ({ call with stream := none }, .silent)
  | call, .pump => call.runPump

/-! ## What a read takes and gives -/

def Incoming.message? : Incoming → Option Bytes
  | .message bytes => some bytes
  | .finished | .failed _ => none

/-- The messages among some answers. -/
def messagesOf (answers : List Incoming) : List Bytes := answers.filterMap Incoming.message?

@[simp] theorem messagesOf_append (earlier later : List Incoming) :
    messagesOf (earlier ++ later) = messagesOf earlier ++ messagesOf later :=
  List.filterMap_append

/-- An answer has come in, or is the end once more. -/
theorem Streaming.message_cases {inner : Streaming}
    (answered : inner.message = some (after, incoming)) :
    (inner.answers = incoming :: after.answers ∧
        after.ended = inner.ended.or incoming.end?) ∨
      (inner.answers = [] ∧ inner.ended.isSome = true ∧ after = inner ∧
        incoming = .finished) := by
  rcases inner with ⟨_ | ⟨first, answers⟩, ended⟩
  · cases ended with
    | none => cases answered
    | some ending =>
        cases answered
        exact .inr ⟨rfl, rfl, rfl, rfl⟩
  · cases answered
    exact .inl ⟨rfl, rfl⟩

/-- The messages that an answer takes off the wire. -/
theorem Streaming.message_takes {inner : Streaming}
    (answered : inner.message = some (after, incoming)) :
    ∃ off, inner.answers = off ++ after.answers ∧ messagesOf [incoming] = messagesOf off := by
  rcases message_cases answered with ⟨split, _⟩ | ⟨empty, _, rfl, rfl⟩
  · exact ⟨[incoming], split, rfl⟩
  · exact ⟨[], rfl, rfl⟩

/-- The messages that have come in and that no read has looked at. -/
def ClientStreamMode.waiting : ClientStreamMode → List Bytes
  | .Pull inner => messagesOf inner.answers
  | .Ring g => g.q

/-- The messages that the host will be given, the held one first. -/
def GrpcClientStream.undelivered (s : GrpcClientStream) : List Bytes :=
  s.pending.toList ++ s.mode.waiting

/-- What one read takes off the wire or out of the ring. -/
inductive TakesOff : ClientStreamMode → ClientStreamMode → List Bytes → Prop
  | nothing (mode : ClientStreamMode) : TakesOff mode mode []
  | answer (inner after : Streaming) (incoming : Incoming)
      (answered : inner.message = some (after, incoming)) :
      TakesOff (.Pull inner) (.Pull after) (messagesOf [incoming])
  | oldest (g : RingInner) (m : Bytes) (q : List Bytes) (held : g.q = m :: q) :
      TakesOff (.Ring g) (.Ring { g with q := q }) [m]

theorem TakesOff.waiting (taken : TakesOff before after off) :
    before.waiting = off ++ after.waiting := by
  cases taken with
  | nothing => rfl
  | answer inner after incoming answered =>
      rcases Streaming.message_takes answered with ⟨off, split, same⟩
      rw [ClientStreamMode.waiting, ClientStreamMode.waiting, split, messagesOf_append, same]
  | oldest g m q held => exact held

/-- A read begins by taking what is held, or else something off the wire or out
of the ring. -/
theorem GrpcClientStream.next_takesOff {s : GrpcClientStream}
    (found : s.next = some (after, what)) :
    after.pending = none ∧ ∃ off, TakesOff s.mode after.mode off ∧
      what.message?.toList = s.pending.toList ++ off := by
  rcases s with ⟨mode, pending⟩
  cases pending with
  | some bytes =>
      cases found
      exact ⟨rfl, [], .nothing mode, rfl⟩
  | none =>
      cases mode with
      | Pull inner =>
          rcases Option.map_eq_some_iff.mp found with ⟨⟨rest, incoming⟩, answered, equal⟩
          cases equal
          refine ⟨rfl, _, .answer inner rest what answered, ?_⟩
          cases what <;> rfl
      | Ring g =>
          cases held : g.q with
          | cons m q =>
              simp only [next, held] at found
              cases found
              exact ⟨rfl, [m], .oldest g m q held, rfl⟩
          | nil =>
              cases failure : g.err <;> simp only [next, held, failure] at found <;>
                cases found <;> exact ⟨rfl, [], .nothing _, rfl⟩

/-- The message, if any, that a return of 1 hands to the host. -/
def ReadReply.delivered (reply : ReadReply) : List Bytes :=
  if reply.rc = 1 then reply.out.toList else []

/-- The message, if any, that a return of 1 leaves in the host's buffer. -/
def deliveredInto (reply : BufferReply) : List Bytes :=
  if reply.rc = 1 then [reply.written] else []

theorem read_takesOff (taken : zpr_grpc_client_stream_read s .valid = some (after, reply)) :
    ∃ off, TakesOff s.mode after.mode off ∧
      reply.delivered ++ after.pending.toList = s.pending.toList ++ off := by
  rcases Option.map_eq_some_iff.mp taken with ⟨⟨middle, what⟩, found, equal⟩
  rcases GrpcClientStream.next_takesOff found with ⟨unheld, off, takesOff, message⟩
  refine ⟨off, ?_⟩
  cases what <;> cases equal <;> refine ⟨takesOff, ?_⟩ <;> rw [← message, unheld] <;> rfl

theorem read_into_takesOff
    (taken : zpr_grpc_client_stream_read_into s buffer = some (after, reply)) :
    ∃ off, TakesOff s.mode after.mode off ∧
      deliveredInto reply ++ after.pending.toList = s.pending.toList ++ off := by
  rcases Option.map_eq_some_iff.mp taken with ⟨⟨middle, what⟩, found, equal⟩
  rcases GrpcClientStream.next_takesOff found with ⟨unheld, off, takesOff, message⟩
  refine ⟨off, ?_⟩
  cases what with
  | message bytes =>
      dsimp only at equal
      split at equal
      · rename_i failed
        cases equal
        refine ⟨takesOff, ?_⟩
        rw [← message]
        have notOne : (copy_into bytes buffer).rc ≠ 1 := copy_into_failed failed (by decide)
        simp [deliveredInto, notOne, Incoming.message?]
      · rename_i copied
        cases equal
        refine ⟨takesOff, ?_⟩
        rw [← message, unheld]
        simp [deliveredInto, copy_into_written_of_ok (not_not.mp copied), Incoming.message?]
  | finished | failed =>
      cases equal
      refine ⟨takesOff, ?_⟩
      rw [← message, unheld]
      rfl

end Zpr.Grpc
