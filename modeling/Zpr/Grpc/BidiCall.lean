import Zpr.Grpc.BidiStream

namespace Zpr.Grpc.Bidi

open Ffi

/-! # An open bidirectional call

The two halves run side by side: what the host sends goes through the channel
behind `ReqStream`, and the response is read as that of any other streaming call. -/

structure BidiCall where
  stream : Option GrpcBidiStream
  rx : Channel Bytes
  pump : Pump
  deriving DecidableEq, Repr

inductive CallAction
  /-- tonic has the next answer of `message` -/
  | arrive (incoming : Incoming)
  /-- tonic polls `ReqStream` -/
  | poll_next
  | send (stream data : Pointer) (bytes : Bytes)
  | close_send (stream : Pointer)
  | read_into (stream : Pointer) (buffer : Buffer)
  | buffer (stream : Pointer) (capacity : Nat)
  | cancel (stream : Pointer)
  | pump
  deriving DecidableEq, Repr

namespace BidiCall

/-- What `zpr_grpc_bidi_open` hands out. -/
def opened (rx : Channel Bytes) : BidiCall where
  stream := some { tx := true, reader := { mode := .Pull .opened, pending := none } }
  rx := rx
  pump := .unspawned

/-- The response half. -/
def response (call : BidiCall) : ClientCall where
  stream := call.stream.map GrpcBidiStream.reader
  pump := call.pump

def withResponse (call : BidiCall) (response : ClientCall) : BidiCall :=
  { call with
    stream := call.stream.bind fun s => response.stream.map fun reader =>
      { s with reader := reader }
    pump := response.pump }

/-- The handle that an entry point is given, or `none` for a null one. A handle that
has been freed is not used any more. -/
def handle (call : BidiCall) : Pointer → Option (Option GrpcBidiStream)
  | .null => some none
  | .valid => call.stream.map some

def send (call : BidiCall) (stream data : Pointer) (bytes : Bytes) : Option (BidiCall × Reply) :=
  (call.handle stream).map fun s =>
    let (rx, rc, last_error) := zpr_grpc_bidi_send s call.rx data bytes
    ({ call with rx := rx }, .returned rc last_error)

def close_send (call : BidiCall) (stream : Pointer) : Option (BidiCall × Reply) :=
  (call.handle stream).map fun s =>
    let (s, rx, rc, last_error) := zpr_grpc_bidi_close_send s call.rx
    ({ call with stream := s.or call.stream, rx := rx }, .returned rc last_error)

def read_into (call : BidiCall) (stream : Pointer) (buffer : Buffer) :
    Option (BidiCall × Reply) :=
  (call.handle stream).bind fun s =>
    (zpr_grpc_bidi_read_into s buffer).map fun (s, reply) =>
      ({ call with stream := s.or call.stream }, .filled reply)

def zpr_grpc_bidi_buffer (call : BidiCall) (stream : Pointer) (capacity : Nat) :
    Option (BidiCall × Reply) :=
  (call.handle stream).map fun s =>
    match s with
    | none => (call, .returned ZPR_ERR (some "null handle passed to zpr_grpc_bidi_buffer"))
    | some s =>
        let (response, reply) := call.response.zpr_grpc_client_stream_buffer s.reader capacity
        (call.withResponse response, reply)

def cancel (call : BidiCall) (stream : Pointer) : Option (BidiCall × Reply) :=
  (call.handle stream).map fun s =>
    match s with
    | none => (call, .silent)
    | some _ => ({ call with stream := none, rx := call.rx.dropSender }, .silent)

end BidiCall

def bidiCallStep : PartialStep BidiCall CallAction Reply
  | call, .arrive incoming =>
      (call.response.arrive incoming).map fun response => (call.withResponse response, .silent)
  | call, .poll_next =>
      match call.rx.tryRecv with
      | (rx, .item _) => some ({ call with rx := rx }, .silent)
      | (_, .empty) | (_, .disconnected) => none
  | call, .send stream data bytes => call.send stream data bytes
  | call, .close_send stream => call.close_send stream
  | call, .read_into stream buffer => call.read_into stream buffer
  | call, .buffer stream capacity => call.zpr_grpc_bidi_buffer stream capacity
  | call, .cancel stream => call.cancel stream
  | call, .pump => call.response.runPump.map fun (response, reply) =>
      (call.withResponse response, reply)

/-- A read of the response half is a read of its handle. -/
theorem BidiCall.read_into_valid {call : BidiCall}
    (taken : call.read_into .valid buffer = some (next, reply)) :
    ∃ s reader answer, call.stream = some s ∧
      zpr_grpc_client_stream_read_into s.reader buffer = some (reader, answer) ∧
      reply = .filled answer ∧ next = { call with stream := some { s with reader := reader } } := by
  rcases Option.bind_eq_some_iff.mp taken with ⟨given, handed, rest⟩
  rcases Option.map_eq_some_iff.mp handed with ⟨s, held, rfl⟩
  rcases Option.map_eq_some_iff.mp rest with ⟨⟨stream, answer⟩, read, equal⟩
  rcases Option.map_eq_some_iff.mp read with ⟨⟨reader, answered⟩, readReader, same⟩
  cases same
  cases equal
  exact ⟨s, reader, answer, held, readReader, rfl, rfl⟩

end Zpr.Grpc.Bidi
