import Zpr.GrpcServer.HostProgram
import Zpr.GrpcServer.RequestStream

namespace Zpr.GrpcServer

open Ffi

/-! # One RPC in callback mode

`handle` gives every RPC a handler on a thread of its own, which reads and writes through
a `GrpcStream` and is waited for where it has to wait. Calls share nothing, so that one
call is a system by itself: the pump, the handler's thread and the response body. -/

/-! ## Text from bytes -/

/-- The ranges of the bytes that have to follow the first byte of a UTF-8 sequence, or
`none` for a byte that no sequence starts with. -/
def utf8_continuations (first : UInt8) : Option (List (UInt8 × UInt8)) :=
  let any : UInt8 × UInt8 := (0x80, 0xBF)
  if first < 0x80 then some []
  else if 0xC2 ≤ first ∧ first ≤ 0xDF then some [any]
  else if first = 0xE0 then some [(0xA0, 0xBF), any]
  else if first = 0xED then some [(0x80, 0x9F), any]
  else if 0xE1 ≤ first ∧ first ≤ 0xEF then some [any, any]
  else if first = 0xF0 then some [(0x90, 0xBF), any, any]
  else if 0xF1 ≤ first ∧ first ≤ 0xF3 then some [any, any, any]
  else if first = 0xF4 then some [(0x80, 0x8F), any, any]
  else none

/-- How many bytes continue a sequence before one does not. -/
def continued : List (UInt8 × UInt8) → Bytes → Nat
  | (low, high) :: ranges, byte :: bytes =>
      if low ≤ byte ∧ byte ≤ high then continued ranges bytes + 1 else 0
  | _, _ => 0

/-- The character of a complete sequence. -/
def utf8_decode (first : UInt8) (others : Bytes) : Char :=
  let high := if others = [] then first.toNat else first.toNat % 2 ^ (6 - others.length)
  Char.ofNat (others.foldl (fun code byte => code * 64 + byte.toNat % 64) high)

/-- One replacement character stands for every maximal part of a sequence that is not
complete. -/
def replace_invalid : Nat → Bytes → List Char
  | fuel + 1, first :: bytes =>
      match utf8_continuations first with
      | none => '\uFFFD' :: replace_invalid fuel bytes
      | some ranges =>
          let count := continued ranges bytes
          let char := if count = ranges.length then utf8_decode first (bytes.take count)
            else '\uFFFD'
          char :: replace_invalid fuel (bytes.drop count)
  | _, _ => []

/-- `String::from_utf8_lossy`: valid text is left as it is. -/
def from_utf8_lossy (bytes : Bytes) : String :=
  match String.fromUTF8? ⟨bytes.toArray⟩ with
  | some text => text
  | none => String.ofList (replace_invalid bytes.length bytes)

theorem from_utf8_lossy_as_bytes (text : String) : from_utf8_lossy (as_bytes text) = text := by
  rw [from_utf8_lossy, fromUTF8_as_bytes]

example : from_utf8_lossy [0x41, 0xE2, 0x82, 0x42, 0xC0] = "A\uFFFDB\uFFFD" := by decide

/-! ## The call -/

/-- How far the closure of `spawn_blocking` has got. -/
inductive Handler
  | running
  /-- the handler has returned, with this status and message -/
  | returned (outcome : Int × String)
  /-- the stream, and with it `inbound_rx` and `outbound_tx`, has been dropped -/
  | reclaimed (outcome : Int × String)
  /-- the status has been sent -/
  | ended
  deriving DecidableEq, Repr

structure CallbackCall where
  pump : Pump
  inbound : Channel Bytes
  body : OutboundBody
  handler : Handler
  /-- the client keeps the response open -/
  connected : Bool
  deriving DecidableEq, Repr

/-- The frames of an immediate error, or the call that has been started. -/
def handle (path : String) (body : RequestBody) : Except (List Frame) CallbackCall :=
  if 0 ∈ as_bytes path then
    .error (immediate_error 13 "method path contains an embedded NUL")
  else
    .ok { pump := .spawn body, inbound := .create 8, body := .opened, handler := .running,
          connected := true }

/-- What the handler, the client or a task does next. -/
inductive CallbackAction
  | pump_inbound
  | poll_frame
  | hang_up
  | read (out : Pointer)
  | write (data : Pointer) (bytes : Bytes)
  /-- the handler returns, with what it has left at `out_status` and `out_msg` -/
  | returns (out_status : Int) (out_msg : Option Bytes)
  /-- `drop(Box::from_raw(stream.0))` -/
  | reclaim
  | send_status
  deriving DecidableEq, Repr

inductive CallbackReply
  | silent
  | read (reply : StreamReadReply)
  | returned (rc : Int) (last_error : Option String)
  | polled (poll : PollFrame)
  deriving DecidableEq, Repr

/-- Callback mode. `blocking_send` waits for room in the channel or for its receiver to
be dropped. -/
def zpr_grpc_stream_write (outbound : Channel Bytes) (data : Pointer) (bytes : Bytes) :
    Option (Channel Bytes × CallbackReply) :=
  match outbound.trySend (if data = .null then [] else bytes) with
  | (outbound, .sent) => some (outbound, .returned ZPR_OK none)
  | (outbound, .closed) => some (outbound, .returned ZPR_ERR (some "client disconnected"))
  | (_, .full) => none

/-- The message of the handler's status. -/
def returned_message (out_msg : Option Bytes) : String :=
  match out_msg with
  | none => ""
  | some bytes => from_utf8_lossy bytes

namespace CallbackCall

def poll_frame (call : CallbackCall) : Option (CallbackCall × CallbackReply) :=
  if call.connected then
    some ({ call with body := call.body.poll_frame.1 }, .polled call.body.poll_frame.2)
  else
    none

/-- The calls that a running handler makes. -/
def stream_read (call : CallbackCall) (out : Pointer) : Option (CallbackCall × CallbackReply) :=
  (zpr_grpc_stream_read () call.inbound out).map fun (_, inbound, reply) =>
    ({ call with inbound := inbound }, .read reply)

def stream_write (call : CallbackCall) (data : Pointer) (bytes : Bytes) :
    Option (CallbackCall × CallbackReply) :=
  (zpr_grpc_stream_write call.body.rx data bytes).map fun (rx, reply) =>
    ({ call with body := { call.body with rx := rx } }, reply)

/-- The rest of the closure, after the handler has returned. -/
def reclaim (call : CallbackCall) (outcome : Int × String) : CallbackCall :=
  { call with
    inbound := call.inbound.dropReceiver
    body := { call.body with rx := call.body.rx.dropSender }
    handler := .reclaimed outcome }

def send_status (call : CallbackCall) (outcome : Int × String) : CallbackCall :=
  { call with
    body := { call.body with status_rx := call.body.status_rx.send outcome }
    handler := .ended }

end CallbackCall

def callbackStep : PartialStep CallbackCall CallbackAction CallbackReply
  | call, .pump_inbound =>
      (call.pump.step call.inbound).map fun (pump, inbound) =>
        ({ call with pump := pump, inbound := inbound }, .silent)
  | call, .poll_frame => call.poll_frame
  | call, .hang_up =>
      some ({ call with
        connected := false
        body := { call.body with rx := call.body.rx.dropReceiver } }, .silent)
  | call, .read out => if call.handler = .running then call.stream_read out else none
  | call, .write data bytes =>
      if call.handler = .running then call.stream_write data bytes else none
  | call, .returns out_status out_msg =>
      if call.handler = .running then
        some ({ call with handler := .returned (out_status, returned_message out_msg) }, .silent)
      else
        none
  | call, .reclaim =>
      match call.handler with
      | .returned outcome => some (call.reclaim outcome, .silent)
      | _ => none
  | call, .send_status =>
      match call.handler with
      | .reclaimed outcome => some (call.send_status outcome, .silent)
      | _ => none

end Zpr.GrpcServer
