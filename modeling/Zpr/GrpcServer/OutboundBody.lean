import Zpr.Foundation.Channel
import Zpr.GrpcServer.CallQueue
import Zpr.GrpcServer.MessageFrame

namespace Zpr.GrpcServer

open Ffi

/-! # The response body

`OutboundBody` sends what the handler wrote as DATA frames and ends with one
TRAILERS frame that carries the status. -/

def upperHexDigit (digit : Nat) : Char :=
  if digit < 10 then Char.ofNat (48 + digit) else Char.ofNat (55 + digit)

/-- The text that stands for one byte of a `grpc-message`: `{b:02X}` after a
percent sign, or the byte itself. -/
def percent_encode_byte (b : UInt8) : List Char :=
  if (0x20 ≤ b ∧ b ≤ 0x24) ∨ (0x26 ≤ b ∧ b ≤ 0x7e) then
    [Char.ofNat b.toNat]
  else
    ['%', upperHexDigit (b.toNat / 16), upperHexDigit (b.toNat % 16)]

def percent_encode_grpc_message (s : String) : String :=
  String.ofList ((as_bytes s).flatMap percent_encode_byte)

/-- A header map with one value for a name, in the order of insertion. -/
abbrev HeaderMap := List (String × String)

/-- What is documented of `http::HeaderValue::from_str`: it takes visible ASCII as it is. -/
def HeaderValues (from_str : String → Option String) : Prop :=
  ∀ src, (∀ b ∈ as_bytes src, 0x20 ≤ b ∧ b ≤ 0x7e) → from_str src = some src

/-- The trailers that a constructor of header values leads to. -/
def trailersBy (from_str : String → Option String) (status : Int) (message : String) :
    HeaderMap :=
  -- digits and a sign always make a header value
  let status_entry := ("grpc-status", toString status)
  if message = "" then
    [status_entry]
  else
    match from_str (percent_encode_grpc_message message) with
    | some value => [status_entry, ("grpc-message", value)]
    | none => [status_entry]

/-- One such constructor, which also takes tabs. No other leads to other trailers. -/
def header_value_from_str (src : String) : Option String :=
  if (as_bytes src).all fun b => (32 ≤ b && b < 127) || b == 9 then some src else none

def trailers (status : Int) (message : String) : HeaderMap :=
  trailersBy header_value_from_str status message

theorem headerValues_header_value_from_str : HeaderValues header_value_from_str := by
  intro src visible
  rw [header_value_from_str, if_pos]
  rw [List.all_eq_true]
  intro b member
  rcases visible b member with ⟨lower, upper⟩
  have below : b < 127 := UInt8.lt_of_le_of_lt upper (by decide)
  simp [below, lower]

theorem lookup_grpc_status (status : Int) (message : String) :
    (trailers status message).lookup "grpc-status" = some (toString status) := by
  unfold trailers trailersBy
  split
  · rfl
  · split <;> rfl

/-- A frame of a response body. -/
inductive Frame
  | data (bytes : Bytes)
  | trailers (map : HeaderMap)
  deriving DecidableEq, Repr

/-- `Poll<Option<Frame>>`: `ready none` is the end of the body. -/
inductive PollFrame
  | pending
  | ready (frame : Option Frame)
  deriving DecidableEq, Repr

/-- The frames of the body of a trailers-only response. -/
def immediate_error (status : Int) (message : String) : List Frame :=
  [.trailers (trailers status message)]

inductive OutboundState
  | streaming
  | awaitingStatus
  | done
  deriving DecidableEq, Repr

structure OutboundBody where
  rx : Channel Bytes
  status_rx : Oneshot (Int × String)
  state : OutboundState
  deriving DecidableEq, Repr

namespace OutboundBody

/-- The body of a call nobody has written to: `mpsc::channel::<Vec<u8>>(8)` and
`oneshot::channel::<(i32, String)>()`. -/
def opened : OutboundBody where
  rx := .create 8
  status_rx := .waiting
  state := .streaming

/-- The `AwaitingStatus` arm of `poll_frame`. -/
def poll_status (body : OutboundBody) : OutboundBody × PollFrame :=
  match body.status_rx.poll with
  | (status_rx, some result) =>
      let (status, message) := result.getD (13, "handler ended without a status")
      ({ body with status_rx := status_rx, state := .done },
        .ready (some (.trailers (trailers status message))))
  | (status_rx, none) => ({ body with status_rx := status_rx }, .pending)

def poll_frame (body : OutboundBody) : OutboundBody × PollFrame :=
  match body.state with
  | .streaming =>
      match body.rx.tryRecv with
      | (rx, .item msg) =>
          ({ body with rx := rx }, .ready (some (.data (encode_grpc_frame msg))))
      | (rx, .disconnected) => poll_status { body with rx := rx, state := .awaitingStatus }
      | (rx, .empty) => ({ body with rx := rx }, .pending)
  | .awaitingStatus => poll_status body
  | .done => (body, .ready none)

end OutboundBody

end Zpr.GrpcServer
