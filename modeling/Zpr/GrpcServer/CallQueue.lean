import Zpr.Ffi
import Zpr.Foundation.Channel
import Zpr.Foundation.IdMap

namespace Zpr.GrpcServer

open Ffi

/-! # The call queue and the entry points that work on it alone

Ids and counters are natural numbers: an `AtomicU64` that counts up from one
would need 2 ^ 64 calls to wrap. Instants are nanoseconds on a monotonic
clock. A receiver or sender that the source holds by value is the number of the
connection task whose channel it belongs to. -/

def ZPR_CALL_NONE : Int := 0
def ZPR_CALL_MESSAGE : Int := 1
def ZPR_CALL_CLIENT_DONE : Int := 2

def GRPC_UNAVAILABLE : Int := 14
def GRPC_RESOURCE_EXHAUSTED : Int := 8
def GRPC_DEADLINE_EXCEEDED : Int := 4

/-- `Duration::from_millis`, in nanoseconds. -/
def from_millis (ms : Nat) : Nat := ms * 1000000

structure LiveCall where
  inbound_rx : Nat
  outbound_tx : Nat
  status_tx : Option Nat
  pending_msg : Option Bytes
  client_done : Bool
  expires_at : Nat
  deriving DecidableEq, Repr

/-- The call that `handle_queued` puts into `live` for connection task `rpc`. -/
def LiveCall.admitted (rpc expires_at : Nat) : LiveCall where
  inbound_rx := rpc
  outbound_tx := rpc
  status_tx := some rpc
  pending_msg := none
  client_done := false
  expires_at := expires_at

/-- `live` is a hash map: one call for an id, in no particular order. -/
structure CallQueue where
  pending : List (Nat × String)
  live : IdMap LiveCall
  next_id : Nat
  max_pending : Nat
  deadline_ms : Nat
  accepted : Nat
  completed : Nat
  refused : Nat
  reaped : Nat

def CallQueue.new : CallQueue where
  pending := []
  live := ∅
  next_id := 1
  max_pending := 1024
  deadline_ms := 30000
  accepted := 0
  completed := 0
  refused := 0
  reaped := 0

def as_bytes (text : String) : Bytes := text.toUTF8.data.toList

theorem as_bytes_eq_cstr (text : String) : as_bytes text = cstr text := rfl

theorem fromUTF8_as_bytes (text : String) :
    String.fromUTF8? ⟨(as_bytes text).toArray⟩ = some text := by
  rw [as_bytes_eq_cstr]
  exact fromUTF8_cstr text

/-- What `zpr_grpc_accept` leaves behind: the id goes through its own pointer,
the path into the caller's buffer. -/
structure AcceptReply extends BufferReply where
  out_call_id : Option Nat
  deriving DecidableEq, Repr

def zpr_grpc_accept (q : CallQueue) (out_call_id : Pointer) (out_method : Buffer) :
    CallQueue × AcceptReply :=
  match q.pending with
  | [] =>
      (q, { rc := ZPR_CALL_NONE, out_len := none, written := [], last_error := none,
            out_call_id := none })
  | (id, path) :: pending =>
      let copied := copy_into (as_bytes path) out_method
      if copied.rc ≠ ZPR_OK then
        -- put back at the front
        (q, { copied with out_call_id := none })
      else
        ({ q with pending := pending, accepted := q.accepted + 1 },
          { copied with rc := ZPR_CALL_MESSAGE, out_call_id := out_call_id.store id })

/-- The body of `zpr_grpc_call_read_into` once the call has been found. -/
def LiveCall.read_into (call : LiveCall) (inbound : Channel Bytes) (buffer : Buffer) :
    LiveCall × Channel Bytes × BufferReply :=
  match call.pending_msg with
  | some bytes =>
      let copied := copy_into bytes buffer
      if copied.rc ≠ ZPR_OK then
        (call, inbound, copied)
      else
        ({ call with pending_msg := none }, inbound, { copied with rc := ZPR_CALL_MESSAGE })
  | none =>
      if call.client_done then
        (call, inbound, { rc := ZPR_CALL_CLIENT_DONE, out_len := buffer.out_len.store 0,
                          written := [], last_error := none })
      else
        match inbound.tryRecv with
        | (inbound, .item bytes) =>
            let copied := copy_into bytes buffer
            if copied.rc ≠ ZPR_OK then
              ({ call with pending_msg := some bytes }, inbound, copied)
            else
              (call, inbound, { copied with rc := ZPR_CALL_MESSAGE })
        | (inbound, .empty) =>
            (call, inbound, { rc := ZPR_CALL_NONE, out_len := buffer.out_len.store 0,
                              written := [], last_error := none })
        | (inbound, .disconnected) =>
            ({ call with client_done := true }, inbound,
              { rc := ZPR_CALL_CLIENT_DONE, out_len := buffer.out_len.store 0,
                written := [], last_error := none })

/-- `no live call with id …`, the error of every operation on an unknown id. -/
def noLiveCall (call_id : Nat) : String := s!"no live call with id {call_id}"

end Zpr.GrpcServer
