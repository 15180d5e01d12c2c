import Zpr.ErrorSlot.Ending
import Zpr.Grpc.OpenTimeout
import Zpr.RequestHeaders

namespace Zpr.Grpc.Unary

open Ffi Timed ErrorSlot

/-! # A unary call

`zpr_grpc_call` reads its arguments, finds a channel, builds a request and waits for the
answer. At most one request goes out, and every failure before that is reported as one of
the transport. -/

variable {Channel PathAndQuery : Type u}

structure UnaryRequest (PathAndQuery : Type u) where
  path : PathAndQuery
  metadata : RequestHeaders.HeaderMap
  /-- in milliseconds -/
  timeout : Option Nat
  message : Bytes

/-- What comes from tonic and http. A refusal is a status and its message. -/
structure Client (Channel PathAndQuery : Type u) where
  parse : String → Except String PathAndQuery
  get_channel : String → Except String Channel
  ready : Channel → Except String Unit
  unary : Channel → UnaryRequest PathAndQuery → Except (Int × String) Bytes
  /-- what an insert into a header map without room panics with -/
  no_room : String
  /-- a text as `{:?}` formats it -/
  debug : String → String

/-- What has become of a call, with what went out and the endpoint whose channel is
dropped. -/
structure Outcome (Channel PathAndQuery : Type u) where
  answer : Except String (Except (Int × String) Bytes)
  sent : Option (Channel × UnaryRequest PathAndQuery)
  dropped : Option String

/-- The call has not come as far as the request. -/
def Outcome.unsent (e : String) : Outcome Channel PathAndQuery where
  answer := .error e
  sent := none
  dropped := none

structure Arguments (PathAndQuery : Type u) where
  endpoint : String
  path : PathAndQuery
  metadata_json : Option String

/-- What is left for the host. `out_response` is the content of the buffer that now belongs
to it. -/
structure CallReply where
  rc : Int
  out_response : Option Bytes
  out_grpc_status : Option Int
  last_error : Option String
  deriving DecidableEq, Repr

section

variable (outside : RequestHeaders.Outside) (client : Client Channel PathAndQuery)

def arguments (endpoint method_path metadata_json : Option Bytes) :
    Except String (Arguments PathAndQuery) :=
  match cstr_to_str endpoint with
  | .error e => .error e
  | .ok endpoint =>
      match cstr_to_str method_path with
      | .error e => .error e
      | .ok method_path =>
          match client.parse method_path with
          | .error e => .error s!"invalid gRPC method path {client.debug method_path}: {e}"
          | .ok path =>
              match metadata_json with
              | none => .ok ⟨endpoint, path, none⟩
              | some ptr => (cstr_to_str (some ptr)).map fun s => ⟨endpoint, path, some s⟩

/-- Only a transport that may be broken is given up. -/
def droppedFor (endpoint : String) (code : Int) : Option String :=
  if code = 14 ∨ code = 1 ∨ code = 2 then some endpoint else none

/-- The request goes out. -/
def send (endpoint : String) (channel : Channel) (req : UnaryRequest PathAndQuery) :
    Outcome Channel PathAndQuery :=
  match client.unary channel req with
  | .ok reply => ⟨.ok (.ok reply), some (channel, req), none⟩
  | .error status => ⟨.ok (.error status), some (channel, req), droppedFor endpoint status.1⟩

/-- The `async` block. -/
def call (args : Arguments PathAndQuery) (body : Bytes) (timeout_ms : UInt32) :
    Outcome Channel PathAndQuery :=
  match client.get_channel args.endpoint with
  | .error e => .unsent e
  | .ok channel =>
      match client.ready channel with
      | .error e => .unsent s!"gRPC transport not ready for {client.debug args.endpoint}: {e}"
      | .ok () =>
          match RequestHeaders.apply_metadata_json outside [] args.metadata_json with
          | none => .unsent client.no_room
          | some (.error e, _) => .unsent e
          | some (.ok (), metadata) =>
              send client args.endpoint channel
                { path := args.path, metadata
                  timeout := if timeout_ms > 0 then some timeout_ms.toNat else none
                  message := body }

def outcome (endpoint method_path metadata_json request : Option Bytes) (timeout_ms : UInt32) :
    Outcome Channel PathAndQuery :=
  match arguments client endpoint method_path metadata_json with
  | .error e => .unsent e
  | .ok args => call outside client args (request.getD []) timeout_ms

/-- The `match` on the outcome, after the out-parameters have been cleared. -/
def reply (out_response out_grpc_status : Pointer) :
    Except String (Except (Int × String) Bytes) → CallReply
  | .ok (.ok bytes) =>
      { rc := GRPC_CALL_OK, out_response := out_response.store bytes
        out_grpc_status := out_grpc_status.store 0, last_error := none }
  | .ok (.error (code, message)) =>
      { rc := GRPC_CALL_STATUS_ERR, out_response := out_response.store []
        out_grpc_status := out_grpc_status.store code, last_error := some message }
  | .error e =>
      { rc := GRPC_CALL_TRANSPORT_ERR, out_response := out_response.store []
        out_grpc_status := out_grpc_status.store (-1), last_error := some e }

/-- A null `request` is an empty message. -/
def zpr_grpc_call (endpoint method_path metadata_json request : Option Bytes)
    (timeout_ms : UInt32) (out_response out_grpc_status : Pointer) :
    CallReply × Outcome Channel PathAndQuery :=
  let called := outcome outside client endpoint method_path metadata_json request timeout_ms
  (reply out_response out_grpc_status called.answer, called)

end

theorem send_eq (client : Client Channel PathAndQuery) (endpoint : String) (channel : Channel)
    (req : UnaryRequest PathAndQuery) :
    (send client endpoint channel req).answer = .ok (client.unary channel req) ∧
      (send client endpoint channel req).sent = some (channel, req) := by
  rw [send]
  cases client.unary channel req with
  | ok reply => exact ⟨rfl, rfl⟩
  | error status => exact ⟨rfl, rfl⟩

/-- Either nothing has gone out, or the host's message has, and the answer is that to it. -/
theorem call_cases (outside : RequestHeaders.Outside) (client : Client Channel PathAndQuery)
    (args : Arguments PathAndQuery) (body : Bytes) (timeout_ms : UInt32) :
    (∃ e, call outside client args body timeout_ms = .unsent e) ∨
      ∃ channel req, req.path = args.path ∧ req.message = body ∧
        call outside client args body timeout_ms = send client args.endpoint channel req := by
  rw [call]
  cases client.get_channel args.endpoint with
  | error e => exact .inl ⟨e, rfl⟩
  | ok channel =>
      cases isReady : client.ready channel with
      | error e =>
          left
          simp only [isReady]
          exact ⟨_, rfl⟩
      | ok done =>
          simp only [isReady]
          rcases RequestHeaders.apply_metadata_json outside [] args.metadata_json with
            _ | ⟨result, metadata⟩
          · exact .inl ⟨_, rfl⟩
          · cases result with
            | error e => exact .inl ⟨e, rfl⟩
            | ok done =>
                right
                exact ⟨channel, _, rfl, rfl, rfl⟩

theorem outcome_cases (outside : RequestHeaders.Outside) (client : Client Channel PathAndQuery)
    (endpoint method_path metadata_json request : Option Bytes) (timeout_ms : UInt32) :
    (∃ e, outcome outside client endpoint method_path metadata_json request timeout_ms =
      .unsent e) ∨
    ∃ args channel req, arguments client endpoint method_path metadata_json = .ok args ∧
      req.path = args.path ∧ req.message = request.getD [] ∧
      outcome outside client endpoint method_path metadata_json request timeout_ms =
        send client args.endpoint channel req := by
  rw [outcome]
  cases read : arguments client endpoint method_path metadata_json with
  | error e => exact .inl ⟨e, rfl⟩
  | ok args =>
      rcases call_cases outside client args (request.getD []) timeout_ms with
        ⟨e, unsent⟩ | ⟨channel, req, path, message, answered⟩
      · exact .inl ⟨e, unsent⟩
      · exact .inr ⟨args, channel, req, rfl, path, message, answered⟩

end Zpr.Grpc.Unary
