import Zpr.Grpc.UnaryCall
import Zpr.Pascal.Json
import Zpr.Pascal.TBytes

namespace Zpr.Pascal

open Ffi Grpc
open Pascal.Json (Utf8Ptr)

/-! # The client class

`TZprGrpcClient.Call` raises an exception where there is no status, and leaves a refusal to
its caller. -/

/-- How a call of `TZprGrpcClient.Call` ends for its caller. -/
inductive CallResult
  | returned (Result : TBytes) (AGrpcStatus : Int)
  | raised
  deriving DecidableEq, Repr

section

variable {Channel PathAndQuery : Type u}

/-- The answer as the caller sees it. -/
def shownAs : Except (Int × String) Bytes → CallResult
  | .ok bytes => .returned bytes 0
  | .error (code, _) => .returned [] code

/-- What follows the call of the library. -/
def callResult (reply : Unary.CallReply) : CallResult :=
  if reply.rc = ErrorSlot.GRPC_CALL_TRANSPORT_ERR then
    .raised
  else
    .returned (reply.out_response.getD []) (reply.out_grpc_status.getD 0)

theorem callResult_answer (answer : Except (Int × String) Bytes) :
    callResult (Unary.reply .valid .valid (.ok answer)) = shownAs answer := by
  cases answer with
  | ok bytes => rfl
  | error status => rfl

/-- `Resp` and `AGrpcStatus` are `out` parameters, which are never null. What the library
has stored, and what it has sent, comes with the result. -/
def TZprGrpcClient.Call (outside : RequestHeaders.Outside)
    (client : Unary.Client Channel PathAndQuery) (AEndpoint AMethodPath : Bytes)
    (ARequest : TBytes) (ATimeoutMs : UInt32) (AMetadataJson : Bytes) :
    CallResult × Unary.CallReply × Unary.Outcome Channel PathAndQuery :=
  let MetaPtr := if AMetadataJson.length = 0 then none else Utf8Ptr AMetadataJson
  let (reply, called) := Unary.zpr_grpc_call outside client (Utf8Ptr AEndpoint)
    (Utf8Ptr AMethodPath) MetaPtr (bytesAt ARequest) ATimeoutMs .valid .valid
  (callResult reply, reply, called)

/-- The exception says that nothing has been sent. Without it the caller has been shown the
answer to its own message. -/
theorem Call_cases (outside : RequestHeaders.Outside)
    (client : Unary.Client Channel PathAndQuery) (AEndpoint AMethodPath : Bytes)
    (ARequest : TBytes) (ATimeoutMs : UInt32) (AMetadataJson : Bytes) :
    let ended := TZprGrpcClient.Call outside client AEndpoint AMethodPath ARequest ATimeoutMs
      AMetadataJson
    (∃ e, ended = (.raised, Unary.reply .valid .valid (.error e), .unsent e)) ∨
      ∃ endpoint channel req, req.message = ARequest ∧
        ended = (shownAs (client.unary channel req),
          Unary.reply .valid .valid (.ok (client.unary channel req)),
          Unary.send client endpoint channel req) := by
  intro ended
  dsimp only [ended, TZprGrpcClient.Call, Unary.zpr_grpc_call]
  generalize (if AMetadataJson.length = 0 then none else Utf8Ptr AMetadataJson) = MetaPtr
  rcases Unary.outcome_cases outside client (Utf8Ptr AEndpoint) (Utf8Ptr AMethodPath) MetaPtr
    (bytesAt ARequest) ATimeoutMs with ⟨e, unsent⟩ | ⟨args, channel, req, _, _, message, answered⟩
  · left
    refine ⟨e, ?_⟩
    rw [unsent]
    rfl
  · right
    rw [getD_bytesAt] at message
    refine ⟨args.endpoint, channel, req, message, ?_⟩
    rw [answered, (Unary.send_eq client args.endpoint channel req).1, callResult_answer]

end

end Zpr.Pascal
