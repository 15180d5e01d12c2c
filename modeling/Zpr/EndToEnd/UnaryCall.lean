import Zpr.EndToEnd.Status
import Zpr.EndToEnd.Upload
import Zpr.Pascal.GrpcClient
import Zpr.Pascal.JsonKeys

namespace Zpr.EndToEnd

open Ffi GrpcServer Pascal

/-! # A unary call, from host to host

A unary call sends one message and waits for the whole response. What its caller gets is
what the server's host has made of the call. -/

/-- What tonic makes of the messages and the status of a response to a unary call. -/
structure TonicUnary where
  unary : List Bytes → Status → Except (Int × String) Bytes

/-- The first message is the reply, if the call succeeds. -/
structure TonicUnary.Documented (tonic : TonicUnary) : Prop where
  refused : ∀ messages status, status.code ≠ 0 →
    tonic.unary messages status = .error (status.code, status.message)
  replied : ∀ first others status, status.code = 0 → tonic.unary (first :: others) status = .ok first
  missing : ∀ status, status.code = 0 → ∃ text, tonic.unary [] status = .error (13, text)

/-- What `unary` answers, once the response has ended. -/
def UnaryAnswer (tonic : Tonic) (statuses : TonicStatus) (calls : TonicUnary) (brought : Bytes)
    (answer : Except (Int × String) Bytes) : WireEnd → Prop
  | .unfinished => False
  | .broken error => ∃ code : Int, code ≠ 0 ∧ answer = .error (code, error)
  | .trailers map =>
      answer = calls.unary (tonic.response_messages brought) (statuses.from_header_map map)

/-- A run of the server in which one of its calls is a unary call with this message. -/
structure Serves (tonic : Tonic) (limit : Nat) (message : Bytes)
    (trace : List (Action × Reply)) (index call_id : Nat) (brought : Bytes) (wireEnd : WireEnd) :
    Prop where
  run : ∃ server, Run serverStep .start trace server ∧ server.idAt index = some call_id
  request : ∃ body, (bodies trace)[index]? = some body ∧
    received body.frames <+: tonic.request_body [message]
  allowed : ∀ msg ∈ writes call_id trace, msg.length ≤ limit
  response : Conveyed (frames index trace) brought wireEnd

/-- What a host has answered, with what it has written and the outcome of the call. -/
inductive HostAnswer (written : List Bytes) (status : Int) (message : String) :
    Except (Int × String) Bytes → Prop
  | refused (nonzero : status ≠ 0) :
      HostAnswer written status message (.error (code_from_i32 status, message))
  | replied (success : status = 0) (reply : Bytes) (others : List Bytes)
      (first : written = reply :: others) : HostAnswer written status message (.ok reply)
  | silent (success : status = 0) (nothing : written = []) (text : String) :
      HostAnswer written status message (.error (13, text))

section

variable {tonic : Tonic} {statuses : TonicStatus} {calls : TonicUnary}
  {answer : Except (Int × String) Bytes}

/-- The server's host reads nothing but the message of the call. -/
theorem Serves.delivered_isPrefix (documented : tonic.Documented limit)
    (serves : Serves tonic limit message trace index call_id brought wireEnd)
    (short : message.length < 2 ^ 32) : delivered call_id trace <+: [message] := by
  rcases serves.run with ⟨server, serving, drawn⟩
  rcases serves.request with ⟨body, brought, part⟩
  have shortItems : ∀ item ∈ [message], item.length < 2 ^ 32 := by simpa using short
  rw [documented.request_body_eq shortItems] at part
  rcases messages_of_part shortItems part with ⟨cut, split, _⟩
  rcases (lossless_of_run serving).history_of_drawn drawn with ⟨rpc, _, _, sameBody, history⟩
  cases brought.symm.trans sameBody
  rw [split]
  exact (history.returned_prefix.trans history.isPrefix).trans (List.prefix_append _ _)

/-- The connection has failed, or the answer is that of the server's host. -/
theorem Serves.answer_cases (documented : tonic.Documented limit)
    (understood : statuses.Documented) (unary : calls.Documented)
    (serves : Serves tonic limit message trace index call_id brought wireEnd)
    (answered : UnaryAnswer tonic statuses calls brought answer wireEnd) :
    (∃ (code : Int) (error : String), wireEnd = .broken error ∧ code ≠ 0 ∧
        answer = .error (code, error)) ∨
      ∃ status text, removals call_id trace = [(status, text)] ∧
        HostAnswer (writes call_id trace) status text answer := by
  rcases serves.run with ⟨server, serving, drawn⟩
  cases wireEnd with
  | unfinished => exact answered.elim
  | broken error =>
      rcases answered with ⟨code, nonzero, same⟩
      exact .inl ⟨code, error, rfl, nonzero, same⟩
  | trailers map =>
      rcases serves.response.completed documented serving drawn serves.allowed with
        ⟨status, text, once, rfl, whole⟩
      rw [UnaryAnswer, whole, understood.from_trailers] at answered
      refine .inr ⟨status, text, once, ?_⟩
      by_cases success : status = 0
      · have code : code_from_i32 status = 0 := code_from_i32_eq_zero.mpr success
        cases written : writes call_id trace with
        | nil =>
            rcases unary.missing ⟨code_from_i32 status, text⟩ code with ⟨error, missing⟩
            rw [answered, written, missing]
            exact .silent success rfl error
        | cons first others =>
            rw [answered, written, unary.replied first others _ code]
            exact .replied success first others rfl
      · have code : code_from_i32 status ≠ 0 := mt code_from_i32_eq_zero.mp success
        rw [answered, unary.refused _ _ code]
        exact .refused success

end

/-- What the caller finds after `TZprGrpcClient.Call`, and what `zpr_last_error` has for it. -/
structure Finds (result : CallResult) (last_error : Option String)
    (answer : Except (Int × String) Bytes) : Prop where
  result : result = shownAs answer
  last_error : ∀ code message, answer = .error (code, message) → last_error = some message

/-- The server's host reads nothing but the message of the caller, and the caller finds a
failure of the connection or what the server's host has answered. -/
structure Faithful (trace : List (Action × Reply)) (call_id : Nat) (wireEnd : WireEnd)
    (ARequest : TBytes) (result : CallResult) (last_error : Option String) : Prop where
  request : delivered call_id trace <+: [ARequest]
  response : (∃ (code : Int) (error : String), wireEnd = .broken error ∧ code ≠ 0 ∧
      Finds result last_error (.error (code, error))) ∨
    ∃ status text answer, removals call_id trace = [(status, text)] ∧
      HostAnswer (writes call_id trace) status text answer ∧ Finds result last_error answer

/-- However the two hosts, the two transports and the network go about it: unless
`TZprGrpcClient.Call` raises an exception, and then nothing has been sent, the server's host
reads nothing but the message of its caller, and the caller finds a failure of the
connection or what the server's host has answered: the status and the message of a refusal,
or else the first message that the host has written. -/
theorem calls_return_what_the_host_answers {Channel PathAndQuery : Type}
    {tonic : Tonic} {statuses : TonicStatus} {calls : TonicUnary}
    (documented : tonic.Documented limit) (understood : statuses.Documented)
    (unary : calls.Documented) {outside : RequestHeaders.Outside}
    {client : Grpc.Unary.Client Channel PathAndQuery} {ARequest : TBytes}
    {result : CallResult} {reply : Grpc.Unary.CallReply}
    {called : Grpc.Unary.Outcome Channel PathAndQuery}
    (taken : TZprGrpcClient.Call outside client AEndpoint AMethodPath ARequest ATimeoutMs
      AMetadataJson = (result, reply, called))
    (short : ARequest.length < 2 ^ 32)
    (serves : ∀ channel req, called.sent = some (channel, req) →
      Serves tonic limit req.message trace index call_id brought wireEnd ∧
        UnaryAnswer tonic statuses calls brought (client.unary channel req) wireEnd) :
    (result = .raised ∧ called.sent = none ∧ reply.last_error.isSome) ∨
      Faithful trace call_id wireEnd ARequest result reply.last_error := by
  have cases := Call_cases outside client AEndpoint AMethodPath ARequest ATimeoutMs AMetadataJson
  simp only [taken] at cases
  rcases cases with ⟨e, same⟩ | ⟨endpoint, channel, req, sameMessage, same⟩
  · cases same
    exact .inl ⟨rfl, rfl, rfl⟩
  · cases same
    rcases serves channel req (Grpc.Unary.send_eq client endpoint channel req).2 with
      ⟨serves, answered⟩
    rw [sameMessage] at serves
    have finds : Finds (shownAs (client.unary channel req))
        (Grpc.Unary.reply .valid .valid (.ok (client.unary channel req))).last_error
        (client.unary channel req) := by
      refine ⟨rfl, fun code message refused => ?_⟩
      rw [refused]
      rfl
    right
    refine ⟨serves.delivered_isPrefix documented short, ?_⟩
    rcases serves.answer_cases documented understood unary answered with
      ⟨code, error, broken, nonzero, same⟩ | ⟨status, text, once, isAnswer⟩
    · rw [same] at finds ⊢
      exact .inl ⟨code, error, broken, nonzero, finds⟩
    · exact .inr ⟨status, text, _, once, isAnswer, finds⟩

/-- tonic's unary calls, for as far as they are documented. -/
def TonicUnary.first : TonicUnary where
  unary messages status :=
    if status.code ≠ 0 then .error (status.code, status.message)
    else
      match messages with
      | [] => .error (13, "Missing response message.")
      | reply :: _ => .ok reply

theorem TonicUnary.first_documented : TonicUnary.first.Documented := by
  constructor
  · intro messages status nonzero
    exact if_pos nonzero
  · intro first others status zero
    exact if_neg (not_not.mpr zero)
  · intro status zero
    exact ⟨_, if_neg (not_not.mpr zero)⟩

/-- A server's host that reads one message and answers with another one. -/
theorem exists_run_of_unary_call : ∃ trace server, Run serverStep .start trace server ∧
    server.idAt 0 = some 1 ∧ (bodies trace)[0]? = some ⟨[.data [0, 0, 0, 0, 1, 5]], false⟩ ∧
    delivered 1 trace = [[5]] ∧ writes 1 trace = [[7, 8]] ∧
    frames 0 trace = [shown [7, 8], some (.trailers [("grpc-status", "0")])] := by
  have replayed : ∃ trace server, replay serverStep .start
      [.arrive "/a" ⟨[.data [0, 0, 0, 0, 1, 5]], false⟩, .handle_queued 0, .handle_queued 0,
        .handle_queued 0, .handle_queued 0, .handle_queued 0, .pump_inbound 0, .pump_inbound 0,
        .read_into 1 ⟨.valid, 1, .valid⟩, .write 1 .valid [7, 8], .complete 1 0 none,
        .poll_frame 0, .advance 1, .advance 1, .advance 1, .poll_frame 0] =
          some (trace, server) ∧
      server.idAt 0 = some 1 ∧ (bodies trace)[0]? = some ⟨[.data [0, 0, 0, 0, 1, 5]], false⟩ ∧
      delivered 1 trace = [[5]] ∧ writes 1 trace = [[7, 8]] ∧
      frames 0 trace = [shown [7, 8], some (.trailers [("grpc-status", "0")])] :=
    ⟨_, _, rfl, rfl, rfl, rfl, rfl, rfl⟩
  rcases replayed with ⟨trace, server, replayed, known⟩
  exact ⟨trace, server, run_of_replay replayed, known⟩

/-- It serves a unary call with this message. -/
theorem exists_serves_of_unary_call : ∃ trace,
    Serves (Tonic.withLimit 4194304) 4194304 [5] trace 0 1 (uncompressed.encodeAll [[7, 8]])
      (.trailers (trailers 0 "")) ∧
    UnaryAnswer (Tonic.withLimit 4194304) .reading .first (uncompressed.encodeAll [[7, 8]])
      (.ok [7, 8]) (.trailers (trailers 0 "")) ∧
    delivered 1 trace = [[5]] ∧ writes 1 trace = [[7, 8]] := by
  rcases exists_run_of_unary_call with ⟨trace, server, serving, drawn, body, read, written, polled⟩
  have documented : (Tonic.withLimit 4194304).Documented 4194304 :=
    Tonic.withLimit_documented (by decide)
  have request : received [.data [0, 0, 0, 0, 1, 5]] =
      (Tonic.withLimit 4194304).request_body [[5]] := by decide
  have messages : (Tonic.withLimit 4194304).response_messages (uncompressed.encodeAll [[7, 8]]) =
      [[7, 8]] := documented.response_messages_all (by decide)
  refine ⟨trace, ⟨⟨server, serving, drawn⟩, ⟨_, body, ?_⟩, ?_, ?_⟩, ?_, read, written⟩
  · rw [← request]
  · rw [written]
    decide
  · rw [polled]
    constructor
    · exact List.prefix_rfl
    · intro map same
      cases same
      exact ⟨by decide, rfl⟩
  · rw [UnaryAnswer, messages, TonicStatus.reading_documented.from_trailers]
    rfl

/-- Every channel answers `[7, 8]`. -/
def answering : Grpc.Unary.Client Unit Unit where
  parse _ := .ok ()
  get_channel _ := .ok ()
  ready _ := .ok ()
  unary _ _ := .ok [7, 8]
  no_room := "size overflows MAX_SIZE"
  debug := String.quote

def noHeaders : RequestHeaders.Outside where
  from_str _ := .error "expected value at line 1 column 1"
  metadata_key _ := .error "invalid HTTP header name"
  metadata_value _ := .error "failed to parse metadata value"
  header_name _ := .error "invalid HTTP header name"
  header_value _ := .error "failed to parse header value"
  full _ _ := false
  debug := String.quote

theorem answering_returns :
    TZprGrpcClient.Call noHeaders answering (cstr "http://127.0.0.1:50051") (cstr "/a") [5] 0 [] =
      (.returned [7, 8] 0, Grpc.Unary.reply .valid .valid (.ok (.ok [7, 8])),
        Grpc.Unary.send answering "http://127.0.0.1:50051" () ⟨(), [], none, [5]⟩) := by
  have endpoint : Pascal.Json.Utf8Ptr (cstr "http://127.0.0.1:50051") =
      some (cstr "http://127.0.0.1:50051") :=
    Pascal.Json.utf8Ptr_cstr (by decide)
  have path : Pascal.Json.Utf8Ptr (cstr "/a") = some (cstr "/a") :=
    Pascal.Json.utf8Ptr_cstr (by decide)
  simp only [TZprGrpcClient.Call, Grpc.Unary.zpr_grpc_call, Grpc.Unary.outcome,
    Grpc.Unary.arguments, endpoint, path, cstr_to_str_cstr]
  rfl

theorem calls_return_what_the_host_answers_for_one_byte : ∃ trace,
    delivered 1 trace = [[5]] ∧ writes 1 trace = [[7, 8]] ∧
      Faithful trace 1 (.trailers (trailers 0 "")) [5] (.returned [7, 8] 0) none := by
  rcases exists_serves_of_unary_call with ⟨trace, serves, answered, read, written⟩
  have documented : (Tonic.withLimit 4194304).Documented 4194304 :=
    Tonic.withLimit_documented (by decide)
  have sentOnce : ∀ channel req, (Grpc.Unary.send answering "http://127.0.0.1:50051" ()
      ⟨(), [], none, [5]⟩).sent = some (channel, req) →
      Serves (Tonic.withLimit 4194304) 4194304 req.message trace 0 1
          (uncompressed.encodeAll [[7, 8]]) (.trailers (trailers 0 "")) ∧
        UnaryAnswer (Tonic.withLimit 4194304) .reading .first (uncompressed.encodeAll [[7, 8]])
          (answering.unary channel req) (.trailers (trailers 0 "")) := by
    intro channel req sent
    rw [(Grpc.Unary.send_eq _ _ _ _).2] at sent
    cases sent
    exact ⟨serves, answered⟩
  rcases calls_return_what_the_host_answers documented TonicStatus.reading_documented
    TonicUnary.first_documented answering_returns (by decide) sentOnce with ⟨raised, _⟩ | faithful
  · cases raised
  · exact ⟨trace, read, written, faithful⟩

end Zpr.EndToEnd
