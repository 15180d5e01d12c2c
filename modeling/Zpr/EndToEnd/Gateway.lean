import Zpr.EndToEnd.UnaryCall
import Zpr.Transcode.Routing

namespace Zpr.EndToEnd

open Ffi Protobuf Transcode
open GrpcServer hiding Request Response

/-! # A JSON request in front of a host

The transcoder makes a unary call of a JSON request, and a response of what comes back. A
refusal is an answer, and only an answer is a success. -/

section

variable {Pool Descriptor Message Deserializer Channel PathAndQuery : Type u}

/-- What `call_unary_bytes` makes of an answer. -/
def outcomeOf : Except (Int × String) Bytes → Bytes × Int × String
  | .ok reply => (reply, 0, "")
  | .error (code, message) => ([], code, message)

theorem answer_of_call {net : Upstream Channel PathAndQuery} {call : UpstreamCall PathAndQuery}
    (made : call ∈ (call_unary_bytes net endpoint path request timeout_ms).calls) :
    ∃ channel, net.get_channel endpoint = .ok channel ∧ call.request = request ∧
      (call_unary_bytes net endpoint path request timeout_ms).answer =
        outcomeOf (net.unary channel call.timeout call.path request) := by
  rcases call_unary_bytes_of_call made with ⟨channel, _, connected, _, same, answer⟩
  refine ⟨channel, connected, same, ?_⟩
  rw [answer]
  cases net.unary channel call.timeout call.path request with
  | ok reply => rfl
  | error refusal => rfl

variable (lib : Libraries Pool Descriptor Message) (services : Services Pool Descriptor)

/-- The response to an answer. -/
def responseTo (output : Descriptor) : Except (Int × String) Bytes → Response
  | .ok reply => replyResponse lib services output reply 0 ""
  | .error (code, message) => json_error lib.to_string (http_status_for_grpc code) message

/-- The response shows the first message that was written. -/
structure ShowsReply (output : Descriptor) (written : List Bytes) (response : Response) :
    Prop where
  reply : ∃ first others message rendering, written = first :: others ∧
    lib.decode output first = .ok message ∧ lib.render message = .ok rendering ∧
    response.body = lib.write { stringify_64_bit_integers := false } rendering
  content_type : response.content_type = "application/json"

end

/-- Only success is shown as such. -/
theorem http_status_for_grpc_eq_200 {code : Int} : http_status_for_grpc code = 200 ↔ code = 0 := by
  constructor
  · intro success
    unfold http_status_for_grpc at success
    split at success
    · rfl
    all_goals cases success
  · rintro rfl
    rfl

section

variable {Pool Descriptor Message Deserializer Channel PathAndQuery : Type u}
  {lib : Libraries Pool Descriptor Message} {reader : Reader Descriptor Message Deserializer}
  {services : Services Pool Descriptor} {net : Upstream Channel PathAndQuery} {cfg : Config Pool}
  {req : Request} {output : Descriptor} {response : Response}

theorem responseTo_error_ne_200 {code : Int} (nonzero : code ≠ 0) (message : String) :
    (responseTo lib services output (.error (code, message))).status ≠ 200 :=
  mt http_status_for_grpc_eq_200.mp nonzero

/-- A refusal is passed on with its code and its message, and a reply is shown. -/
theorem replyResponse_eq {answer : Except (Int × String) Bytes}
    (coded : ∀ code message, answer = .error (code, message) → code ≠ 0) :
    replyResponse lib services output (outcomeOf answer).1 (outcomeOf answer).2.1
      (outcomeOf answer).2.2 = responseTo lib services output answer := by
  cases answer with
  | ok reply => rfl
  | error refusal =>
      rcases refusal with ⟨code, message⟩
      exact if_pos (coded code message rfl)

/-- A response of status 200 shows a reply. -/
theorem showsReply_of_200 {reply : Bytes}
    (success : (responseTo lib services output (.ok reply)).status = 200)
    (first : written = reply :: others) :
    ShowsReply lib output written (responseTo lib services output (.ok reply)) := by
  rw [responseTo, replyResponse, if_neg (not_not.mpr rfl)] at success ⊢
  cases decoded : lib.decode output reply with
  | error e => simp [decoded, json_error] at success
  | ok message =>
      cases rendered : lib.render message with
      | error e => simp [decoded, rendered, json_error] at success
      | ok rendering =>
          simp only [rendered]
          exact ⟨⟨reply, others, message, rendering, first, decoded, rendered, rfl⟩, rfl⟩

theorem HostAnswer.coded {answer : Except (Int × String) Bytes}
    (isAnswer : HostAnswer written status text answer) :
    ∀ code message, answer = .error (code, message) → code ≠ 0 := by
  intro code message same
  cases isAnswer with
  | refused nonzero =>
      cases same
      have code := mt code_from_i32_eq_zero.mp nonzero
      exact_mod_cast code
  | replied => cases same
  | silent =>
      cases same
      decide

/-- The host of a call that succeeds has written what is shown. -/
theorem HostAnswer.shows_of_200 {answer : Except (Int × String) Bytes}
    (isAnswer : HostAnswer written status text answer)
    (success : (responseTo lib services output answer).status = 200) :
    status = 0 ∧ ShowsReply lib output written (responseTo lib services output answer) := by
  cases answer with
  | error refusal =>
      have nonzero := isAnswer.coded refusal.1 refusal.2 rfl
      exact absurd success (responseTo_error_ne_200 nonzero refusal.2)
  | ok reply =>
      cases isAnswer with
      | replied zero _ others first => exact ⟨zero, showsReply_of_200 success first⟩

/-- A request that has been passed on: what the server's host has read, and what the response
shows of what it has done. -/
structure AnswersJson (lib : Libraries Pool Descriptor Message)
    (reader : Reader Descriptor Message Deserializer) (services : Services Pool Descriptor)
    (cfg : Config Pool) (req : Request) (trace : List (Action × Reply)) (call_id : Nat)
    (wireEnd : WireEnd) (response : Response) (method : MethodDescriptor Descriptor)
    (message : Message) : Prop where
  calls : PassedAs reader services cfg req method message
  request : delivered call_id trace <+: [reader.encode_to_vec message]
  answer : (∃ (code : Int) (error : String), wireEnd = .broken error ∧ code ≠ 0 ∧
      response = responseTo lib services method.output (.error (code, error))) ∨
    ∃ status text answer, removals call_id trace = [(status, text)] ∧
      HostAnswer (writes call_id trace) status text answer ∧
      response = responseTo lib services method.output answer
  success : response.status = 200 → (∃ text, removals call_id trace = [(0, text)]) ∧
    ShowsReply lib method.output (writes call_id trace) response

/-- However the host, the two transports and the network go about it: a JSON request that
the transcoder passes on is a call of a unary method, and the server's host reads nothing
but its message. The response is a failure of the connection or shows what the host has
answered: the status of a refusal as one of HTTP, with the message of the host, or its
reply as JSON. It is of status 200 only if the host has completed the call with 0 and has
written the reply that is shown. -/
theorem json_requests_are_answered_by_the_host {tonic : Tonic} {statuses : TonicStatus}
    {calls : TonicUnary} (documented : tonic.Documented limit) (understood : statuses.Documented)
    (unary : calls.Documented)
    (made : call ∈ (serve_one lib reader services net cfg req).calls)
    (short : call.request.length < 2 ^ 32)
    (serves : Serves tonic limit call.request trace index call_id brought wireEnd)
    (answered : ∀ channel, net.get_channel cfg.upstream = .ok channel →
      UnaryAnswer tonic statuses calls brought
        (net.unary channel call.timeout call.path call.request) wireEnd) :
    ∃ method message, AnswersJson lib reader services cfg req trace call_id wireEnd
      (serve_one lib reader services net cfg req).answer method message := by
  rcases serve_one_forwards lib reader services net cfg req with
    ⟨none, _⟩ | ⟨method, body, message, rest, routed, body_read, taken, served⟩
  · rw [none] at made
    cases made
  · have passed : PassedAs reader services cfg req method message :=
      ⟨routed.names, body, rest, body_read, taken⟩
    rw [served, Traced.calls_map] at made
    rcases answer_of_call made with ⟨channel, connected, request, answers⟩
    generalize isAnswered : net.unary channel call.timeout call.path call.request = answer
    have shows := answered channel connected
    rw [isAnswered] at shows
    have response : (∀ code message, answer = .error (code, message) → code ≠ 0) →
        (serve_one lib reader services net cfg req).answer =
          responseTo lib services method.output answer := by
      intro coded
      rw [served, Traced.answer_map, answers, ← request, isAnswered]
      exact replyResponse_eq coded
    have read := serves.delivered_isPrefix documented short
    rw [request] at read
    rcases serves.answer_cases documented understood unary shows with
      ⟨code, error, broken, nonzero, rfl⟩ | ⟨status, text, once, isAnswer⟩
    · have coded : ∀ other message,
          (Except.error (code, error) : Except (Int × String) Bytes) = .error (other, message) →
          other ≠ 0 := by
        intro other message same
        cases same
        exact nonzero
      refine ⟨method, message, passed, read, ?_, ?_⟩
      · exact .inl ⟨code, error, broken, nonzero, response coded⟩
      · intro success
        rw [response coded] at success
        exact absurd success (responseTo_error_ne_200 nonzero error)
    · refine ⟨method, message, passed, read, ?_, ?_⟩
      · exact .inr ⟨status, text, answer, once, isAnswer, response isAnswer.coded⟩
      · intro success
        rw [response isAnswer.coded] at success ⊢
        rcases isAnswer.shows_of_200 success with ⟨rfl, showsReply⟩
        exact ⟨⟨text, once⟩, showsReply⟩

end

/-- Every message is encoded as one byte. -/
def oneByteReader : Reader Unit Unit (List Char) :=
  { pingReader with encode_to_vec := fun _ => [5] }

/-- Any bytes are a reply. -/
def anyReply : Libraries Unit Unit Unit :=
  { pings with decode := fun _ _ => .ok () }

/-- The server's host of `exists_run_of_unary_call`. -/
def oneByteUpstream : Upstream Unit Unit :=
  { pingUpstream with unary := fun _ _ _ _ => .ok [7, 8] }

theorem oneByte_passed_on :
    (serve_one anyReply oneByteReader pingServices oneByteUpstream pingConfig
      (ping "{}")).calls = [⟨"http://127.0.0.1:9091", none, (), [5]⟩] := by
  have spelled : SpelledBy (cstr "{}") "{}" := .inr ⟨by decide, fromUTF8_cstr "{}"⟩
  rw [serve_one_of_routed (ping_routed "{}") rfl, transcode_of_taken ⟨"{}", spelled, rfl⟩]
  rfl

theorem json_requests_are_answered_by_the_host_for_one_byte : ∃ trace method message,
    delivered 1 trace = [[5]] ∧ writes 1 trace = [[7, 8]] ∧
      AnswersJson anyReply oneByteReader pingServices pingConfig (ping "{}") trace 1
        (.trailers (trailers 0 ""))
        (serve_one anyReply oneByteReader pingServices oneByteUpstream pingConfig
          (ping "{}")).answer method message := by
  rcases exists_serves_of_unary_call with ⟨trace, serves, answered, read, written⟩
  have documented : (Tonic.withLimit 4194304).Documented 4194304 :=
    Tonic.withLimit_documented (by decide)
  have made : (⟨"http://127.0.0.1:9091", none, (), [5]⟩ : UpstreamCall Unit) ∈
      (serve_one anyReply oneByteReader pingServices oneByteUpstream pingConfig
        (ping "{}")).calls := by
    rw [oneByte_passed_on]
    exact List.mem_singleton_self _
  rcases json_requests_are_answered_by_the_host documented TonicStatus.reading_documented
    TonicUnary.first_documented made (by decide) serves (fun _ _ => answered) with
    ⟨method, message, answers⟩
  exact ⟨trace, method, message, read, written, answers⟩

end Zpr.EndToEnd
