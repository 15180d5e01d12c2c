import Zpr.Transcode.ServeOne

namespace Zpr.Transcode

open Ffi Json Protobuf

/-! # What reaches the upstream

Nothing but the calls of unary methods leaves the transcoder, each with the message that the
body of its request begins with. -/

variable {Pool Descriptor Message Deserializer Channel PathAndQuery : Type u}

/-- The request has the path of a unary method of the pool. -/
structure NamesUnary (services : Services Pool Descriptor) (cfg : Config Pool) (req : Request)
    (method : MethodDescriptor Descriptor) : Prop where
  post : req.method = "POST"
  route : ∃ service methods, services.get_service_by_name cfg.pool service = some methods ∧
    method ∈ methods ∧ req.path = "/" ++ service ++ "/" ++ method.name
  one_request : method.is_client_streaming = false
  one_response : method.is_server_streaming = false

/-- The body is one JSON value, and that value a message of the type. -/
def Deserialises (reader : Reader Descriptor Message Deserializer) (input : Descriptor)
    (body : Bytes) (message : Message) : Prop :=
  ∃ text rest, String.fromUTF8? ⟨body.toArray⟩ = some text ∧
    reader.deserialize input (reader.from_str text) = .ok (message, rest) ∧
    reader.end_ rest = .ok ()

/-- The request is a call of a unary method of the pool, and its body is an input of it. -/
structure CallsUnary (reader : Reader Descriptor Message Deserializer)
    (services : Services Pool Descriptor) (cfg : Config Pool) (req : Request)
    (method : MethodDescriptor Descriptor) (message : Message) : Prop where
  named : NamesUnary services cfg req method
  input : ∃ body, req.body = .ok body ∧ Deserialises reader method.input body message

/-- The text a body is read as. -/
def SpelledBy (body : Bytes) (text : String) : Prop :=
  (body = [] ∧ text = "{}") ∨ (body ≠ [] ∧ String.fromUTF8? ⟨body.toArray⟩ = some text)

/-- What a body is taken for: the message that its text begins with. -/
def TakenFor (reader : Reader Descriptor Message Deserializer) (input : Descriptor)
    (body : Bytes) (message : Message) (rest : Deserializer) : Prop :=
  ∃ text, SpelledBy body text ∧
    reader.deserialize input (reader.from_str text) = .ok (message, rest)

/-- The request has the path of a unary method, and its body is taken for the message. -/
structure PassedAs (reader : Reader Descriptor Message Deserializer)
    (services : Services Pool Descriptor) (cfg : Config Pool) (req : Request)
    (method : MethodDescriptor Descriptor) (message : Message) : Prop where
  named : NamesUnary services cfg req method
  input : ∃ body rest, req.body = .ok body ∧ TakenFor reader method.input body message rest

/-- The names of a pool are identifiers, and a service has one method of a name. -/
def WellNamed (services : Services Pool Descriptor) (pool : Pool) : Prop :=
  ∀ service methods, services.get_service_by_name pool service = some methods →
    service ≠ "" ∧ '/' ∉ service.toList ∧ (methods.map (·.name)).Nodup ∧
      ∀ method ∈ methods, method.name ≠ "" ∧ '/' ∉ method.name.toList

theorem jsonText_of_spelled {body : Bytes} {text : String} (spelled : SpelledBy body text) :
    jsonText body = text ∧ text ≠ "" := by
  rcases spelled with ⟨empty, same⟩ | ⟨nonempty, read⟩
  · constructor
    · rw [jsonText, if_pos empty, same]
    · rw [same]
      decide
  · constructor
    · rw [jsonText, if_neg nonempty, read, Option.getD_some]
    · rintro rfl
      exact nonempty (fromUTF8_iff.mp read)

theorem spelled_of_jsonText {body : Bytes} (nonempty : jsonText body ≠ "") :
    SpelledBy body (jsonText body) := by
  by_cases empty : body = []
  · left
    exact ⟨empty, if_pos empty⟩
  · right
    rw [jsonText, if_neg empty] at nonempty ⊢
    cases read : String.fromUTF8? ⟨body.toArray⟩ with
    | none =>
        rw [read] at nonempty
        exact absurd rfl nonempty
    | some text => exact ⟨empty, rfl⟩

theorem find_of_nodup {methods : List (MethodDescriptor Descriptor)}
    {method : MethodDescriptor Descriptor} (unique : (methods.map (·.name)).Nodup)
    (member : method ∈ methods) :
    (methods.find? fun m => m.name == method.name) = some method := by
  induction methods with
  | nil => cases member
  | cons head rest induction =>
      rw [List.map_cons, List.nodup_cons] at unique
      rw [List.find?_cons]
      rcases List.mem_cons.mp member with rfl | later
      · simp only [beq_self_eq_true]
      · have named : method.name ∈ rest.map (·.name) := List.mem_map_of_mem later
        have different : (head.name == method.name) = false :=
          beq_false_of_ne fun same => unique.1 (same ▸ named)
        simp only [different]
        exact induction unique.2 later

section

variable {lib : Libraries Pool Descriptor Message}
  {reader : Reader Descriptor Message Deserializer} {services : Services Pool Descriptor}
  {net : Upstream Channel PathAndQuery} {cfg : Config Pool} {req : Request}
  {method : MethodDescriptor Descriptor} {message : Message} {body : Bytes}
  {rest : Deserializer}

/-- Where the names are identifiers, a path leads to one method only. -/
theorem NamesUnary.routed (named : WellNamed services cfg.pool)
    (names : NamesUnary services cfg req method) : RoutedTo services cfg req method := by
  rcases names.route with ⟨service, methods, found, member, path⟩
  rcases named service methods found with ⟨service_ne, _, unique, identifiers⟩
  rcases identifiers method member with ⟨method_ne, noSlash⟩
  constructor
  · exact names.post
  · have split : split_path req.path = some (service, method.name) :=
      split_path_iff.mpr ⟨path, service_ne, method_ne, noSlash⟩
    exact ⟨service, method.name, methods, split, found, find_of_nodup unique member⟩
  · rw [names.one_request, names.one_response]
    rfl

theorem RoutedTo.names (routed : RoutedTo services cfg req method) :
    NamesUnary services cfg req method := by
  rcases routed with ⟨post, ⟨service_name, method_name, methods, split, service, found⟩, unary⟩
  have named : method.name = method_name := by
    have matched := List.find?_some found
    exact eq_of_beq matched
  have path := (split_path_iff.mp split).1
  rw [Bool.or_eq_false_iff] at unary
  exact ⟨post, ⟨service_name, methods, service, List.mem_of_find?_eq_some found, named ▸ path⟩,
    unary.1, unary.2⟩

/-- A request is routed to one method. -/
theorem RoutedTo.unique {other : MethodDescriptor Descriptor}
    (routed : RoutedTo services cfg req method) (again : RoutedTo services cfg req other) :
    method = other := by
  rcases routed.found with ⟨service, name, methods, split, known, found⟩
  rcases again.found with ⟨service', name', methods', split', known', found'⟩
  cases split.symm.trans split'
  cases known.symm.trans known'
  exact Option.some.inj (found.symm.trans found')

/-- An input that is one value is taken for what it is. -/
theorem Deserialises.takenFor (input : Deserialises reader method.input body message)
    (nonempty : body ≠ []) :
    ∃ rest, TakenFor reader method.input body message rest ∧ reader.end_ rest = .ok () := by
  rcases input with ⟨text, rest, spelled, read, ended⟩
  exact ⟨rest, ⟨text, .inr ⟨nonempty, spelled⟩, read⟩, ended⟩

theorem TakenFor.deserialises (taken : TakenFor reader method.input body message rest)
    (nonempty : body ≠ []) (ended : reader.end_ rest = .ok ()) :
    Deserialises reader method.input body message := by
  rcases taken with ⟨text, ⟨empty, _⟩ | ⟨_, spelled⟩, read⟩
  · exact absurd empty nonempty
  · exact ⟨text, rest, spelled, read, ended⟩

/-! ## One request -/

/-- Answered without a call, as a request that cannot be passed on. -/
def Refused (served : Traced PathAndQuery Response) : Prop :=
  served.calls = [] ∧ served.answer.status ∈ [400, 404, 405, 501]

theorem transcode_of_taken (taken : TakenFor reader method.input body message rest)
    (path : String) :
    transcode lib reader services net cfg method path body =
      (call_unary_bytes net cfg.upstream path (reader.encode_to_vec message)
        cfg.timeout_ms).map fun called =>
          replyResponse lib services method.output called.1 called.2.1 called.2.2 := by
  rcases taken with ⟨text, spelled, read⟩
  rcases jsonText_of_spelled spelled with ⟨same, nonempty⟩
  exact transcode_of_read same nonempty read path

theorem serve_one_of_taken (routed : RoutedTo services cfg req method)
    (body_read : req.body = .ok body)
    (taken : TakenFor reader method.input body message rest) :
    serve_one lib reader services net cfg req =
      (call_unary_bytes net cfg.upstream req.path (reader.encode_to_vec message)
        cfg.timeout_ms).map fun called =>
          replyResponse lib services method.output called.1 called.2.1 called.2.2 := by
  rw [serve_one_of_routed routed body_read, transcode_of_taken taken]

theorem transcode_cases (path : String) (body : Bytes) :
    Refused (transcode lib reader services net cfg method path body) ∨
      ∃ message rest, TakenFor reader method.input body message rest := by
  by_cases empty : jsonText body = ""
  · left
    simp [Refused, transcode, empty, json_error]
  · cases read : reader.deserialize method.input (reader.from_str (jsonText body)) with
    | error e =>
        left
        have refused : (transcode lib reader services net cfg method path body).calls = [] ∧
            (transcode lib reader services net cfg method path body).answer.status = 400 :=
          transcode_refused rfl empty read
        simp [Refused, refused]
    | ok found =>
        right
        exact ⟨found.1, found.2, jsonText body, spelled_of_jsonText empty, read⟩

/-- What is not refused at once has been routed to a unary method, and its body read. -/
theorem serve_one_cases (lib : Libraries Pool Descriptor Message)
    (reader : Reader Descriptor Message Deserializer) (services : Services Pool Descriptor)
    (net : Upstream Channel PathAndQuery) (cfg : Config Pool) (req : Request) :
    Refused (serve_one lib reader services net cfg req) ∨
      ∃ method body, RoutedTo services cfg req method ∧ req.body = .ok body := by
  by_cases post : req.method = "POST"
  · cases split : split_path req.path with
    | none =>
        left
        simp [Refused, serve_one, post, split, json_error]
    | some names =>
        cases service : services.get_service_by_name cfg.pool names.1 with
        | none =>
            left
            simp [Refused, serve_one, post, split, service, json_error]
        | some methods =>
            cases found : methods.find? fun m => m.name == names.2 with
            | none =>
                left
                simp [Refused, serve_one, post, split, service, found, json_error]
            | some method =>
                cases unary : method.is_client_streaming || method.is_server_streaming with
                | true =>
                    left
                    simp [Refused, serve_one, post, split, service, found, unary,
                      json_error]
                | false =>
                    cases read : req.body with
                    | error e =>
                        left
                        simp [Refused, serve_one, post, split, service, found, unary,
                          read, json_error]
                    | ok body =>
                        right
                        have routed : RoutedTo services cfg req method :=
                          ⟨post, ⟨names.1, names.2, methods, split, service, found⟩, unary⟩
                        exact ⟨method, body, routed, rfl⟩
  · left
    simp [Refused, serve_one, post, json_error]

/-- A request is refused, or names a method and is passed on to it. -/
theorem serve_one_forwards (lib : Libraries Pool Descriptor Message)
    (reader : Reader Descriptor Message Deserializer) (services : Services Pool Descriptor)
    (net : Upstream Channel PathAndQuery) (cfg : Config Pool) (req : Request) :
    Refused (serve_one lib reader services net cfg req) ∨
      ∃ method body message rest, RoutedTo services cfg req method ∧ req.body = .ok body ∧
        TakenFor reader method.input body message rest ∧
        serve_one lib reader services net cfg req =
          (call_unary_bytes net cfg.upstream req.path (reader.encode_to_vec message)
            cfg.timeout_ms).map fun called =>
              replyResponse lib services method.output called.1 called.2.1 called.2.2 := by
  rcases serve_one_cases lib reader services net cfg req with
    refused | ⟨method, body, routed, body_read⟩
  · exact .inl refused
  · rcases transcode_cases req.path body with refused | ⟨message, rest, taken⟩
    · left
      rw [serve_one_of_routed routed body_read]
      exact refused
    · right
      exact ⟨method, body, message, rest, routed, body_read, taken,
        serve_one_of_taken routed body_read taken⟩

/-- What is passed on is refused exactly for its path. -/
theorem refused_of_passed {served : Traced PathAndQuery Response} {request : Bytes}
    {output : Descriptor}
    (passed : served = (call_unary_bytes net cfg.upstream req.path request cfg.timeout_ms).map
      fun called => replyResponse lib services output called.1 called.2.1 called.2.2) :
    Refused served ↔ (net.from_maybe_shared req.path).isOk = false := by
  rw [passed, Refused, Traced.calls_map, Traced.answer_map]
  rcases call_unary_bytes_cases net cfg.upstream req.path request cfg.timeout_ms with
    ⟨_, none, code⟩ | ⟨whole, channel, timeout, shared, _, _, one, _⟩
  · rw [status_of_unreached code, none]
    cases (net.from_maybe_shared req.path).isOk with
    | false => simp
    | true => simp
  · simp [one, shared, Except.isOk, Except.toBool]

end

/-- Nothing but the calls of unary methods leaves the transcoder. -/
structure ForwardsOnlyUnary (lib : Libraries Pool Descriptor Message)
    (reader : Reader Descriptor Message Deserializer) (services : Services Pool Descriptor)
    (net : Upstream Channel PathAndQuery) (cfg : Config Pool) (req : Request)
    (served : Traced PathAndQuery Response) : Prop where
  at_most_once : served.calls.length ≤ 1
  /-- a call has the path of the request and the encoding of its message, and its reply is
  decoded as the output of the same method -/
  of_unary : ∀ call ∈ served.calls, ∃ method message channel,
    CallsUnary reader services cfg req method message ∧
      net.from_maybe_shared req.path = .ok call.path ∧
      net.get_channel cfg.upstream = .ok channel ∧ call.endpoint = cfg.upstream ∧
      call.request = reader.encode_to_vec message ∧
      ∀ reply, net.unary channel call.timeout call.path call.request = .ok reply →
        served.answer = replyResponse lib services method.output reply 0 ""
  refused : (¬ ∃ method message, CallsUnary reader services cfg req method message) →
    Refused served
  /-- every call of a unary method is passed on -/
  passed_on : ∀ method message, CallsUnary reader services cfg req method message →
    served = (call_unary_bytes net cfg.upstream req.path (reader.encode_to_vec message)
      cfg.timeout_ms).map fun called =>
        replyResponse lib services method.output called.1 called.2.1 called.2.2

section

variable {lib : Libraries Pool Descriptor Message}
  {reader : Reader Descriptor Message Deserializer} {services : Services Pool Descriptor}
  {net : Upstream Channel PathAndQuery} {cfg : Config Pool} {req : Request}
  {method : MethodDescriptor Descriptor} {message : Message} {body : Bytes}
  {rest : Deserializer}

/-- Where the empty text is no message, a body that is one is not empty. -/
theorem Deserialises.ne_nil
    (noText : ∀ input, ∃ e, reader.deserialize input (reader.from_str "") = .error e)
    (isInput : Deserialises reader method.input body message) : body ≠ [] := by
  rcases isInput with ⟨text, rest, spelled, read, _⟩
  rintro rfl
  cases spelled
  rcases noText method.input with ⟨e, failed⟩
  cases failed.symm.trans read

/-- If only unary methods are called, a body that is passed on is one message. -/
theorem ForwardsOnlyUnary.whole (named : WellNamed services cfg.pool)
    (noText : ∀ input, ∃ e, reader.deserialize input (reader.from_str "") = .error e)
    (forwards : ForwardsOnlyUnary lib reader services net cfg req
      (serve_one lib reader services net cfg req))
    (routed : RoutedTo services cfg req method) (body_read : req.body = .ok body)
    (taken : TakenFor reader method.input body message rest)
    (path : (net.from_maybe_shared req.path).isOk) : body ≠ [] ∧ reader.end_ rest = .ok () := by
  have called : ∃ other input, CallsUnary reader services cfg req other input := by
    by_contra none
    have refused := (refused_of_passed (serve_one_of_taken routed body_read taken)).mp
      (forwards.refused none)
    rw [refused] at path
    cases path
  rcases called with ⟨other, input, names, body', body_read', deserialises⟩
  cases Except.ok.inj (body_read.symm.trans body_read')
  cases (names.routed named).unique routed
  have nonempty := deserialises.ne_nil noText
  rcases deserialises with ⟨text, last, spelled, read, ended⟩
  rcases taken with ⟨text', ⟨empty, _⟩ | ⟨_, spelled'⟩, read'⟩
  · exact absurd empty nonempty
  · cases Option.some.inj (spelled.symm.trans spelled')
    cases read.symm.trans read'
    exact ⟨nonempty, ended⟩

/-- A call is made for a body that begins with a message of the routed method. -/
theorem serve_one_call {call : UpstreamCall PathAndQuery}
    (made : call ∈ (serve_one lib reader services net cfg req).calls) :
    ∃ method body message rest channel, RoutedTo services cfg req method ∧
      req.body = .ok body ∧ TakenFor reader method.input body message rest ∧
      net.from_maybe_shared req.path = .ok call.path ∧
      net.get_channel cfg.upstream = .ok channel ∧ call.endpoint = cfg.upstream ∧
      call.request = reader.encode_to_vec message ∧
      ∀ reply, net.unary channel call.timeout call.path call.request = .ok reply →
        (serve_one lib reader services net cfg req).answer =
          replyResponse lib services method.output reply 0 "" := by
  rcases serve_one_forwards lib reader services net cfg req with
    ⟨none, _⟩ | ⟨method, body, message, rest, routed, body_read, taken, served⟩
  · rw [none] at made
    cases made
  · rw [served, Traced.calls_map] at made
    rcases call_unary_bytes_of_call made with
      ⟨channel, shared, connected, endpoint, request, answer⟩
    refine ⟨method, body, message, rest, channel, routed, body_read, taken, shared, connected,
      endpoint, request, ?_⟩
    intro reply replied
    rw [request] at replied
    rw [served, Traced.answer_map, answer, replied]

theorem serve_one_at_most_once :
    (serve_one lib reader services net cfg req).calls.length ≤ 1 := by
  rcases serve_one_forwards lib reader services net cfg req with
    ⟨none, _⟩ | ⟨method, body, message, rest, _, _, _, served⟩
  · rw [none]
    exact Nat.zero_le 1
  · rw [served, Traced.calls_map]
    exact call_unary_bytes_calls_length _ _ _ _ _

end

/-- Only unary methods are called, with a body that is one message, exactly if a body that is
passed on is not empty, and nothing follows the message that it begins with. -/
theorem forwards_only_unary_iff (lib : Libraries Pool Descriptor Message)
    (reader : Reader Descriptor Message Deserializer) (services : Services Pool Descriptor)
    (net : Upstream Channel PathAndQuery) (cfg : Config Pool) (req : Request)
    (named : WellNamed services cfg.pool)
    (noText : ∀ input, ∃ e, reader.deserialize input (reader.from_str "") = .error e) :
    ForwardsOnlyUnary lib reader services net cfg req
        (serve_one lib reader services net cfg req) ↔
      ∀ method body message rest, RoutedTo services cfg req method → req.body = .ok body →
        TakenFor reader method.input body message rest →
        (net.from_maybe_shared req.path).isOk → body ≠ [] ∧ reader.end_ rest = .ok () := by
  constructor
  · intro forwards method body message rest routed body_read taken path
    exact forwards.whole named noText routed body_read taken path
  · intro whole
    have calls : ∀ {method body message rest}, RoutedTo services cfg req method →
        req.body = .ok body → TakenFor reader method.input body message rest →
        (net.from_maybe_shared req.path).isOk →
        CallsUnary reader services cfg req method message := by
      intro method body message rest routed body_read taken path
      rcases whole method body message rest routed body_read taken path with ⟨nonempty, ended⟩
      exact ⟨routed.names, body, body_read, taken.deserialises nonempty ended⟩
    constructor
    · exact serve_one_at_most_once
    · intro call made
      rcases serve_one_call made with
        ⟨method, body, message, rest, channel, routed, body_read, taken, shared, known⟩
      have path : (net.from_maybe_shared req.path).isOk := by
        rw [shared]
        rfl
      exact ⟨method, message, channel, calls routed body_read taken path, shared, known⟩
    · intro none
      rcases serve_one_forwards lib reader services net cfg req with
        refused | ⟨method, body, message, rest, routed, body_read, taken, served⟩
      · exact refused
      · rw [refused_of_passed served]
        by_contra path
        exact none ⟨method, message, calls routed body_read taken (Bool.not_eq_false _ ▸ path)⟩
    · intro method message isCall
      rcases isCall.input with ⟨body, body_read, deserialises⟩
      rcases deserialises.takenFor (deserialises.ne_nil noText) with ⟨rest, taken, _⟩
      exact serve_one_of_taken (isCall.named.routed named) body_read taken

theorem pings_well_named : WellNamed pingServices () := by
  intro service methods found
  simp only [pingServices] at found
  split at found
  · rename_i same
    cases found
    rw [same]
    decide
  · cases found

/-- A call of `Ping` reaches the upstream. -/
theorem ping_forwarded :
    ForwardsOnlyUnary pings pingReader pingServices pingUpstream pingConfig (ping "{}")
        (serve_one pings pingReader pingServices pingUpstream pingConfig (ping "{}")) ∧
      (serve_one pings pingReader pingServices pingUpstream pingConfig (ping "{}")).calls =
        [{ endpoint := "http://127.0.0.1:9091", timeout := none, path := (), request := [] }] := by
  have spelled : SpelledBy (cstr "{}") "{}" := .inr ⟨by decide, fromUTF8_cstr "{}"⟩
  have noText : ∀ input, ∃ e,
      pingReader.deserialize input (pingReader.from_str "") = .error e := fun _ => ⟨_, rfl⟩
  constructor
  · rw [forwards_only_unary_iff pings pingReader pingServices pingUpstream pingConfig (ping "{}")
      pings_well_named noText]
    intro method body message rest routed body_read taken _
    cases body_read
    rcases taken with ⟨text, ⟨empty, _⟩ | ⟨nonempty, same⟩, read⟩
    · exact absurd empty (cstr_ne_nil (by decide))
    · cases (fromUTF8_cstr "{}").symm.trans same
      cases read
      exact ⟨nonempty, rfl⟩
  · rw [serve_one_of_routed (ping_routed "{}") rfl,
      transcode_of_taken ⟨"{}", spelled, rfl⟩]
    rfl

/-- The text after the message is not looked at. -/
theorem trailing_text_reaches_upstream :
    ¬ ForwardsOnlyUnary pings pingReader pingServices pingUpstream pingConfig (ping "{} x")
      (serve_one pings pingReader pingServices pingUpstream pingConfig (ping "{} x")) := by
  intro forwards
  have made : (⟨"http://127.0.0.1:9091", none, (), []⟩ : UpstreamCall Unit) ∈
      (serve_one pings pingReader pingServices pingUpstream pingConfig (ping "{} x")).calls := by
    have spelled : SpelledBy (cstr "{} x") "{} x" := .inr ⟨by decide, fromUTF8_cstr "{} x"⟩
    rw [serve_one_of_routed (ping_routed "{} x") rfl,
      transcode_of_taken ⟨"{} x", spelled, rfl⟩]
    exact List.mem_singleton_self _
  rcases forwards.of_unary _ made with ⟨method, message, _, calls, _⟩
  rcases calls.input with ⟨body, body_read, text, rest, same, read, ended⟩
  cases body_read
  cases (fromUTF8_cstr "{} x").symm.trans same
  cases read
  cases ended

end Zpr.Transcode
