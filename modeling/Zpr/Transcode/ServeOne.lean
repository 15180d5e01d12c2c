import Zpr.Protobuf.JsonMessage

namespace Zpr.Transcode

open Ffi Json Protobuf

/-! # The transcoder

One request is routed by the descriptor set, turned into a message, passed on, and its
reply turned into JSON. hyper, prost-reflect, serde_json and tonic come from the
outside. -/

variable {Pool Descriptor Message Deserializer Channel PathAndQuery : Type u}

structure MethodDescriptor (Descriptor : Type u) where
  name : String
  input : Descriptor
  output : Descriptor
  is_client_streaming : Bool
  is_server_streaming : Bool

/-- How the descriptor set is asked for more than its messages. -/
structure Services (Pool Descriptor : Type u) where
  /-- `get_service_by_name`, with the methods of the service -/
  get_service_by_name : Pool → String → Option (List (MethodDescriptor Descriptor))
  full_name : Descriptor → String

/-- What a channel and its call answer. -/
structure Upstream (Channel PathAndQuery : Type u) where
  from_maybe_shared : String → Except String PathAndQuery
  get_channel : String → Except String Channel
  ready : Channel → Except String Unit
  /-- the call with its timeout in milliseconds; a refusal is a status and its message -/
  unary : Channel → Option Nat → PathAndQuery → Bytes → Except (Int × String) Bytes
  /-- a text as `{:?}` formats it -/
  debug : String → String

structure Config (Pool : Type u) where
  pool : Pool
  upstream : String
  timeout_ms : UInt32

structure Request where
  method : String
  path : String
  /-- the whole body, or the error that ended it -/
  body : Except String Bytes

structure Response where
  status : Nat
  content_type : String
  body : String
  deriving DecidableEq, Repr

/-! ## The calls that leave the process -/

/-- A unary call that a channel has been given. -/
structure UpstreamCall (PathAndQuery : Type u) where
  endpoint : String
  timeout : Option Nat
  path : PathAndQuery
  request : Bytes

/-- An answer, with the calls made on the way to it. -/
structure Traced (PathAndQuery : Type u) (Answer : Type v) where
  answer : Answer
  calls : List (UpstreamCall PathAndQuery)

namespace Traced

variable {Answer : Type v} {Result : Type w}

/-- An answer that needed no call. -/
def pure (answer : Answer) : Traced PathAndQuery Answer := ⟨answer, []⟩

def bind (first : Traced PathAndQuery Answer) (next : Answer → Traced PathAndQuery Result) :
    Traced PathAndQuery Result :=
  ⟨(next first.answer).answer, first.calls ++ (next first.answer).calls⟩

def map (change : Answer → Result) (first : Traced PathAndQuery Answer) :
    Traced PathAndQuery Result :=
  first.bind fun answer => pure (change answer)

@[simp] theorem answer_pure (answer : Answer) :
    (pure answer : Traced PathAndQuery Answer).answer = answer := rfl

@[simp] theorem calls_pure (answer : Answer) :
    (pure answer : Traced PathAndQuery Answer).calls = [] := rfl

@[simp] theorem answer_map (change : Answer → Result) (first : Traced PathAndQuery Answer) :
    (first.map change).answer = change first.answer := rfl

@[simp] theorem calls_map (change : Answer → Result) (first : Traced PathAndQuery Answer) :
    (first.map change).calls = first.calls :=
  List.append_nil _

end Traced

/-! ## The pieces -/

/-- `str::rsplit_once('/')` -/
def rsplit_once : List Char → Option (List Char × List Char)
  | [] => none
  | c :: rest =>
      match rsplit_once rest with
      | some (before, after) => some (c :: before, after)
      | none => if c = '/' then some ([], rest) else none

theorem not_mem_of_rsplit_once {text : List Char} (unsplit : rsplit_once text = none) :
    '/' ∉ text := by
  induction text with
  | nil => exact List.not_mem_nil
  | cons c rest induction =>
      rw [rsplit_once] at unsplit
      cases split : rsplit_once rest with
      | some halves =>
          rw [split] at unsplit
          cases unsplit
      | none =>
          rw [split] at unsplit
          by_cases slash : c = '/'
          · simp [slash] at unsplit
          · rw [List.mem_cons]
            rintro (same | member)
            · exact slash same.symm
            · exact induction split member

/-- The text is split at the last slash. -/
theorem rsplit_once_iff {text before after : List Char} :
    rsplit_once text = some (before, after) ↔ text = before ++ '/' :: after ∧ '/' ∉ after := by
  induction text generalizing before after with
  | nil => simp [rsplit_once]
  | cons c rest induction =>
      rw [rsplit_once]
      cases split : rsplit_once rest with
      | none =>
          have noSlash := not_mem_of_rsplit_once split
          cases before with
          | nil =>
              by_cases slash : c = '/'
              · simp only [slash, if_true, Option.some.injEq, Prod.mk.injEq, true_and,
                  List.nil_append, List.cons.injEq]
                exact ⟨fun same => ⟨same, same ▸ noSlash⟩, fun same => same.1⟩
              · simp [slash]
          | cons first before =>
              constructor
              · intro found
                by_cases slash : c = '/' <;> simp [slash] at found
              · rintro ⟨same, _⟩
                cases List.cons.inj same with
                | intro _ same => simp [same] at noSlash
      | some halves =>
          rcases halves with ⟨start, last⟩
          cases before with
          | nil =>
              rcases induction.mp split with ⟨same, _⟩
              constructor
              · intro found
                simp at found
              · rintro ⟨all, noSlash⟩
                cases List.cons.inj all with
                | intro _ all => simp [← all, same] at noSlash
          | cons first before =>
              have here : rsplit_once rest = some (before, after) ↔ _ := induction
              rw [split] at here
              simp only [Option.some.injEq, Prod.mk.injEq] at here
              simp only [Option.some.injEq, Prod.mk.injEq, List.cons.injEq, List.cons_append,
                and_assoc]
              rw [here]

/-- Splits `/package.Service/Method` into its two halves. -/
def split_path (path : String) : Option (String × String) :=
  match path.toList with
  | '/' :: rest =>
      match rsplit_once rest with
      | none => none
      | some (service, method) =>
          if service = [] ∨ method = [] then none
          else some (String.ofList service, String.ofList method)
  | _ => none

/-- The second half has no slash, and both halves have something. -/
theorem split_path_iff {path service method : String} :
    split_path path = some (service, method) ↔
      path = "/" ++ service ++ "/" ++ method ∧ service ≠ "" ∧ method ≠ "" ∧
        '/' ∉ method.toList := by
  have whole : path = "/" ++ service ++ "/" ++ method ↔
      path.toList = '/' :: (service.toList ++ '/' :: method.toList) := by
    rw [← String.toList_inj]
    simp
  rw [whole, split_path]
  split
  · rename_i rest chars
    rw [chars, List.cons.injEq]
    cases split : rsplit_once rest with
    | none =>
        have noSlash := not_mem_of_rsplit_once split
        simp only [reduceCtorEq, false_iff]
        rintro ⟨⟨_, rfl⟩, _⟩
        simp at noSlash
    | some halves =>
        rcases halves with ⟨first, last⟩
        have parts := rsplit_once_iff.mp split
        constructor
        · intro found
          by_cases empty : first = [] ∨ last = []
          · simp [empty] at found
          · simp only [empty, if_false, Option.some.injEq, Prod.mk.injEq] at found
            rcases found with ⟨rfl, rfl⟩
            rw [not_or] at empty
            simpa [← String.toList_inj, empty] using parts
        · rintro ⟨⟨_, same⟩, first_ne, last_ne, noSlash⟩
          have again := (rsplit_once_iff.mpr ⟨same, noSlash⟩).symm.trans split
          cases again
          simp [first_ne, last_ne]
  · rename_i noSlash
    simp only [reduceCtorEq, false_iff]
    rintro ⟨same, _⟩
    exact noSlash _ same

def json_error (to_string : Value → String) (status : Nat) (msg : String) : Response where
  status := status
  content_type := "application/json"
  body := to_string (.Object [("code", .Number (.PosInt status)), ("message", .String msg)])

def http_status_for_grpc (code : Int) : Nat :=
  match code with
  | 0 => 200
  | 3 => 400
  | 5 => 404
  | 7 => 403
  | 16 => 401
  | 8 => 429
  | 12 => 501
  | 14 => 503
  | 4 => 504
  | _ => 500

/-- `client.unary` on a channel that is ready. -/
def Upstream.call (net : Upstream Channel PathAndQuery) (endpoint : String) (channel : Channel)
    (timeout : Option Nat) (path : PathAndQuery) (request : Bytes) :
    Traced PathAndQuery (Except (Int × String) Bytes) :=
  ⟨net.unary channel timeout path request, [⟨endpoint, timeout, path, request⟩]⟩

/-- The reply, the status of the call and its message. -/
def call_unary_bytes (net : Upstream Channel PathAndQuery) (endpoint path : String)
    (request : Bytes) (timeout_ms : UInt32) : Traced PathAndQuery (Bytes × Int × String) :=
  match net.from_maybe_shared path with
  | .error e => .pure ([], 3, s!"bad method path: {e}")
  | .ok path =>
      match net.get_channel endpoint with
      | .error e => .pure ([], 14, e)
      | .ok channel =>
          match net.ready channel with
          | .error e =>
              .pure ([], 14, s!"gRPC transport not ready for {net.debug endpoint}: {e}")
          | .ok () =>
              let timeout := if timeout_ms > 0 then some timeout_ms.toNat else none
              (net.call endpoint channel timeout path request).map fun
                | .ok reply => (reply, 0, "")
                | .error (code, message) => ([], code, message)

/-- The path is one of a request, and there is a channel that is ready. -/
def Upstream.Reached (net : Upstream Channel PathAndQuery) (endpoint path : String) : Prop :=
  ∃ whole channel, net.from_maybe_shared path = .ok whole ∧
    net.get_channel endpoint = .ok channel ∧ net.ready channel = .ok ()

/-- Where the upstream is not reached, nothing is sent, and the answer is 3 for the path and
14 for the channel. -/
theorem call_unary_bytes_cases (net : Upstream Channel PathAndQuery) (endpoint path : String)
    (request : Bytes) (timeout_ms : UInt32) :
    let called := call_unary_bytes net endpoint path request timeout_ms
    (¬ net.Reached endpoint path ∧ called.calls = [] ∧
        called.answer.2.1 = if (net.from_maybe_shared path).isOk then 14 else 3) ∨
      ∃ whole channel timeout, net.from_maybe_shared path = .ok whole ∧
        net.get_channel endpoint = .ok channel ∧ net.ready channel = .ok () ∧
        called.calls = [⟨endpoint, timeout, whole, request⟩] ∧
        called.answer = match net.unary channel timeout whole request with
          | .ok reply => (reply, 0, "")
          | .error (code, message) => ([], code, message) := by
  intro called
  dsimp only [called]
  rw [call_unary_bytes]
  cases shared : net.from_maybe_shared path with
  | error e =>
      left
      refine ⟨?_, rfl, rfl⟩
      rintro ⟨whole, channel, same, _⟩
      cases shared.symm.trans same
  | ok whole =>
      cases connected : net.get_channel endpoint with
      | error e =>
          left
          refine ⟨?_, rfl, rfl⟩
          rintro ⟨_, channel, _, same, _⟩
          cases connected.symm.trans same
      | ok channel =>
          cases ready : net.ready channel with
          | error e =>
              left
              refine ⟨?_, by simp only [ready, Traced.calls_pure], by simp [ready, Except.isOk,
                Except.toBool]⟩
              rintro ⟨_, other, _, same, isReady⟩
              cases connected.symm.trans same
              cases ready.symm.trans isReady
          | ok done =>
              right
              simp only [ready]
              exact ⟨whole, channel, _, rfl, rfl, ready, Traced.calls_map _ _, rfl⟩

theorem call_unary_bytes_calls_length (net : Upstream Channel PathAndQuery)
    (endpoint path : String) (request : Bytes) (timeout_ms : UInt32) :
    (call_unary_bytes net endpoint path request timeout_ms).calls.length ≤ 1 := by
  rcases call_unary_bytes_cases net endpoint path request timeout_ms with
    ⟨_, none, _⟩ | ⟨_, _, _, _, _, _, one, _⟩
  · rw [none]
    exact Nat.zero_le 1
  · rw [one]
    exact Nat.le_refl 1

/-- There is a call only where there is a channel, and what it answers is what comes
back. -/
theorem call_unary_bytes_of_call {net : Upstream Channel PathAndQuery} {endpoint path : String}
    {request : Bytes} {timeout_ms : UInt32} {call : UpstreamCall PathAndQuery}
    (made : call ∈ (call_unary_bytes net endpoint path request timeout_ms).calls) :
    ∃ channel, net.from_maybe_shared path = .ok call.path ∧
      net.get_channel endpoint = .ok channel ∧ call.endpoint = endpoint ∧ call.request = request ∧
      (call_unary_bytes net endpoint path request timeout_ms).answer =
        match net.unary channel call.timeout call.path request with
        | .ok reply => (reply, 0, "")
        | .error (code, message) => ([], code, message) := by
  rcases call_unary_bytes_cases net endpoint path request timeout_ms with
    ⟨_, none, _⟩ | ⟨whole, channel, timeout, shared, connected, _, one, answer⟩
  · rw [none] at made
    cases made
  · rw [one, List.mem_singleton] at made
    cases made
    exact ⟨channel, shared, connected, rfl, rfl, answer⟩

/-- What the JSON is read from. An empty body means a message without fields. -/
def jsonText (body : Bytes) : String :=
  if body = [] then "{}" else (String.fromUTF8? ⟨body.toArray⟩).getD ""

/-! ## One request -/

section

variable (lib : Libraries Pool Descriptor Message)
  (reader : Reader Descriptor Message Deserializer) (services : Services Pool Descriptor)
  (net : Upstream Channel PathAndQuery) (cfg : Config Pool)

/-- The reply of the call becomes the response. -/
def replyResponse (output : Descriptor) (reply : Bytes) (grpc_status : Int) (err : String) :
    Response :=
  if grpc_status ≠ 0 then
    json_error lib.to_string (http_status_for_grpc grpc_status) err
  else
    match lib.decode output reply with
    | .error e =>
        json_error lib.to_string 502
          s!"upstream reply is not a {services.full_name output}: {e}"
    | .ok reply_msg =>
        match lib.render reply_msg with
        | .error e =>
            json_error lib.to_string 500 s!"could not render the reply as JSON: {e}"
        | .ok rendering =>
            { status := 200, content_type := "application/json"
              body := lib.write { stringify_64_bit_integers := false } rendering }

/-- A call of `method` whose body has been read. -/
def transcode (method : MethodDescriptor Descriptor) (path : String) (body : Bytes) :
    Traced PathAndQuery Response :=
  let refuse (status : Nat) (msg : String) : Traced PathAndQuery Response :=
    .pure (json_error lib.to_string status msg)
  let json_text := jsonText body
  if json_text = "" then
    refuse 400 "request body is not valid UTF-8"
  else
    match reader.deserialize method.input (reader.from_str json_text) with
    | .error e =>
        refuse 400 s!"request JSON does not match {services.full_name method.input}: {e}"
    | .ok (request_msg, _) =>
        -- what the deserializer has left is not looked at
        (call_unary_bytes net cfg.upstream path (reader.encode_to_vec request_msg)
          cfg.timeout_ms).map fun (reply, grpc_status, err) =>
            replyResponse lib services method.output reply grpc_status err

def serve_one (req : Request) : Traced PathAndQuery Response :=
  let refuse (status : Nat) (msg : String) : Traced PathAndQuery Response :=
    .pure (json_error lib.to_string status msg)
  if req.method ≠ "POST" then
    refuse 405 "this surface takes POST /package.Service/Method"
  else
    match split_path req.path with
    | none => refuse 404 "path must be /package.Service/Method"
    | some (service_name, method_name) =>
        match services.get_service_by_name cfg.pool service_name with
        | none => refuse 404 s!"no service {lib.debug service_name} in the descriptor set"
        | some methods =>
            match methods.find? fun m => m.name == method_name with
            | none =>
                refuse 404 s!"service {lib.debug service_name} has no method {lib.debug method_name}"
            | some method =>
                if method.is_client_streaming || method.is_server_streaming then
                  refuse 501 (s!"{lib.debug method_name} is a streaming method; " ++
                    "this surface transcodes unary calls only")
                else
                  match req.body with
                  | .error e => refuse 400 s!"could not read the request body: {e}"
                  | .ok body => transcode lib reader services net cfg method req.path body

end

/-! ## What is accepted -/

/-- The request is a call of a unary method. -/
structure RoutedTo (services : Services Pool Descriptor) (cfg : Config Pool) (req : Request)
    (method : MethodDescriptor Descriptor) : Prop where
  post : req.method = "POST"
  found : ∃ service_name method_name methods,
    split_path req.path = some (service_name, method_name) ∧
      services.get_service_by_name cfg.pool service_name = some methods ∧
      methods.find? (fun m => m.name == method_name) = some method
  unary : (method.is_client_streaming || method.is_server_streaming) = false

section

variable {lib : Libraries Pool Descriptor Message}
  {reader : Reader Descriptor Message Deserializer} {services : Services Pool Descriptor}
  {net : Upstream Channel PathAndQuery} {cfg : Config Pool} {req : Request}
  {method : MethodDescriptor Descriptor} {text : String}

theorem serve_one_of_routed (routed : RoutedTo services cfg req method)
    (read : req.body = .ok body) :
    serve_one lib reader services net cfg req =
      transcode lib reader services net cfg method req.path body := by
  rcases routed with ⟨post, ⟨service_name, method_name, methods, split, service, found⟩, unary⟩
  simp only [serve_one, post, split, service, found, unary, read, ne_eq, not_true_eq_false,
    if_false, Bool.false_eq_true]

theorem jsonText_cstr (nonempty : text ≠ "") : jsonText (cstr text) = text := by
  rw [jsonText, if_neg (cstr_ne_nil nonempty), fromUTF8_cstr]
  rfl

/-- A text that begins with a message is passed on, whatever follows. -/
theorem transcode_of_read {body : Bytes} {rest : Deserializer}
    (spelled : jsonText body = text) (nonempty : text ≠ "")
    (read : reader.deserialize method.input (reader.from_str text) = .ok (message, rest))
    (path : String) :
    transcode lib reader services net cfg method path body =
      (call_unary_bytes net cfg.upstream path (reader.encode_to_vec message)
        cfg.timeout_ms).map fun called =>
          replyResponse lib services method.output called.1 called.2.1 called.2.2 := by
  simp only [transcode, spelled, if_neg nonempty, read]

theorem transcode_refused {body : Bytes} (spelled : jsonText body = text) (nonempty : text ≠ "")
    (failed : reader.deserialize method.input (reader.from_str text) = .error e) :
    (transcode lib reader services net cfg method path body).calls = [] ∧
      (transcode lib reader services net cfg method path body).answer.status = 400 := by
  simp only [transcode, spelled, if_neg nonempty, failed, json_error]
  exact ⟨rfl, rfl⟩

/-- The response to a call that is not made is 400 for a bad path, and 503 otherwise. -/
theorem status_of_unreached {pathIsGood : Bool} {reply : Bytes × Int × String}
    (unreached : reply.2.1 = if pathIsGood then 14 else 3) (output : Descriptor) :
    (replyResponse lib services output reply.1 reply.2.1 reply.2.2).status =
      if pathIsGood then 503 else 400 := by
  cases pathIsGood with
  | false =>
      simp only [Bool.false_eq_true, if_false] at unreached ⊢
      rw [unreached]
      rfl
  | true =>
      simp only [if_true] at unreached ⊢
      rw [unreached]
      rfl

end

/-- The transcoder sends what the library makes of the text, where it can, and refuses the
text where the library does. -/
structure SameLanguage (lib : Libraries Pool Descriptor Message)
    (reader : Reader Descriptor Message Deserializer) (services : Services Pool Descriptor)
    (net : Upstream Channel PathAndQuery) (cfg : Config Pool) (req : Request)
    (method : MethodDescriptor Descriptor) (text : String) : Prop where
  forwarded : ∀ bytes,
    (∃ call ∈ (serve_one lib reader services net cfg req).calls, call.request = bytes) ↔
      net.Reached cfg.upstream req.path ∧
        zpr_protobuf_json_to_binary lib reader (some cfg.pool)
          (some (cstr (services.full_name method.input))) (some (cstr text)) .valid =
          { rc := ZPR_OK, out := some bytes, last_error := none }
  /-- a text that the library takes is not refused, be the upstream reached or not -/
  passed_on : ∀ bytes,
    zpr_protobuf_json_to_binary lib reader (some cfg.pool)
      (some (cstr (services.full_name method.input))) (some (cstr text)) .valid =
        { rc := ZPR_OK, out := some bytes, last_error := none } →
      serve_one lib reader services net cfg req =
        (call_unary_bytes net cfg.upstream req.path bytes cfg.timeout_ms).map fun called =>
          replyResponse lib services method.output called.1 called.2.1 called.2.2
  refused :
    (zpr_protobuf_json_to_binary lib reader (some cfg.pool)
      (some (cstr (services.full_name method.input))) (some (cstr text)) .valid).rc = ZPR_ERR →
    (serve_one lib reader services net cfg req).calls = [] ∧
      (serve_one lib reader services net cfg req).answer.status = 400

section

variable {lib : Libraries Pool Descriptor Message}
  {reader : Reader Descriptor Message Deserializer} {services : Services Pool Descriptor}
  {net : Upstream Channel PathAndQuery} {cfg : Config Pool} {req : Request}
  {method : MethodDescriptor Descriptor} {text : String} {message : Message}

/-- What is sent of a text that begins with a message. -/
theorem calls_of_read {rest : Deserializer} (routed : RoutedTo services cfg req method)
    (body : req.body = .ok (cstr text)) (nonempty : text ≠ "")
    (read : reader.deserialize method.input (reader.from_str text) = .ok (message, rest))
    (bytes : Bytes) :
    (∃ call ∈ (serve_one lib reader services net cfg req).calls, call.request = bytes) ↔
      net.Reached cfg.upstream req.path ∧ reader.encode_to_vec message = bytes := by
  rw [serve_one_of_routed routed body, transcode_of_read (jsonText_cstr nonempty) nonempty read,
    Traced.calls_map]
  rcases call_unary_bytes_cases net cfg.upstream req.path (reader.encode_to_vec message)
      cfg.timeout_ms with
    ⟨unreached, none, _⟩ | ⟨whole, channel, timeout, shared, connected, ready, one, _⟩
  · simp [none, unreached]
  · have reached : net.Reached cfg.upstream req.path := ⟨whole, channel, shared, connected, ready⟩
    simp [one, reached]

/-- A text that begins with a message is refused only for the path of the request. -/
theorem refused_of_read {rest : Deserializer} (routed : RoutedTo services cfg req method)
    (body : req.body = .ok (cstr text)) (nonempty : text ≠ "")
    (read : reader.deserialize method.input (reader.from_str text) = .ok (message, rest)) :
    ((serve_one lib reader services net cfg req).calls = [] ∧
        (serve_one lib reader services net cfg req).answer.status = 400 →
      (net.from_maybe_shared req.path).isOk = false) ∧
    ((net.from_maybe_shared req.path).isOk = false →
      (serve_one lib reader services net cfg req).calls = [] ∧
        (serve_one lib reader services net cfg req).answer.status = 400) := by
  rw [serve_one_of_routed routed body, transcode_of_read (jsonText_cstr nonempty) nonempty read,
    Traced.calls_map, Traced.answer_map]
  rcases call_unary_bytes_cases net cfg.upstream req.path (reader.encode_to_vec message)
      cfg.timeout_ms with
    ⟨_, none, code⟩ | ⟨whole, channel, timeout, shared, _, _, one, _⟩
  · rw [status_of_unreached code, none]
    cases (net.from_maybe_shared req.path).isOk with
    | false => simp
    | true => simp
  · simp [one, shared, Except.isOk, Except.toBool]

end

theorem same_language_iff (lib : Libraries Pool Descriptor Message)
    (reader : Reader Descriptor Message Deserializer) (services : Services Pool Descriptor)
    (net : Upstream Channel PathAndQuery) (cfg : Config Pool) (req : Request)
    (method : MethodDescriptor Descriptor) (text : String)
    (routed : RoutedTo services cfg req method)
    (input : lib.get_message_by_name cfg.pool (services.full_name method.input) =
      some method.input)
    (body : req.body = .ok (cstr text)) (nonempty : text ≠ "") :
    SameLanguage lib reader services net cfg req method text ↔
      ∀ message rest, (net.from_maybe_shared req.path).isOk →
        reader.deserialize method.input (reader.from_str text) = .ok (message, rest) →
          reader.end_ rest = .ok () := by
  constructor
  · intro same message rest path read
    cases ended : reader.end_ rest with
    | ok done => rfl
    | error e =>
        have failed : (zpr_protobuf_json_to_binary lib reader (some cfg.pool)
            (some (cstr (services.full_name method.input))) (some (cstr text)) .valid).rc =
              ZPR_ERR := by
          rw [json_to_binary_of_known input, read]
          simp only [ended, Encoded.failed]
        have badPath := (refused_of_read routed body nonempty read).1 (same.refused failed)
        rw [badPath] at path
        cases path
  · intro ends
    cases read : reader.deserialize method.input (reader.from_str text) with
    | error e =>
        have refused : (serve_one lib reader services net cfg req).calls = [] ∧
            (serve_one lib reader services net cfg req).answer.status = 400 := by
          rw [serve_one_of_routed routed body]
          exact transcode_refused (jsonText_cstr nonempty) nonempty read
        constructor
        · intro bytes
          rw [refused.1, json_to_binary_iff input, read]
          simp
        · intro bytes taken
          rw [json_to_binary_iff input, read] at taken
          rcases taken with ⟨_, _, impossible, _⟩
          cases impossible
        · exact fun _ => refused
    | ok found =>
        rcases found with ⟨message, rest⟩
        constructor
        · intro bytes
          rw [calls_of_read routed body nonempty read, json_to_binary_iff input]
          constructor
          · rintro ⟨reached, encoded⟩
            rcases reached with ⟨whole, channel, shared, connected⟩
            have ended := ends message rest (by rw [shared]; rfl) read
            exact ⟨⟨whole, channel, shared, connected⟩, message, rest, read, ended, encoded⟩
          · rintro ⟨reached, _, _, again, _, encoded⟩
            cases read.symm.trans again
            exact ⟨reached, encoded⟩
        · intro bytes taken
          rcases (json_to_binary_iff input).mp taken with ⟨_, _, again, _, encoded⟩
          cases read.symm.trans again
          rw [← encoded, serve_one_of_routed routed body,
            transcode_of_read (jsonText_cstr nonempty) nonempty read]
        · intro failed
          cases path : (net.from_maybe_shared req.path).isOk with
          | false => exact (refused_of_read routed body nonempty read).2 path
          | true =>
              have encoded := (json_to_binary_iff input).mpr
                ⟨message, rest, read, ends message rest path read, rfl⟩
              rw [encoded] at failed
              cases failed

/-! One service, `sapphire.v1.Auth`, whose method `Ping` takes and returns a message without
fields. -/

def pings : Libraries Unit Unit Unit where
  get_message_by_name := fun _ name => if name = "sapphire.v1.Nothing" then some () else none
  decode := fun _ bytes => if bytes = [] then .ok () else .error "invalid wire type"
  render := fun _ => .ok (.object [])
  floats := halves
  write := fun _ _ => "{}"
  to_string := fun _ => "{}"
  from_str := fun text =>
    if text = "{}" then .ok (.Object []) else .error "expected value at line 1 column 1"
  debug := String.quote

def pingReader : Reader Unit Unit (List Char) where
  from_str := String.toList
  deserialize := fun _ text =>
    match text with
    | '{' :: '}' :: rest => .ok ((), rest)
    | _ => .error "expected value at line 1 column 1"
  end_ := fun rest =>
    if rest.all fun c => c = ' ' ∨ c = '\t' ∨ c = '\n' ∨ c = '\r' then .ok ()
    else .error "trailing characters"
  encode_to_vec := fun _ => []

def pingMethod : MethodDescriptor Unit where
  name := "Ping"
  input := ()
  output := ()
  is_client_streaming := false
  is_server_streaming := false

def pingServices : Services Unit Unit where
  get_service_by_name := fun _ name =>
    if name = "sapphire.v1.Auth" then some [pingMethod] else none
  full_name := fun _ => "sapphire.v1.Nothing"

def pingUpstream : Upstream Unit Unit where
  from_maybe_shared := fun _ => .ok ()
  get_channel := fun _ => .ok ()
  ready := fun _ => .ok ()
  unary := fun _ _ _ _ => .ok []
  debug := String.quote

def pingConfig : Config Unit where
  pool := ()
  upstream := "http://127.0.0.1:9091"
  timeout_ms := 0

def ping (text : String) : Request where
  method := "POST"
  path := "/sapphire.v1.Auth/Ping"
  body := .ok (cstr text)

theorem ping_path : split_path "/sapphire.v1.Auth/Ping" = some ("sapphire.v1.Auth", "Ping") := by
  rw [split_path_iff]
  decide

theorem ping_routed (text : String) : RoutedTo pingServices pingConfig (ping text) pingMethod where
  post := rfl
  found := ⟨"sapphire.v1.Auth", "Ping", [pingMethod], ping_path, rfl, rfl⟩
  unary := rfl

theorem same_language_iff_for_ping :
    SameLanguage pings pingReader pingServices pingUpstream pingConfig (ping "{} ") pingMethod
        "{} " ↔
      ∀ message rest, (pingUpstream.from_maybe_shared (ping "{} ").path).isOk →
        pingReader.deserialize pingMethod.input (pingReader.from_str "{} ") =
          .ok (message, rest) → pingReader.end_ rest = .ok () := by
  apply same_language_iff
  · exact ping_routed "{} "
  · rfl
  · rfl
  · decide

/-- What follows the value is refused by the library, and passed on by the transcoder. -/
theorem trailing_text_passed_on :
    ¬ SameLanguage pings pingReader pingServices pingUpstream pingConfig (ping "{} x") pingMethod
        "{} x" := by
  intro same
  have reached : pingUpstream.Reached pingConfig.upstream (ping "{} x").path :=
    ⟨(), (), rfl, rfl, rfl⟩
  have forwarded : ∃ call ∈ (serve_one pings pingReader pingServices pingUpstream pingConfig
      (ping "{} x")).calls, call.request = [] :=
    (calls_of_read (ping_routed "{} x") rfl (by decide) rfl []).mpr ⟨reached, rfl⟩
  have known : pings.get_message_by_name pingConfig.pool
      (pingServices.full_name pingMethod.input) = some pingMethod.input := rfl
  rw [same.forwarded, json_to_binary_iff known] at forwarded
  rcases forwarded with ⟨_, _, rest, read, ended, _⟩
  cases read
  cases ended

end Zpr.Transcode
