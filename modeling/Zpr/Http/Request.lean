import Zpr.Pascal.JsonKeys
import Zpr.Pascal.TBytes
import Zpr.RequestHeaders

namespace Zpr.Http

open Ffi Zpr.Json Pascal

/-! # One request of the host

`zpr_http_request` makes one request of its arguments, and shows the host the status, the
headers and the body of the one response. reqwest, http and serde_json come from the
outside. -/

structure HttpRequest where
  method : String
  url : String
  headers : RequestHeaders.HeaderMap
  /-- `none` for an empty one -/
  body : Option Bytes
  /-- in milliseconds -/
  timeout : Option Nat
  deriving DecidableEq, Repr

/-- The calls of the `RequestBuilder`. -/
def HttpRequest.build (method url : String) (headers : RequestHeaders.HeaderMap)
    (body_bytes : Bytes) (timeout_ms : UInt32) : HttpRequest where
  method := method
  url := url
  headers := headers
  body := if body_bytes = [] then none else some body_bytes
  timeout := if timeout_ms > 0 then some timeout_ms.toNat else none

theorem HttpRequest.build_body (method url : String) (headers : RequestHeaders.HeaderMap)
    (body_bytes : Bytes) (timeout_ms : UInt32) :
    (HttpRequest.build method url headers body_bytes timeout_ms).body.getD [] = body_bytes := by
  rw [build]
  by_cases empty : body_bytes = []
  · rw [if_pos empty, empty, Option.getD_none]
  · rw [if_neg empty, Option.getD_some]

/-- The `HeaderMap` of a response. Its names come in no particular order, and each of them
once. -/
structure ResponseHeaders where
  keys : List String
  get_all : String → List Bytes
  nodup : keys.Nodup

structure HttpResponse where
  status : UInt16
  headers : ResponseHeaders
  /-- what `bytes` answers -/
  bytes : Except String Bytes

structure Reqwest where
  /-- `Method::from_bytes` -/
  method : String → Except String String
  /-- why the shared client cannot be built, and `client` panics -/
  build_error : Option String
  send : HttpRequest → Except String HttpResponse
  /-- what an insert into a header map without room panics with -/
  no_room : String
  /-- `HeaderValue::to_str`, which refuses what is not visible ASCII or a tab -/
  to_str : Bytes → Option String
  /-- a text as `{:?}` formats it -/
  debug : String → String

/-! ## The headers of a response -/

section

variable (net : Reqwest)

/-- The values of a name in one text. -/
def joined (headers : ResponseHeaders) (name : String) : String :=
  ", ".intercalate ((headers.get_all name).filterMap net.to_str)

/-- The loop over the names. -/
def insertNames (headers : ResponseHeaders) (header_obj : List (String × Value)) :
    List String → List (String × Value)
  | [] => header_obj
  | name :: names =>
      insertNames headers
        (insertField name (.String (joined net headers name)) header_obj) names

def header_obj (headers : ResponseHeaders) : List (String × Value) :=
  insertNames net headers [] headers.keys

end

theorem lookup_field (name other : String) (held : Value) (fields : List (String × Value)) :
    ((other, held) :: fields).lookup name =
      if name = other then some held else fields.lookup name := by
  by_cases same : name = other
  · rw [same, List.lookup_cons_self, if_pos rfl]
  · rw [List.lookup_cons, beq_false_of_ne same, if_neg same]

/-- A field that is inserted is found, and the others are found as before. -/
theorem lookup_insertField (key : String) (value : Value) (fields : List (String × Value))
    (name : String) :
    (insertField key value fields).lookup name =
      if name = key then some value else fields.lookup name := by
  induction fields with
  | nil => exact lookup_field name key value []
  | cons field fields induction =>
      rcases field with ⟨other, held⟩
      rw [insertField]
      by_cases replaced : key = other
      · subst replaced
        by_cases same : name = key <;> simp [lookup_field, same]
      · rw [if_neg replaced]
        by_cases before : key < other
        · rw [if_pos before, lookup_field]
        · rw [if_neg before, lookup_field, lookup_field, induction]
          by_cases here : name = other
          · subst here
            simp [Ne.symm replaced]
          · simp [here]

theorem lookup_insertNames (net : Reqwest) (headers : ResponseHeaders) (fields : List (String × Value))
    (names : List String) (name : String) :
    (insertNames net headers fields names).lookup name =
      if name ∈ names then some (.String (joined net headers name)) else fields.lookup name := by
  induction names generalizing fields with
  | nil => rfl
  | cons first names induction =>
      rw [insertNames, induction, lookup_insertField]
      by_cases later : name ∈ names
      · simp [later]
      · by_cases same : name = first <;> simp [later, same]

/-- Every name has the values of the response, whatever the order of the names was. -/
theorem lookup_header_obj (net : Reqwest) (headers : ResponseHeaders) (name : String) :
    (header_obj net headers).lookup name =
      if name ∈ headers.keys then some (.String (joined net headers name)) else none := by
  rw [header_obj, lookup_insertNames]
  rfl

/-! ## The request -/

/-- What is left for the host: the text and the bytes that now belong to it. A null text is
the inner `none`. -/
structure HttpReply where
  rc : Int
  out_status : Option UInt16
  out_headers_json : Option (Option String)
  out_body : Option Bytes
  last_error : Option String

section

variable (outside : RequestHeaders.Outside) (net : Reqwest) (serde : Serde)

def requestHeaders (headers_json : Option Bytes) : Except String RequestHeaders.HeaderMap :=
  match headers_json with
  | none => .ok []
  | some ptr =>
      match cstr_to_str (some ptr) with
      | .error e => .error e
      | .ok s =>
          match RequestHeaders.parse_headers outside s with
          | none => .error net.no_room
          | some headers => headers

/-- The arguments as a request for the shared client. A null `body` is an empty one. -/
def httpRequest (method url headers_json body : Option Bytes) (timeout_ms : UInt32) :
    Except String HttpRequest :=
  match cstr_to_str method with
  | .error e => .error e
  | .ok method_str =>
      match cstr_to_str url with
      | .error e => .error e
      | .ok url_str =>
          match net.method method_str with
          | .error e => .error s!"invalid HTTP method {net.debug method_str}: {e}"
          | .ok method =>
              match requestHeaders outside net headers_json with
              | .error e => .error e
              | .ok headers =>
                  match net.build_error with
                  | some e => .error s!"failed to build the shared HTTP client: {e}"
                  | none => .ok (.build method url_str headers (body.getD []) timeout_ms)

/-- The response to a request, with its whole body. -/
def exchange (req : HttpRequest) : Except String (HttpResponse × Bytes) :=
  match net.send req with
  | .error e => .error s!"HTTP request failed: {e}"
  | .ok response =>
      match response.bytes with
      | .error e => .error s!"failed to read HTTP response body: {e}"
      | .ok body => .ok (response, body)

def headers_json_out (headers : ResponseHeaders) : String :=
  match serde.to_string (.Object (header_obj net headers)) with
  | .ok text => text
  | .error _ => "{}"

/-- The out-parameters are cleared first. -/
def failed (out_status out_headers_json out_body : Pointer) (e : String) : HttpReply where
  rc := ZPR_ERR
  out_status := out_status.store 0
  out_headers_json := out_headers_json.store none
  out_body := out_body.store []
  last_error := some e

/-- The reply, with the request that has gone out. -/
def zpr_http_request (method url headers_json body : Option Bytes) (timeout_ms : UInt32)
    (out_status out_headers_json out_body : Pointer) : HttpReply × Option HttpRequest :=
  match httpRequest outside net method url headers_json body timeout_ms with
  | .error e => (failed out_status out_headers_json out_body e, none)
  | .ok req =>
      match exchange net req with
      | .error e => (failed out_status out_headers_json out_body e, some req)
      | .ok (response, body) =>
          ({ rc := ZPR_OK
             out_status := out_status.store response.status
             out_headers_json := out_headers_json.store
               (some (string_to_cstring_ptr (headers_json_out net serde response.headers)))
             out_body := out_body.store body
             last_error := none }, some req)

end

/-! ## The client class -/

/-- How a call of `TZprHttpClient.Request` ends for its caller. -/
inductive RequestResult
  | returned (Result : TBytes) (AStatus : UInt16) (AResponseHeadersJson : Bytes)
  | raised
  deriving DecidableEq, Repr

/-- What follows the call of the library: `Check`, `TakeString` and `BufferToBytes`. -/
def requestResult (fromAnsi : Pascal.Json.FromAnsi) (reply : HttpReply) : RequestResult :=
  if reply.rc ≠ ZPR_OK then
    .raised
  else
    .returned (reply.out_body.getD []) (reply.out_status.getD 0)
      (Pascal.Json.TakeString fromAnsi (reply.out_headers_json.getD none))

def TZprHttpClient.Request (outside : RequestHeaders.Outside) (net : Reqwest) (serde : Serde)
    (fromAnsi : Pascal.Json.FromAnsi) (AMethod AUrl AHeadersJson : Bytes) (ABody : TBytes)
    (ATimeoutMs : UInt32) : RequestResult × HttpReply × Option HttpRequest :=
  let HeadersPtr := if AHeadersJson.length = 0 then none else Pascal.Json.Utf8Ptr AHeadersJson
  let (reply, sent) := zpr_http_request outside net serde (Pascal.Json.Utf8Ptr AMethod)
    (Pascal.Json.Utf8Ptr AUrl) HeadersPtr (bytesAt ABody) ATimeoutMs .valid .valid .valid
  (requestResult fromAnsi reply, reply, sent)

/-! ## What the caller is shown -/

/-- serde_json writes these fields as a text without NULs, which it reads as them, and which
the code page leaves alone. -/
def ReadsBack (serde : Serde) (fromAnsi : Pascal.Json.FromAnsi) (fields : List (String × Value)) :
    Prop :=
  ∃ text, serde.to_string (.Object fields) = .ok text ∧ '\x00' ∉ text.toList ∧
    serde.from_str text = .ok (.Object fields) ∧ fromAnsi (cstr text) = cstr text

/-- The text says of every name what the response has said of it. -/
def ShowsHeaders (net : Reqwest) (serde : Serde) (headers : ResponseHeaders) (AResponseHeadersJson : Bytes) :
    Prop :=
  ∃ fields,
    zpr_json_parse serde.from_str (Pascal.Json.Utf8Ptr AResponseHeadersJson) =
      .ok (.Object fields) ∧
    ∀ name, fields.lookup name =
      if name ∈ headers.keys then some (.String (joined net headers name)) else none

theorem showsHeaders {net : Reqwest} {serde : Serde} {fromAnsi : Pascal.Json.FromAnsi} {headers : ResponseHeaders}
    (readsBack : ReadsBack serde fromAnsi (header_obj net headers)) :
    ShowsHeaders net serde headers (Pascal.Json.TakeString fromAnsi
      (some (string_to_cstring_ptr (headers_json_out net serde headers)))) := by
  rcases readsBack with ⟨text, written, noNul, read, sameText⟩
  have out : string_to_cstring_ptr (headers_json_out net serde headers) = text := by
    rw [headers_json_out, written]
    exact string_to_cstring_ptr_eq noNul
  refine ⟨header_obj net headers, ?_, lookup_header_obj net headers⟩
  rw [out, Pascal.Json.TakeString, sameText, Pascal.Json.utf8Ptr_cstr noNul]
  exact zpr_json_parse_cstr read

/-- The caller has been told of a failure, and holds nothing. -/
structure Cleared (reply : HttpReply) : Prop where
  out_status : reply.out_status = some 0
  out_headers_json : reply.out_headers_json = some none
  out_body : reply.out_body = some []
  last_error : reply.last_error.isSome

theorem exchange_ok {net : Reqwest} {req : HttpRequest} {response : HttpResponse} {body : Bytes}
    (answered : exchange net req = .ok (response, body)) :
    net.send req = .ok response ∧ response.bytes = .ok body := by
  rw [exchange] at answered
  cases sent : net.send req with
  | error e => simp [sent] at answered
  | ok found =>
      cases read : found.bytes with
      | error e => simp [sent, read] at answered
      | ok bytes =>
          simp only [sent, read, Except.ok.injEq, Prod.mk.injEq] at answered
          rcases answered with ⟨rfl, rfl⟩
          exact ⟨rfl, read⟩

theorem httpRequest_body {outside : RequestHeaders.Outside} {net : Reqwest} {req : HttpRequest}
    (asked : httpRequest outside net method url headers_json body timeout_ms = .ok req) :
    req.body.getD [] = body.getD [] := by
  unfold httpRequest at asked
  -- every way but the last one ends in an error
  repeat' split at asked
  all_goals cases asked
  exact HttpRequest.build_body _ _ _ _ _

/-- Whatever the host asks for and the network answers: `TZprHttpClient.Request` makes at
most the one request that its arguments describe. It raises an exception, with a message
left and nothing handed over, unless the response has come in with its whole body; then it
returns the status and the body, and a text that says of every name what the response has
said of it. -/
theorem http_responses_are_shown_whole {outside : RequestHeaders.Outside} {net : Reqwest}
    {serde : Serde} {fromAnsi : Pascal.Json.FromAnsi}
    (readsBack : ∀ req response, net.send req = .ok response →
      ReadsBack serde fromAnsi (header_obj net response.headers))
    {result : RequestResult} {reply : HttpReply} {sent : Option HttpRequest}
    (taken : TZprHttpClient.Request outside net serde fromAnsi AMethod AUrl AHeadersJson ABody
      ATimeoutMs = (result, reply, sent)) :
    (∀ req, sent = some req → req.body.getD [] = ABody ∧
      httpRequest outside net (Pascal.Json.Utf8Ptr AMethod) (Pascal.Json.Utf8Ptr AUrl)
        (if AHeadersJson.length = 0 then none else Pascal.Json.Utf8Ptr AHeadersJson)
        (bytesAt ABody) ATimeoutMs = .ok req) ∧
    ((result = .raised ∧ Cleared reply ∧
        ∀ req, sent = some req → ∃ e, exchange net req = .error e) ∨
      ∃ req response Result AResponseHeadersJson, sent = some req ∧
        net.send req = .ok response ∧ response.bytes = .ok Result ∧
        result = .returned Result response.status AResponseHeadersJson ∧
        ShowsHeaders net serde response.headers AResponseHeadersJson) := by
  rw [TZprHttpClient.Request, zpr_http_request] at taken
  cases asked : httpRequest outside net (Pascal.Json.Utf8Ptr AMethod) (Pascal.Json.Utf8Ptr AUrl)
    (if AHeadersJson.length = 0 then none else Pascal.Json.Utf8Ptr AHeadersJson)
    (bytesAt ABody) ATimeoutMs with
  | error e =>
      rw [asked] at taken
      cases taken
      exact ⟨nofun, .inl ⟨rfl, ⟨rfl, rfl, rfl, rfl⟩, nofun⟩⟩
  | ok req =>
      have sameBody := httpRequest_body asked
      rw [getD_bytesAt] at sameBody
      rw [asked] at taken
      cases answered : exchange net req with
      | error e =>
          simp only [answered] at taken
          cases taken
          refine ⟨fun other same => ?_, .inl ⟨rfl, ⟨rfl, rfl, rfl, rfl⟩, fun other same => ?_⟩⟩
          · cases same
            exact ⟨sameBody, rfl⟩
          · cases same
            exact ⟨e, answered⟩
      | ok found =>
          rcases found with ⟨response, body⟩
          rcases exchange_ok answered with ⟨isSent, read⟩
          simp only [answered] at taken
          cases taken
          refine ⟨fun other same => ?_, .inr ⟨req, response, body, _, rfl, isSent, read, rfl,
            showsHeaders (readsBack req response isSent)⟩⟩
          cases same
          exact ⟨sameBody, rfl⟩

/-- Every request is answered with one header of two values. -/
def varying : ResponseHeaders where
  keys := ["vary"]
  get_all name := if name = "vary" then [cstr "accept", cstr "origin"] else []
  nodup := by decide

def noContent : Reqwest where
  method m := .ok m
  build_error := none
  send _ := .ok ⟨204, varying, .ok []⟩
  no_room := "size overflows MAX_SIZE"
  to_str v :=
    if v.all fun b => (32 ≤ b && b < 127) || b == 9 then String.fromUTF8? ⟨v.toArray⟩ else none
  debug := String.quote

/-- serde_json, for as far as these headers go. -/
def varyingSerde : Serde where
  from_str text :=
    if text = "\x7b\"vary\":\"accept, origin\"\x7d" then
      .ok (.Object [("vary", .String "accept, origin")])
    else
      .error "expected value at line 1 column 1"
  to_string _ := .ok "\x7b\"vary\":\"accept, origin\"\x7d"
  to_string_pretty _ := .ok "\x7b\"vary\":\"accept, origin\"\x7d"

theorem to_str_cstr {text : String}
    (visible : (cstr text).all fun b => (32 ≤ b && b < 127) || b == 9) :
    noContent.to_str (cstr text) = some text := by
  simp only [noContent, if_pos visible, fromUTF8_cstr]

theorem varying_readsBack : ReadsBack varyingSerde id (header_obj noContent varying) := by
  have obj : header_obj noContent varying = [("vary", .String "accept, origin")] := by
    have accept : noContent.to_str (cstr "accept") = some "accept" := to_str_cstr (by decide)
    have origin : noContent.to_str (cstr "origin") = some "origin" := to_str_cstr (by decide)
    simp [header_obj, varying, insertNames, insertField, joined, accept, origin]
  rw [obj]
  refine ⟨_, rfl, by decide, ?_, rfl⟩
  simp only [varyingSerde, if_true]

theorem noContent_returns :
    (TZprHttpClient.Request (.reading "" .Null) noContent varyingSerde id (cstr "GET")
        (cstr "http://127.0.0.1:8080/") [] [] 0).1 =
      .returned [] 204 (cstr "\x7b\"vary\":\"accept, origin\"\x7d") := by
  have method : Pascal.Json.Utf8Ptr (cstr "GET") = some (cstr "GET") :=
    Pascal.Json.utf8Ptr_cstr (by decide)
  have url : Pascal.Json.Utf8Ptr (cstr "http://127.0.0.1:8080/") =
      some (cstr "http://127.0.0.1:8080/") :=
    Pascal.Json.utf8Ptr_cstr (by decide)
  have text : string_to_cstring_ptr "\x7b\"vary\":\"accept, origin\"\x7d" =
      "\x7b\"vary\":\"accept, origin\"\x7d" := string_to_cstring_ptr_eq (by decide)
  simp only [TZprHttpClient.Request, zpr_http_request, httpRequest, method, url,
    cstr_to_str_cstr, noContent, exchange, headers_json_out, varyingSerde, text]
  rfl

theorem http_responses_are_shown_whole_for_one_header :
    ShowsHeaders noContent varyingSerde varying (cstr "\x7b\"vary\":\"accept, origin\"\x7d") := by
  have readsBack : ∀ req response, noContent.send req = .ok response →
      ReadsBack varyingSerde id (header_obj noContent response.headers) := by
    intro req response answered
    cases answered
    exact varying_readsBack
  have returns := noContent_returns
  rcases taken : TZprHttpClient.Request (.reading "" .Null) noContent varyingSerde id
    (cstr "GET") (cstr "http://127.0.0.1:8080/") [] [] 0 with ⟨result, reply, sent⟩
  rw [taken] at returns
  rcases (http_responses_are_shown_whole readsBack taken).2 with
    ⟨raised, _⟩ | ⟨req, response, Result, json, _, answered, _, same, shows⟩
  · cases returns.symm.trans raised
  · cases answered
    cases returns.symm.trans same
    exact shows

end Zpr.Http
