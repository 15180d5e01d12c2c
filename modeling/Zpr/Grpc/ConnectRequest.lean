import Zpr.Grpc.Proxy

namespace Zpr.Grpc.Proxy

open Ffi

/-! # What a proxy is asked for

`connect_via_http_proxy` asks for the authority of the endpoint as it is written. -/

/-- The schemes an endpoint may have. -/
inductive Scheme
  | http
  | https
  deriving DecidableEq, Repr

namespace Scheme

def scheme_str : Scheme → String
  | .http => "http"
  | .https => "https"

/-- The port of a URI that names none. -/
def defaultPort : Scheme → String
  | .http => "80"
  | .https => "443"

end Scheme

/-- `str::parse::<u16>`: digits, perhaps behind a plus sign. -/
def u16_from_str (text : String) : Option Nat :=
  let digits := if text.toList.head? = some '+' then text.toList.tail else text.toList
  if digits ≠ [] ∧ digits.all Char.isDigit then
    let value := digits.foldl (fun value digit => value * 10 + (digit.toNat - 48)) 0
    if value ≤ 65535 then some value else none
  else
    none

/-- `[userinfo@]host[:port]`, with the host in brackets where it has colons. -/
structure Authority where
  userinfo : Option String
  host : String
  port : Option String
  named : host ≠ ""
  host_at : '@' ∉ host.toList
  host_colon : host.toList.head? ≠ some '[' → ':' ∉ host.toList
  port_at : ∀ text, port = some text → '@' ∉ text.toList

namespace Authority

def userinfoText (authority : Authority) : String :=
  match authority.userinfo with
  | some userinfo => userinfo ++ "@"
  | none => ""

def portText (authority : Authority) : String :=
  match authority.port with
  | some port => ":" ++ port
  | none => ""

/-- How the authority is written. -/
def as_str (authority : Authority) : String :=
  authority.userinfoText ++ authority.host ++ authority.portText

/-- The URI of an endpoint with this authority. -/
def uri (authority : Authority) (scheme : Scheme) : Uri where
  scheme_str := some scheme.scheme_str
  authority := some authority.as_str
  host := some authority.host
  port_u16 := authority.port.bind u16_from_str

/-- The port the URI names, or else the one of its scheme. -/
def effectivePort (authority : Authority) (scheme : Scheme) : String :=
  match authority.port with
  | some port => if (u16_from_str port).isSome then port else scheme.defaultPort
  | none => scheme.defaultPort

def hostPort (authority : Authority) (scheme : Scheme) : String :=
  authority.host ++ ":" ++ authority.effectivePort scheme

theorem u16_from_str_defaultPort (scheme : Scheme) :
    (u16_from_str scheme.defaultPort).isSome := by
  cases scheme <;> decide

theorem defaultPort_at (scheme : Scheme) : '@' ∉ scheme.defaultPort.toList := by
  cases scheme <;> decide

theorem hostPort_at (authority : Authority) (scheme : Scheme) :
    '@' ∉ (authority.hostPort scheme).toList := by
  have port : '@' ∉ (authority.effectivePort scheme).toList := by
    rw [effectivePort]
    split
    · rename_i text written
      split
      · exact authority.port_at text written
      · exact defaultPort_at scheme
    · exact defaultPort_at scheme
  simp [hostPort, authority.host_at, port]

/-- The authority is written as host and port exactly if it has no more and no less. -/
theorem as_str_eq_hostPort_iff (authority : Authority) (scheme : Scheme) :
    authority.as_str = authority.hostPort scheme ↔
      authority.userinfo = none ∧ (authority.uri scheme).port_u16.isSome := by
  cases user : authority.userinfo with
  | some userinfo =>
      simp only [reduceCtorEq, false_and, iff_false]
      intro same
      apply authority.hostPort_at scheme
      rw [← same, as_str, userinfoText, user]
      simp
  | none =>
      have written : authority.as_str = authority.hostPort scheme ↔
          authority.portText = ":" ++ authority.effectivePort scheme := by
        simp [as_str, userinfoText, user, hostPort, String.append_assoc]
      rw [written]
      cases port : authority.port with
      | none =>
          have unwritten : authority.portText = "" := by rw [portText, port]
          have unnamed : (authority.uri scheme).port_u16 = none := by
            rw [uri, port, Option.bind_none]
          rw [unwritten, unnamed]
          simp [← String.toList_inj]
      | some text =>
          have behind : authority.portText = ":" ++ text := by rw [portText, port]
          have named : (authority.uri scheme).port_u16 = u16_from_str text := by
            rw [uri, port, Option.bind_some]
          have same : authority.effectivePort scheme =
              if (u16_from_str text).isSome then text else scheme.defaultPort := by
            rw [effectivePort, port]
          rw [behind, named, same, String.append_right_inj]
          by_cases number : (u16_from_str text).isSome
          · simp only [number, if_true, and_self]
          · rw [if_neg number]
            have different : text ≠ scheme.defaultPort := by
              rintro rfl
              exact number (u16_from_str_defaultPort scheme)
            simp only [number, different, Bool.false_eq_true, and_false]

end Authority

theorem connect_request_inj {first second : String}
    (same : connect_request first = connect_request second) : first = second := by
  rw [← String.toList_inj] at same ⊢
  simp only [connect_request, String.toList_append, toString, List.append_assoc,
    List.append_cancel_left_eq] at same
  have length := congrArg List.length same
  simp only [List.length_append] at length
  exact (List.append_inj same (by omega)).1

/-- The request that `connect_channel` has written to a proxy. -/
def channelRequest (parse : String → Except String Uri) (network : Network) (var : Environment)
    (PROXY_OVERRIDE : Option String) (endpoint_str : String) : Option String :=
  match network.from_shared endpoint_str with
  | .error _ => none
  | .ok () =>
      match parse endpoint_str with
      | .error _ => none
      | .ok target =>
          (resolve_proxy parse var PROXY_OVERRIDE target).bind fun proxy =>
            (connect_via_http_proxy network target proxy).sent

/-- The endpoint is accepted, and a proxy for it is reached. -/
structure ThroughProxy (parse : String → Except String Uri) (network : Network)
    (var : Environment) (PROXY_OVERRIDE : Option String) (endpoint_str : String) (target : Uri) :
    Prop where
  shared : network.from_shared endpoint_str = .ok ()
  parsed : parse endpoint_str = .ok target
  reached : ∃ proxy host, resolve_proxy parse var PROXY_OVERRIDE target = some proxy ∧
    proxy.host = some host ∧ network.tcp_connect host (proxyPort proxy) = .ok ()

theorem channelRequest_of_throughProxy {parse : String → Except String Uri} {network : Network}
    {var : Environment} {PROXY_OVERRIDE : Option String} {endpoint_str authority : String}
    {target : Uri} (through : ThroughProxy parse network var PROXY_OVERRIDE endpoint_str target)
    (named : target.authority = some authority) :
    channelRequest parse network var PROXY_OVERRIDE endpoint_str =
      some (connect_request authority) := by
  rcases through.reached with ⟨proxy, proxy_host, resolved, host, connected⟩
  simp only [channelRequest, through.shared, through.parsed, resolved, Option.bind_some,
    connect_via_http_proxy, host, connected, named]

/-- The request names host and port exactly for an endpoint that names a port and no user. -/
theorem connect_request_names_host_port_iff (parse : String → Except String Uri)
    (network : Network) (var : Environment) (PROXY_OVERRIDE : Option String)
    (endpoint_str : String) (authority : Authority) (scheme : Scheme)
    (through : ThroughProxy parse network var PROXY_OVERRIDE endpoint_str
      (authority.uri scheme)) :
    channelRequest parse network var PROXY_OVERRIDE endpoint_str =
        some (connect_request (authority.hostPort scheme)) ↔
      authority.userinfo = none ∧ (authority.uri scheme).port_u16.isSome := by
  rw [channelRequest_of_throughProxy through rfl, ← authority.as_str_eq_hostPort_iff scheme,
    Option.some.injEq]
  constructor
  · exact connect_request_inj
  · intro same
    rw [same]

/-! An endpoint `http://localhost`, and a network with a proxy before it. -/

def localhost (port : Option String) (at_free : ∀ text, port = some text → '@' ∉ text.toList) :
    Authority where
  userinfo := none
  host := "localhost"
  port := port
  named := by decide
  host_at := by decide
  host_colon := fun _ => by decide
  port_at := at_free

def proxiedParse (authority : Authority) (text : String) : Except String Uri :=
  if text = "http://proxy:3128" then
    .ok ⟨some "http", some "proxy:3128", some "proxy", some 3128⟩
  else
    .ok (authority.uri .http)

def proxiedNetwork : Network where
  from_shared := fun _ => .ok ()
  connect := fun _ => .error "unreachable"
  tcp_connect := fun _ _ => .ok ()
  exchange := fun _ _ _ => .ok []
  handshake := fun _ => .ok ()
  debug := String.quote

theorem proxied (authority : Authority) {endpoint_str : String}
    (other : endpoint_str ≠ "http://proxy:3128") :
    ThroughProxy (proxiedParse authority) proxiedNetwork (fun _ => none)
      (some "http://proxy:3128") endpoint_str (authority.uri .http) where
  shared := rfl
  parsed := if_neg other
  reached := ⟨⟨some "http", some "proxy:3128", some "proxy", some 3128⟩, "proxy", rfl, rfl, rfl⟩

theorem connect_request_names_localhost :
    channelRequest (proxiedParse (localhost (some "50051") (by decide))) proxiedNetwork
        (fun _ => none) (some "http://proxy:3128") "http://localhost:50051" =
      some (connect_request "localhost:50051") := by
  have named := connect_request_names_host_port_iff
    (proxiedParse (localhost (some "50051") (by decide))) proxiedNetwork (fun _ => none)
    (some "http://proxy:3128") "http://localhost:50051" (localhost (some "50051") (by decide))
    .http (proxied _ (by decide))
  exact named.mpr ⟨rfl, by decide⟩

/-- Without a port in the endpoint the proxy is asked for none. -/
theorem connect_request_without_port :
    channelRequest (proxiedParse (localhost none (by simp))) proxiedNetwork (fun _ => none)
        (some "http://proxy:3128") "http://localhost" = some (connect_request "localhost") ∧
      (localhost none (by simp)).hostPort .http = "localhost:80" ∧
      channelRequest (proxiedParse (localhost none (by simp))) proxiedNetwork (fun _ => none)
        (some "http://proxy:3128") "http://localhost" ≠
          some (connect_request ((localhost none (by simp)).hostPort .http)) := by
  have sent := channelRequest_of_throughProxy (proxied (localhost none (by simp))
    (show "http://localhost" ≠ "http://proxy:3128" by decide)) rfl
  have written : (localhost none (by simp)).as_str = "localhost" := by decide
  have wanted : (localhost none (by simp)).hostPort .http = "localhost:80" := by decide
  rw [written] at sent
  refine ⟨sent, wanted, ?_⟩
  rw [sent, wanted]
  intro same
  have text := connect_request_inj (Option.some.inj same)
  exact absurd text (by decide)

end Zpr.Grpc.Proxy
