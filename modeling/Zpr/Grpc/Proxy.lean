import Mathlib.Algebra.Group.Nat.Defs
import Zpr.Grpc.PrefixedStream
import Zpr.Http.Proxy

namespace Zpr.Grpc.Proxy

open Ffi

/-! # How a gRPC connection finds its proxy

`resolve_proxy` asks the override first, then the environment; `connect_channel` dials
through what it finds, or directly. The parser of `http::Uri`, tonic and the network come
from the outside. -/

/-- The parts of an `http::Uri` that are looked at. -/
structure Uri where
  scheme_str : Option String
  authority : Option String
  host : Option String
  port_u16 : Option Nat
  deriving DecidableEq, Repr

/-! ## The override -/

/-- `zpr_grpc_set_proxy`, which works on the contents of `PROXY_OVERRIDE`. -/
def zpr_grpc_set_proxy (slot : Option String) (proxy_url : Option Bytes) :
    Option String × Int × Option String :=
  match proxy_url with
  | none => (none, ZPR_OK, none)
  | some ptr =>
      match cstr_to_str (some ptr) with
      | .ok s => (some s, ZPR_OK, none)
      | .error e => (slot, ZPR_ERR, some e)

/-- The override after some calls of `TZprGrpcClient.SetProxy` and `DisableProxy`, the
second of which passes `nil`. A call that raises changes nothing. -/
def overrideAfter (slot : Option String) (calls : List (Option Bytes)) : Option String :=
  calls.foldl (fun slot proxy_url => (zpr_grpc_set_proxy slot proxy_url).1) slot

/-! ## The environment -/

/-- `std::env::var`, where it answers. -/
abbrev Environment := String → Option String

/-- The first of the variables that is there decides, even when it is empty. -/
def env_var_any (var : Environment) (names : List String) : Option String :=
  (names.findSome? var).filter fun v => v ≠ ""

/-- `char::is_whitespace`. -/
def isWhitespace (c : Char) : Bool :=
  let n := c.toNat
  (9 ≤ n && n ≤ 13) || n == 0x20 || n == 0x85 || n == 0xA0 || n == 0x1680 ||
    (0x2000 ≤ n && n ≤ 0x200A) || n == 0x2028 || n == 0x2029 || n == 0x202F || n == 0x205F ||
    n == 0x3000

def trim (text : List Char) : List Char :=
  ((text.dropWhile isWhitespace).reverse.dropWhile isWhitespace).reverse

def host_matches_no_proxy (host no_proxy : String) : Bool :=
  (((no_proxy.toList.splitOn ',').map trim).filter fun p => !p.isEmpty).any fun pattern =>
    let pattern := pattern.dropWhile (· == '.')
    host.toList == pattern || ('.' :: pattern).isSuffixOf host.toList

/-- The variables that name the proxy of a target. -/
def proxyNames (target : Uri) : List String :=
  if target.scheme_str = some "https" then ["HTTPS_PROXY", "https_proxy"]
  else ["HTTP_PROXY", "http_proxy"]

def resolve_proxy (parse : String → Except String Uri) (var : Environment)
    (PROXY_OVERRIDE : Option String) (target : Uri) : Option Uri :=
  match PROXY_OVERRIDE with
  | some explicit => (parse explicit).toOption
  | none =>
      let host := target.host.getD ""
      if (env_var_any var ["NO_PROXY", "no_proxy"]).any (host_matches_no_proxy host) then
        none
      else
        ((env_var_any var (proxyNames target)).or
          (env_var_any var ["ALL_PROXY", "all_proxy"])).bind fun s => (parse s).toOption

/-! ## Dialling -/

/-- Who is dialled. -/
inductive Dial
  /-- the endpoint itself -/
  | direct
  | proxy (host : String) (port : Nat)
  deriving DecidableEq, Repr

/-- What the outside answers. -/
structure Network where
  /-- `Endpoint::from_shared` -/
  from_shared : String → Except String Unit
  /-- `Endpoint::connect`, which dials the endpoint -/
  connect : String → Except String Unit
  /-- `TcpStream::connect` -/
  tcp_connect : String → Nat → Except String Unit
  /-- writing the request to the proxy, and what is read from it afterwards -/
  exchange : String → Nat → String → Except String (List Chunk)
  /-- what tonic makes of a tunnel -/
  handshake : PrefixedStream → Except String Unit
  /-- a text as `{:?}` formats it -/
  debug : String → String

/-- Where the blank line begins that ends the head of a response. -/
def headEnd (buf : Bytes) : Option Nat :=
  buf.tails.findIdx? fun w => w.take 4 == [13, 10, 13, 10]

/-- Read until the head of the response is there, with the reads that are left for later.
`none` while the proxy says nothing more. -/
def readHead (buf : Bytes) : List Chunk → Option (Except String (Bytes × Nat × List Chunk))
  | [] => none
  | .failed e :: _ => some (.error e)
  | .bytes chunk :: chunks =>
      if chunk = [] then
        some (.error "proxy closed the connection during CONNECT")
      else
        match headEnd (buf ++ chunk) with
        | some pos => some (.ok (buf ++ chunk, pos + 4, chunks))
        | none =>
            if (buf ++ chunk).length > 16 * 1024 then
              some (.error "proxy CONNECT response too large")
            else
              readHead (buf ++ chunk) chunks

/-- The ranges of the bytes that may follow the first byte of a UTF-8 character. -/
def followers (first : UInt8) : Option (List (Nat × Nat)) :=
  let n := first.toNat
  if n < 0x80 then some []
  else if n < 0xC2 then none
  else if n < 0xE0 then some [(0x80, 0xBF)]
  else if n = 0xE0 then some [(0xA0, 0xBF), (0x80, 0xBF)]
  else if n = 0xED then some [(0x80, 0x9F), (0x80, 0xBF)]
  else if n < 0xF0 then some [(0x80, 0xBF), (0x80, 0xBF)]
  else if n = 0xF0 then some [(0x90, 0xBF), (0x80, 0xBF), (0x80, 0xBF)]
  else if n < 0xF4 then some [(0x80, 0xBF), (0x80, 0xBF), (0x80, 0xBF)]
  else if n = 0xF4 then some [(0x80, 0x8F), (0x80, 0xBF), (0x80, 0xBF)]
  else none

/-- How many of the bytes do follow. -/
def following : List (Nat × Nat) → Bytes → Nat
  | (low, high) :: ranges, byte :: bytes =>
      if low ≤ byte.toNat ∧ byte.toNat ≤ high then following ranges bytes + 1 else 0
  | _, _ => 0

/-- The character that a first byte and all of its followers spell. -/
def spelled (first : UInt8) (rest : Bytes) : Char :=
  let lead := if rest = [] then first.toNat else first.toNat % 2 ^ (6 - rest.length)
  Char.ofNat (rest.foldl (fun code byte => code * 64 + byte.toNat % 64) lead)

/-- `String::from_utf8_lossy`: what is no character, as far as it could have begun one,
becomes U+FFFD. The first `skip` bytes have been dealt with. -/
def from_utf8_lossy (skip : Nat) : Bytes → List Char
  | [] => []
  | first :: rest =>
      match skip with
      | skip + 1 => from_utf8_lossy skip rest
      | 0 =>
          match followers first with
          | none => '\uFFFD' :: from_utf8_lossy 0 rest
          | some ranges =>
              let found := following ranges rest
              if found = ranges.length then
                spelled first (rest.take found) :: from_utf8_lossy found rest
              else
                '\uFFFD' :: from_utf8_lossy found rest

/-- The first of the `lines` of a text that has a line break. -/
def firstLine (text : List Char) : List Char :=
  let line := text.takeWhile (· ≠ '\n')
  if line.getLast? = some '\r' then line.dropLast else line

def split_whitespace (text : List Char) : List (List Char) :=
  (text.splitOnP isWhitespace).filter fun word => !word.isEmpty

/-- What has become of the attempt to connect: who has been dialled, and who carries the
channel. `none` while something is awaited. -/
structure Attempt where
  dialled : List Dial
  outcome : Option (Except String Dial)
  deriving Repr

/-- The same of a tunnel, with what has been written to the proxy. -/
structure Tunnel where
  dialled : List Dial
  sent : Option String
  stream : Option (Except String PrefixedStream)

def proxyPort (proxy : Uri) : Nat :=
  proxy.port_u16.getD (if proxy.scheme_str = some "https" then 443 else 80)

/-- The request that is written to the proxy. -/
def connect_request (authority : String) : String :=
  s!"CONNECT {authority} HTTP/1.1\r\nHost: {authority}\r\n" ++
    "Proxy-Connection: keep-alive\r\n\r\n"

/-- Whether the head of a response opens the tunnel. -/
def accepts (status_line : List Char) : Prop :=
  (split_whitespace status_line)[1]? = some ['2', '0', '0']

instance (status_line : List Char) : Decidable (accepts status_line) :=
  inferInstanceAs (Decidable ((split_whitespace status_line)[1]? = some ['2', '0', '0']))

def connect_via_http_proxy (network : Network) (target proxy : Uri) : Tunnel :=
  match proxy.host with
  | none => { dialled := [], sent := none, stream := some (.error "proxy URI has no host") }
  | some proxy_host =>
      let proxy_port := proxyPort proxy
      let dialled := [Dial.proxy proxy_host proxy_port]
      match network.tcp_connect proxy_host proxy_port with
      | .error e => { dialled := dialled, sent := none, stream := some (.error e) }
      | .ok () =>
          match target.authority with
          | none =>
              { dialled := dialled, sent := none
                stream := some (.error "gRPC endpoint URI has no authority") }
          | some authority =>
              let request := connect_request authority
              { dialled := dialled
                sent := some request
                stream :=
                  match network.exchange proxy_host proxy_port request with
                  | .error e => some (.error e)
                  | .ok chunks => (readHead [] chunks).map fun head =>
                      head.bind fun (buf, header_end, rest) =>
                        let status_line := firstLine (from_utf8_lossy 0 (buf.take header_end))
                        if accepts status_line then
                          .ok { host := proxy_host, port := proxy_port
                                leftover := buf.drop header_end, prefix_pos := 0
                                inner := .of rest, bounded := Nat.zero_le _ }
                        else
                          .error s!"proxy CONNECT failed: {String.ofList status_line}" }

def invalidEndpoint (network : Network) (endpoint_str e : String) : String :=
  s!"invalid gRPC endpoint {network.debug endpoint_str}: {e}"

def failedViaProxy (network : Network) (endpoint_str e : String) : String :=
  s!"failed to connect to {network.debug endpoint_str} via proxy: {e}"

/-- `ep.connect_with_connector`, whose connector opens a tunnel. -/
def connect_with_connector (network : Network) (endpoint_str : String) (target proxy : Uri) :
    Attempt :=
  let tunnel := connect_via_http_proxy network target proxy
  { dialled := tunnel.dialled
    outcome := tunnel.stream.map fun stream =>
      match stream with
      | .error e => .error (failedViaProxy network endpoint_str e)
      | .ok stream =>
          match network.handshake stream with
          | .error e => .error (failedViaProxy network endpoint_str e)
          | .ok () => .ok (.proxy stream.host stream.port) }

def connect_channel (parse : String → Except String Uri) (network : Network) (var : Environment)
    (PROXY_OVERRIDE : Option String) (endpoint_str : String) : Attempt :=
  match network.from_shared endpoint_str with
  | .error e => { dialled := [], outcome := some (.error (invalidEndpoint network endpoint_str e)) }
  | .ok () =>
      match parse endpoint_str with
      | .error e => { dialled := [], outcome := some (.error (invalidEndpoint network endpoint_str e)) }
      | .ok target =>
          match resolve_proxy parse var PROXY_OVERRIDE target with
          | some proxy => connect_with_connector network endpoint_str target proxy
          | none =>
              { dialled := [.direct]
                outcome := some (match network.connect endpoint_str with
                  | .error e => .error s!"failed to connect to {network.debug endpoint_str}: {e}"
                  | .ok () => .ok .direct) }

/-! ## Explicit proxies -/

section Explicit

variable {parse : String → Except String Uri}

/-- The proxy that a string names is dialled. -/
def Named (parse : String → Except String Uri) (s : String) (dial : Dial) : Prop :=
  ∃ proxy host, parse s = .ok proxy ∧ proxy.host = some host ∧
    dial = .proxy host (proxyPort proxy)

/-- Nobody but the proxy that `s` names is dialled, or carries the channel. -/
structure NotBypassed (parse : String → Except String Uri) (s : String) (attempt : Attempt) :
    Prop where
  dialled : ∀ dial ∈ attempt.dialled, Named parse s dial
  carried : ∀ dial, attempt.outcome = some (.ok dial) → Named parse s dial

theorem connect_via_http_proxy_named {network : Network} {target proxy : Uri}
    (named : parse s = .ok proxy) :
    (∀ dial ∈ (connect_via_http_proxy network target proxy).dialled, Named parse s dial) ∧
      ∀ stream, (connect_via_http_proxy network target proxy).stream = some (.ok stream) →
        Named parse s (.proxy stream.host stream.port) := by
  cases host : proxy.host with
  | none => simp [connect_via_http_proxy, host]
  | some proxy_host =>
      constructor
      · intro dial member
        refine ⟨proxy, proxy_host, named, host, ?_⟩
        simp only [connect_via_http_proxy, host] at member
        split at member
        · exact List.mem_singleton.mp member
        · split at member <;> exact List.mem_singleton.mp member
      · intro stream opened
        refine ⟨proxy, proxy_host, named, host, ?_⟩
        simp only [connect_via_http_proxy, host] at opened
        split at opened
        · cases opened
        · split at opened
          · cases opened
          · simp only at opened
            split at opened
            · cases opened
            · rcases Option.map_eq_some_iff.mp opened with ⟨head, _, answered⟩
              cases head with
              | error e => cases answered
              | ok head =>
                  simp only [Except.bind] at answered
                  split at answered <;> cases answered
                  rfl

theorem connect_with_connector_notBypassed {network : Network} {endpoint_str : String}
    {target proxy : Uri} (named : parse s = .ok proxy) :
    NotBypassed parse s (connect_with_connector network endpoint_str target proxy) := by
  rcases connect_via_http_proxy_named named with ⟨dialled, carried⟩
  refine ⟨dialled, fun dial connected => ?_⟩
  rcases Option.map_eq_some_iff.mp connected with ⟨stream, opened, answered⟩
  cases stream with
  | error e => cases answered
  | ok stream =>
      simp only at answered
      split at answered <;> cases answered
      exact carried stream opened

/-- The endpoint is refused before anybody is dialled. -/
def Refused (parse : String → Except String Uri) (network : Network) (endpoint_str : String) :
    Prop :=
  ∃ e, network.from_shared endpoint_str = .error e ∨ parse endpoint_str = .error e

theorem connect_channel_notBypassed_iff {network : Network} {var : Environment}
    {endpoint_str : String} :
    NotBypassed parse s (connect_channel parse network var (some s) endpoint_str) ↔
      (∃ proxy, parse s = .ok proxy) ∨ Refused parse network endpoint_str := by
  unfold connect_channel
  cases shared : network.from_shared endpoint_str with
  | error e => exact ⟨fun _ => .inr ⟨e, .inl shared⟩, fun _ => ⟨nofun, nofun⟩⟩
  | ok =>
      cases uri : parse endpoint_str with
      | error e => exact ⟨fun _ => .inr ⟨e, .inr uri⟩, fun _ => ⟨nofun, nofun⟩⟩
      | ok target =>
          cases named : parse s with
          | ok proxy =>
              simp only [resolve_proxy, named, Except.toOption]
              exact ⟨fun _ => .inl ⟨proxy, rfl⟩, fun _ => connect_with_connector_notBypassed named⟩
          | error e =>
              simp only [resolve_proxy, named, Except.toOption]
              constructor
              · intro respected
                rcases respected.dialled .direct (List.mem_singleton_self _) with
                  ⟨proxy, host, _, _, same⟩
                cases same
              · intro alternatives
                rcases alternatives with ⟨proxy, found⟩ | ⟨e, refused | refused⟩
                · cases found
                · rw [shared] at refused
                  cases refused
                · rw [uri] at refused
                  cases refused

/-- While a string that was accepted is the override, nobody but the proxy that it names
is dialled exactly if it is a URI, or the endpoint is none. -/
theorem explicit_proxy_not_bypassed_iff (parse : String → Except String Uri) (network : Network)
    (var : Environment) (endpoint_str : String) {slot PROXY_OVERRIDE : Option String} {ptr : Bytes}
    (accepted : zpr_grpc_set_proxy slot (some ptr) = (PROXY_OVERRIDE, ZPR_OK, none)) :
    ∃ s, cstr_to_str (some ptr) = .ok s ∧ PROXY_OVERRIDE = some s ∧
      (NotBypassed parse s (connect_channel parse network var PROXY_OVERRIDE endpoint_str) ↔
        (∃ proxy, parse s = .ok proxy) ∨ Refused parse network endpoint_str) := by
  cases decoded : cstr_to_str (some ptr) with
  | error e =>
      simp only [zpr_grpc_set_proxy, decoded, Prod.mk.injEq] at accepted
      cases accepted.2.1
  | ok s =>
      simp only [zpr_grpc_set_proxy, decoded, Prod.mk.injEq] at accepted
      rcases accepted with ⟨rfl, _⟩
      exact ⟨s, rfl, rfl, connect_channel_notBypassed_iff⟩

/-- A URI for the proxy, and the channel is the proxy's. -/
theorem explicit_proxy_not_bypassed_for_uri : ∃ parse network,
    NotBypassed parse "http://proxy:3128"
      (connect_channel parse network (fun _ => none) (some "http://proxy:3128")
        "http://localhost:50051") := by
  let parse : String → Except String Uri := fun text =>
    if text = "http://proxy:3128" then
      .ok ⟨some "http", some "proxy:3128", some "proxy", some 3128⟩
    else
      .ok ⟨some "http", some "localhost:50051", some "localhost", some 50051⟩
  let network : Network :=
    { from_shared := fun _ => .ok (), connect := fun _ => .error "unreachable"
      tcp_connect := fun _ _ => .ok (), exchange := fun _ _ _ => .ok []
      handshake := fun _ => .ok (), debug := String.quote }
  have accepted : zpr_grpc_set_proxy none (some (cstr "http://proxy:3128")) =
      (some "http://proxy:3128", ZPR_OK, none) := by
    simp only [zpr_grpc_set_proxy, cstr_to_str_cstr]
  rcases explicit_proxy_not_bypassed_iff parse network (fun _ => none) "http://localhost:50051"
    accepted with ⟨s, _, same, exactly⟩
  cases same
  exact ⟨parse, network, exactly.mpr (.inl ⟨_, if_pos rfl⟩)⟩

/-- A blank where the host has none: the string is stored, and the endpoint is dialled. -/
theorem unparsable_proxy_bypassed : ∃ parse network PROXY_OVERRIDE,
    zpr_grpc_set_proxy none (some (cstr "http://proxy corp:3128")) =
        (PROXY_OVERRIDE, ZPR_OK, none) ∧
      parse "http://proxy corp:3128" = .error "invalid uri character" ∧
      connect_channel parse network (fun _ => none) PROXY_OVERRIDE "http://localhost:50051" =
        { dialled := [.direct], outcome := some (.ok .direct) } ∧
      ¬ NotBypassed parse "http://proxy corp:3128"
        (connect_channel parse network (fun _ => none) PROXY_OVERRIDE "http://localhost:50051") := by
  let parse : String → Except String Uri := fun text =>
    if text = "http://localhost:50051" then
      .ok ⟨some "http", some "localhost:50051", some "localhost", some 50051⟩
    else
      .error "invalid uri character"
  let network : Network :=
    { from_shared := fun _ => .ok (), connect := fun _ => .ok ()
      tcp_connect := fun _ _ => .error "unreachable"
      exchange := fun _ _ _ => .error "unreachable"
      handshake := fun _ => .ok (), debug := String.quote }
  have misspelled : parse "http://proxy corp:3128" = .error "invalid uri character" :=
    if_neg (by decide)
  have endpoint : parse "http://localhost:50051" =
      .ok ⟨some "http", some "localhost:50051", some "localhost", some 50051⟩ := if_pos rfl
  have connected : connect_channel parse network (fun _ => none) (some "http://proxy corp:3128")
      "http://localhost:50051" = { dialled := [.direct], outcome := some (.ok .direct) } := by
    simp only [connect_channel, network, endpoint, resolve_proxy, misspelled, Except.toOption]
  refine ⟨parse, network, some "http://proxy corp:3128", ?_, misspelled, connected, ?_⟩
  · simp only [zpr_grpc_set_proxy, cstr_to_str_cstr]
  · rw [connected]
    intro respected
    rcases respected.dialled .direct (List.mem_singleton_self _) with ⟨proxy, host, _, _, same⟩
    cases same

end Explicit

/-! ## No proxy -/

/-- The environment excepts the target, or names no proxy for it that is a URI. -/
def NoneNamed (parse : String → Except String Uri) (var : Environment) (target : Uri) : Prop :=
  (∃ no_proxy, env_var_any var ["NO_PROXY", "no_proxy"] = some no_proxy ∧
    host_matches_no_proxy (target.host.getD "") no_proxy = true) ∨
  ∀ s, (env_var_any var (proxyNames target)).or (env_var_any var ["ALL_PROXY", "all_proxy"]) =
    some s → ∃ e, parse s = .error e

theorem resolve_proxy_none_iff {parse : String → Except String Uri} {var : Environment}
    {target : Uri} : resolve_proxy parse var none target = none ↔ NoneNamed parse var target := by
  simp only [resolve_proxy, NoneNamed, ite_eq_left_iff, Option.any_eq_true,
    Option.bind_eq_none_iff]
  constructor
  · intro resolved
    by_cases excepted : ∃ no_proxy, env_var_any var ["NO_PROXY", "no_proxy"] = some no_proxy ∧
        host_matches_no_proxy (target.host.getD "") no_proxy = true
    · exact .inl excepted
    · refine .inr fun s named => ?_
      have unparsable := resolved excepted s named
      cases parsed : parse s with
      | error e => exact ⟨e, rfl⟩
      | ok proxy => simp [parsed, Except.toOption] at unparsable
  · intro alternatives unexcepted s named
    rcases alternatives with excepted | unnamed
    · exact absurd excepted unexcepted
    · rcases unnamed s named with ⟨e, parsed⟩
      rw [parsed]
      rfl

/-- However the override was set before, `nil` clears it. -/
theorem overrideAfter_disable (slot : Option String) (earlier : List (Option Bytes))
    (more : Nat) : overrideAfter slot (earlier ++ none :: List.replicate more none) = none := by
  have stays : ∀ more, overrideAfter none (List.replicate more none) = none := by
    intro more
    induction more with
    | zero => rfl
    | succ more induction => exact induction
  rw [overrideAfter, List.foldl_append, List.foldl_cons]
  exact stays more

/-- What `DisableProxy` is to achieve, for a gRPC target and for the HTTP client. -/
structure Disabled {Proxy : Type u} (grpc : Option Uri) (http : Http.Routing Proxy) : Prop where
  grpc : grpc = none
  http : http = .no_proxy

/-- After `DisableProxy`, and whatever came before, a client that is built is told to use
no proxy, and a gRPC target has none exactly if the environment names none for it. -/
theorem disable_proxy_iff {Proxy : Type u} (parse : String → Except String Uri)
    (all : String → Option Proxy) (var : Environment) (earlier : List (Option Bytes)) (more : Nat)
    (state : Http.State Proxy) (index : Nat) (target : Uri) :
    Disabled
        (resolve_proxy parse var (overrideAfter none (earlier ++ none :: List.replicate more none))
          target)
        ((state.store index none).1.override all) ↔
      NoneNamed parse var target := by
  rw [overrideAfter_disable, ← resolve_proxy_none_iff]
  exact ⟨Disabled.grpc, fun resolved => ⟨resolved, rfl⟩⟩

/-- `HTTP_PROXY` is set, and the proxy has been disabled. -/
theorem disabled_proxy_used : ∃ parse proxy,
    resolve_proxy parse (fun name => if name = "HTTP_PROXY" then some "http://proxy:3128" else none)
        (overrideAfter none [none])
        ⟨some "http", some "localhost:50051", some "localhost", some 50051⟩ = some proxy ∧
      proxy.host = some "proxy" ∧
      ((Http.State.start.store 0 none).1.override fun url : String => some url) = .no_proxy := by
  refine ⟨fun _ => .ok ⟨some "http", some "proxy:3128", some "proxy", some 3128⟩, _, rfl, rfl, rfl⟩

end Zpr.Grpc.Proxy
