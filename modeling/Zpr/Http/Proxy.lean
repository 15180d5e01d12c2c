import Zpr.Ffi
import Zpr.Foundation.History

namespace Zpr.Http

open Ffi

/-! # The proxy of the shared HTTP client

`CLIENT` is built once, by the first request, which reads `PROXY_OVERRIDE`. Any number
of threads set the proxy and make requests. A step is the look at `CLIENT`, the store of
the override, or the one-time construction. `reqwest::Proxy::all`, which says what proxy
a URL names, comes from the outside. -/

/-- Where a client sends its requests. -/
inductive Routing (Proxy : Type u)
  /-- the builder was told nothing, so that reqwest reads the environment variables -/
  | environment
  | no_proxy
  | proxy (proxy : Proxy)
  deriving DecidableEq, Repr

/-- Where a call of some thread stands. -/
inductive Phase
  /-- in `zpr_http_set_proxy`, before the look at `CLIENT` -/
  | checking (proxy_url : Option Bytes)
  /-- in `zpr_http_set_proxy`, before the lock of `PROXY_OVERRIDE` -/
  | storing (proxy_url : Option Bytes)
  /-- in `zpr_http_request`, before `client` -/
  | requesting
  | returned
  deriving DecidableEq, Repr

structure State (Proxy : Type u) where
  CLIENT : Option (Routing Proxy)
  /-- the outer `none` before the slot has been made -/
  PROXY_OVERRIDE : Option (Option String)
  calls : List Phase

inductive Action
  | set_proxy (proxy_url : Option Bytes)
  | check (index : Nat)
  | store (index : Nat)
  | request
  /-- `client`, where the builder may fail -/
  | client (index : Nat) (build_error : Option String)
  deriving DecidableEq, Repr

inductive Reply (Proxy : Type u)
  | silent
  /-- `zpr_http_set_proxy` returns to the thread that passed `proxy_url` -/
  | returned (proxy_url : Option Bytes) (rc : Int) (last_error : Option String)
  /-- the request goes out -/
  | issued (routing : Routing Proxy)
  | failed (last_error : String)
  deriving DecidableEq, Repr

namespace State

variable {Proxy : Type u}

def start : State Proxy where
  CLIENT := none
  PROXY_OVERRIDE := none
  calls := []

def setPhase (state : State Proxy) (index : Nat) (phase : Phase) : State Proxy :=
  { state with calls := state.calls.set index phase }

/-- The beginning of `zpr_http_set_proxy`. -/
def check (state : State Proxy) (index : Nat) (proxy_url : Option Bytes) :
    State Proxy × Reply Proxy :=
  if state.CLIENT.isSome then
    (state.setPhase index .returned, .returned proxy_url ZPR_ERR
      (some "zpr_http_set_proxy called after the HTTP client was already built"))
  else
    (state.setPhase index (.storing proxy_url), .silent)

/-- What `zpr_http_set_proxy` does behind the lock of the slot. -/
def store (state : State Proxy) (index : Nat) (proxy_url : Option Bytes) :
    State Proxy × Reply Proxy :=
  let slot := state.PROXY_OVERRIDE.getD none
  let returned := state.setPhase index .returned
  match proxy_url with
  | none =>
      -- the sentinel for an explicit "no proxy"
      ({ returned with PROXY_OVERRIDE := some (some "") }, .returned proxy_url ZPR_OK none)
  | some ptr =>
      match cstr_to_str (some ptr) with
      | .ok s => ({ returned with PROXY_OVERRIDE := some (some s) }, .returned proxy_url ZPR_OK none)
      | .error e =>
          ({ returned with PROXY_OVERRIDE := some slot }, .returned proxy_url ZPR_ERR (some e))

/-- What `client` tells the builder. -/
def override (all : String → Option Proxy) (state : State Proxy) : Routing Proxy :=
  match state.PROXY_OVERRIDE with
  | none | some none => .environment
  | some (some url) =>
      if url = "" then
        .no_proxy
      else
        match all url with
        | some proxy => .proxy proxy
        | none => .environment

def client (all : String → Option Proxy) (state : State Proxy) (index : Nat)
    (build_error : Option String) : State Proxy × Reply Proxy :=
  let returned := state.setPhase index .returned
  match state.CLIENT with
  | some routing => (returned, .issued routing)
  | none =>
      match build_error with
      | none => ({ returned with CLIENT := some (state.override all) }, .issued (state.override all))
      | some e => (returned, .failed s!"failed to build the shared HTTP client: {e}")

end State

variable {Proxy : Type u}

def httpStep (all : String → Option Proxy) : PartialStep (State Proxy) Action (Reply Proxy)
  | state, .set_proxy proxy_url =>
      some ({ state with calls := state.calls ++ [.checking proxy_url] }, .silent)
  | state, .check index =>
      match state.calls[index]? with
      | some (.checking proxy_url) => some (state.check index proxy_url)
      | _ => none
  | state, .store index =>
      match state.calls[index]? with
      | some (.storing proxy_url) => some (state.store index proxy_url)
      | _ => none
  | state, .request => some ({ state with calls := state.calls ++ [.requesting] }, .silent)
  | state, .client index build_error =>
      match state.calls[index]? with
      | some .requesting => some (state.client all index build_error)
      | _ => none

/-! ## What a call that reports success promises -/

/-- The routing that a URL asks for. The empty string, like any other that names no
proxy, cannot be used. -/
def wanted (all : String → Option Proxy) : Option Bytes → Option (Routing Proxy)
  | none => some .no_proxy
  | some ptr =>
      match cstr_to_str (some ptr) with
      | .ok url => if url = "" then none else (all url).map .proxy
      | .error _ => none

/-- The URL that an event has accepted. -/
def acceptedOf (event : Action × Reply Proxy) : Option (Option Bytes) :=
  match event.2 with
  | .returned proxy_url rc _ => if rc = ZPR_OK then some proxy_url else none
  | _ => none

/-- The URL that was accepted last. -/
def lastAccepted (trace : List (Action × Reply Proxy)) : Option (Option Bytes) :=
  (trace.filterMap acceptedOf).getLast?

/-- No request has got its client yet. -/
def NoneIssued (trace : List (Action × Reply Proxy)) : Prop :=
  ∀ event ∈ trace, ∀ routing, event.2 ≠ .issued routing

/-- A request uses the proxy that was accepted last, and what is accepted is usable and
comes before any request has got its client. A request issued after a call of
`zpr_http_set_proxy` has returned gets its client after that. -/
def TakesEffect (all : String → Option Proxy) (earlier : List (Action × Reply Proxy))
    (event : Action × Reply Proxy) : Prop :=
  match event.2 with
  | .issued routing =>
      ∀ proxy_url, lastAccepted earlier = some proxy_url → wanted all proxy_url = some routing
  | .returned proxy_url rc _ =>
      rc = ZPR_OK → NoneIssued earlier ∧ ∃ routing, wanted all proxy_url = some routing
  | .silent | .failed _ => True

/-- A URL that is stored can be used, and nobody has built the client since the call
looked at it. What is not valid UTF-8 is not stored. -/
def StoresInTime (all : String → Option Proxy) (state : State Proxy) : Action → Prop
  | .store index => ∀ proxy_url, state.calls[index]? = some (.storing proxy_url) →
      (∃ ptr e, proxy_url = some ptr ∧ cstr_to_str (some ptr) = .error e) ∨
        (state.CLIENT = none ∧ ∃ routing, wanted all proxy_url = some routing)
  | _ => True

/-! ### What the steps do -/

theorem lastAccepted_next (trace : List (Action × Reply Proxy)) (event : Action × Reply Proxy) :
    lastAccepted (trace ++ [event]) = (acceptedOf event).or (lastAccepted trace) := by
  rw [lastAccepted, List.filterMap_append, List.getLast?_append]
  cases found : acceptedOf event <;> simp [found, lastAccepted]

theorem noneIssued_next {trace : List (Action × Reply Proxy)} {event : Action × Reply Proxy} :
    NoneIssued (trace ++ [event]) ↔ NoneIssued trace ∧ ∀ routing, event.2 ≠ .issued routing := by
  constructor
  · intro none
    refine ⟨fun other member => none other (List.mem_append_left _ member), ?_⟩
    exact none event (List.mem_append_right _ (List.mem_singleton_self _))
  · intro none other member
    rcases List.mem_append.mp member with before | last
    · exact none.1 other before
    · cases List.mem_singleton.mp last
      exact none.2

/-- The client and the override stay as they are. -/
structure Quiet (all : String → Option Proxy) (state next : State Proxy) : Prop where
  CLIENT : next.CLIENT = state.CLIENT
  override : next.override all = state.override all

/-- Everything that one step can do. -/
inductive HttpStep (all : String → Option Proxy) (state : State Proxy) :
    Action → State Proxy × Reply Proxy → Prop
  | waits (action : Action) (next : State Proxy) (quiet : Quiet all state next)
      (allowed : StoresInTime all state action) : HttpStep all state action (next, .silent)
  | fails (action : Action) (next : State Proxy) (error : String) (quiet : Quiet all state next)
      (allowed : StoresInTime all state action) : HttpStep all state action (next, .failed error)
  | refuses (action : Action) (next : State Proxy) (proxy_url : Option Bytes)
      (error : Option String) (quiet : Quiet all state next)
      (allowed : StoresInTime all state action) :
      HttpStep all state action (next, .returned proxy_url ZPR_ERR error)
  | accepts (index : Nat) (next : State Proxy) (proxy_url : Option Bytes)
      (known : state.calls[index]? = some (.storing proxy_url))
      (text : ∀ ptr e, proxy_url = some ptr → cstr_to_str (some ptr) ≠ .error e)
      (CLIENT : next.CLIENT = state.CLIENT)
      (stored : ∀ routing, wanted all proxy_url = some routing → next.override all = routing) :
      HttpStep all state (.store index) (next, .returned proxy_url ZPR_OK none)
  | issues (index : Nat) (build_error : Option String) (next : State Proxy)
      (built : next.CLIENT = some (state.CLIENT.getD (state.override all))) :
      HttpStep all state (.client index build_error)
        (next, .issued (state.CLIENT.getD (state.override all)))

theorem store_httpStep {all : String → Option Proxy} {state : State Proxy} {index : Nat}
    {proxy_url : Option Bytes} (known : state.calls[index]? = some (.storing proxy_url)) :
    HttpStep all state (.store index) (state.store index proxy_url) := by
  cases proxy_url with
  | none =>
      apply HttpStep.accepts index _ none known
      · exact nofun
      · rfl
      · intro routing asked
        cases asked
        simp [State.override]
  | some ptr =>
      cases decoded : cstr_to_str (some ptr) with
      | ok s =>
          simp only [State.store, decoded]
          apply HttpStep.accepts index _ (some ptr) known
          · intro other e same
            cases same
            simp [decoded]
          · rfl
          · intro routing asked
            simp only [wanted, decoded, Option.ite_none_left_eq_some, Option.map_eq_some_iff] at asked
            rcases asked with ⟨nonempty, proxy, named, rfl⟩
            simp [State.override, nonempty, named]
      | error e =>
          simp only [State.store, decoded]
          apply HttpStep.refuses
          · refine ⟨rfl, ?_⟩
            cases slot : state.PROXY_OVERRIDE <;> simp [State.override, slot]
          · intro other found
            rw [known] at found
            cases found
            exact .inl ⟨ptr, e, rfl, decoded⟩

theorem client_httpStep (all : String → Option Proxy) (state : State Proxy) (index : Nat)
    (build_error : Option String) :
    HttpStep all state (.client index build_error) (state.client all index build_error) := by
  cases built : state.CLIENT with
  | some routing =>
      have issues : HttpStep all state (.client index build_error)
          (state.setPhase index .returned, .issued (state.CLIENT.getD (state.override all))) := by
        apply HttpStep.issues
        simp [State.setPhase, built]
      simpa [State.client, built] using issues
  | none =>
      cases build_error with
      | none =>
          have issues : HttpStep all state (.client index none)
              ({ state.setPhase index .returned with CLIENT := some (state.override all) },
                .issued (state.CLIENT.getD (state.override all))) := by
            apply HttpStep.issues
            simp [built]
          simpa [State.client, built] using issues
      | some e =>
          simp only [State.client, built]
          exact .fails _ _ _ ⟨rfl, rfl⟩ trivial

theorem httpStep_cases {all : String → Option Proxy} {state : State Proxy}
    (taken : httpStep all state action = some result) : HttpStep all state action result := by
  cases action with
  | set_proxy proxy_url =>
      cases taken
      exact .waits _ _ ⟨rfl, rfl⟩ trivial
  | check index =>
      simp only [httpStep] at taken
      split at taken
      · cases taken
        unfold State.check
        split
        · exact .refuses _ _ _ _ ⟨rfl, rfl⟩ trivial
        · exact .waits _ _ ⟨rfl, rfl⟩ trivial
      · cases taken
  | store index =>
      simp only [httpStep] at taken
      split at taken
      · rename_i proxy_url known
        cases taken
        exact store_httpStep known
      · cases taken
  | request =>
      cases taken
      exact .waits _ _ ⟨rfl, rfl⟩ trivial
  | client index build_error =>
      simp only [httpStep] at taken
      split at taken
      · cases taken
        exact client_httpStep all state index build_error
      · cases taken

/-! ## Runs -/

/-- What is known while every URL is stored in time. -/
structure Current (all : String → Option Proxy) (trace : List (Action × Reply Proxy))
    (state : State Proxy) : Prop where
  unbuilt : state.CLIENT = none ↔ NoneIssued trace
  latest : ∀ proxy_url, lastAccepted trace = some proxy_url →
    wanted all proxy_url = some (state.CLIENT.getD (state.override all))

namespace Current

variable {all : String → Option Proxy} {state : State Proxy}

theorem start : Current all [] (.start : State Proxy) where
  unbuilt := ⟨fun _ => nofun, fun _ => rfl⟩
  latest := nofun

/-- A step that accepts and issues nothing. -/
theorem of_quiet {trace : List (Action × Reply Proxy)} {next : State Proxy}
    (current : Current all trace state) (quiet : Quiet all state next)
    (event : Action × Reply Proxy) (unaccepted : acceptedOf event = none)
    (unissued : ∀ routing, event.2 ≠ .issued routing) : Current all (trace ++ [event]) next := by
  constructor
  · rw [quiet.CLIENT, current.unbuilt, noneIssued_next]
    exact ⟨fun none => ⟨none, unissued⟩, fun none => none.1⟩
  · intro proxy_url last
    rw [lastAccepted_next, unaccepted, Option.none_or] at last
    rw [quiet.CLIENT, quiet.override]
    exact current.latest proxy_url last

theorem step {trace : List (Action × Reply Proxy)} {next : State Proxy}
    (current : Current all trace state) (inTime : StoresInTime all state action)
    (taken : httpStep all state action = some (next, reply)) :
    Current all (trace ++ [(action, reply)]) next := by
  cases httpStep_cases taken with
  | waits _ _ quiet => exact current.of_quiet quiet _ rfl nofun
  | fails _ _ error quiet => exact current.of_quiet quiet _ rfl nofun
  | refuses _ _ proxy_url error quiet => exact current.of_quiet quiet _ rfl nofun
  | accepts index _ proxy_url known text CLIENT stored =>
      rcases inTime proxy_url known with ⟨ptr, e, given, bad⟩ | ⟨unbuilt, routing, asked⟩
      · exact absurd bad (text ptr e given)
      · constructor
        · rw [CLIENT, current.unbuilt, noneIssued_next]
          exact ⟨fun none => ⟨none, nofun⟩, fun none => none.1⟩
        · intro other last
          rw [lastAccepted_next] at last
          cases last
          rw [CLIENT, unbuilt, asked, Option.getD_none, stored routing asked]
  | issues index build_error _ built =>
      constructor
      · rw [built, noneIssued_next]
        constructor
        · exact nofun
        · intro none
          exact absurd rfl (none.2 _)
      · intro proxy_url last
        rw [lastAccepted_next] at last
        rw [built]
        exact current.latest proxy_url last

theorem takesEffect_iff {trace : List (Action × Reply Proxy)} {next : State Proxy}
    (current : Current all trace state) (taken : httpStep all state action = some (next, reply)) :
    TakesEffect all trace (action, reply) ↔ StoresInTime all state action := by
  cases httpStep_cases taken with
  | waits _ _ _ allowed => exact ⟨fun _ => allowed, fun _ => trivial⟩
  | fails _ _ error _ allowed => exact ⟨fun _ => allowed, fun _ => trivial⟩
  | refuses _ _ proxy_url error _ allowed => exact ⟨fun _ => allowed, fun _ ok => by cases ok⟩
  | accepts index _ proxy_url known text =>
      constructor
      · intro promised other found
        rw [known] at found
        cases found
        rcases promised rfl with ⟨unissued, usable⟩
        exact .inr ⟨current.unbuilt.mpr unissued, usable⟩
      · intro inTime _
        rcases inTime proxy_url known with ⟨ptr, e, given, bad⟩ | ⟨unbuilt, usable⟩
        · exact absurd bad (text ptr e given)
        · exact ⟨current.unbuilt.mp unbuilt, usable⟩
  | issues index build_error => exact ⟨fun _ => trivial, fun _ => current.latest⟩

end Current

/-- In a run of any number of threads, the proxy that was accepted last is the one that
requests use, and what comes too late or cannot be used is refused, exactly if every URL
is stored in time and can be used. -/
theorem set_proxy_takes_effect_iff (all : String → Option Proxy)
    (trace : List (Action × Reply Proxy)) (state : State Proxy) :
    (Run (httpStep all) .start trace state ∧ Everywhere (TakesEffect all) trace) ↔
      RunWhere (StoresInTime all) (httpStep all) .start trace state := by
  have start : Current all [] (.start : State Proxy) := .start
  apply RunWhere.everywhere_iff start
  · exact fun current inTime taken => current.step inTime taken
  · exact fun current taken => current.takesEffect_iff taken

/-- A request builds the client between the look and the store of a call that forces no
proxy. The call reports success, and the next request goes where the environment says. -/
theorem set_proxy_overtaken : ∃ trace state,
    Run (httpStep fun url => some url) .start trace state ∧
      trace.map Prod.fst = [.set_proxy none, .check 0, .request, .client 1 none, .store 0,
        .request, .client 2 none] ∧
      trace.map Prod.snd = [.silent, .silent, .silent, .issued .environment,
        .returned none ZPR_OK none, .silent, .issued .environment] ∧
      ¬ Everywhere (TakesEffect fun url => some url) trace := by
  have replayed : ∃ trace state, replay (httpStep fun url => some url) .start
        [.set_proxy none, .check 0, .request, .client 1 none, .store 0, .request,
          .client 2 none] = some (trace, state) ∧
      trace = [(.set_proxy none, .silent), (.check 0, .silent), (.request, .silent),
        (.client 1 none, .issued .environment), (.store 0, .returned none ZPR_OK none),
        (.request, .silent), (.client 2 none, .issued .environment)] := ⟨_, _, rfl, rfl⟩
  rcases replayed with ⟨trace, state, replayed, same⟩
  refine ⟨trace, state, run_of_replay replayed, by rw [same]; rfl, by rw [same]; rfl, ?_⟩
  rw [same]
  intro holds
  have last := holds [_, _, _, _, _, _] (.client 2 none, .issued .environment) [] rfl
  have promised := last none rfl
  cases promised

end Zpr.Http
