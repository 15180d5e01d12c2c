import Zpr.Foundation.Segments
import Zpr.Grpc.Proxy

namespace Zpr.Grpc.Proxy

open Segments

/-! # The proxy that the environment names

Without an override the environment decides: a list of exceptions, then the variables of
the target's scheme, then those of every scheme. A variable comes in upper and in lower
case. -/

/-! ## Exceptions -/

/-- The labels of a domain name. -/
def labels (name : List Char) : List (List Char) := name.splitOn '.'

/-- One entry of a list of exceptions, as `host_matches_no_proxy` compares it. -/
def entryPattern (entry : List Char) : List Char := (trim entry).dropWhile (· == '.')

theorem pattern_matches_iff (host pattern : List Char) :
    (host == pattern || ('.' :: pattern).isSuffixOf host) = true ↔
      labels pattern <:+ labels host := by
  rw [labels, labels, splitOn_suffix_iff, Bool.or_eq_true, beq_iff_eq, List.isSuffixOf_iff_suffix]

/-- An entry excepts the hosts that end with its labels, and no host that merely ends with
its characters. -/
theorem host_matches_by_labels (host no_proxy : String) :
    (host_matches_no_proxy host no_proxy = true ↔
      ∃ entry ∈ no_proxy.toList.splitOn ',', trim entry ≠ [] ∧
        labels (entryPattern entry) <:+ labels host.toList) ∧
    ∀ before pattern, host.toList = before ++ pattern → before ≠ [] →
      before.getLast? ≠ some '.' → ¬ labels pattern <:+ labels host.toList := by
  constructor
  · rw [host_matches_no_proxy, List.any_eq_true]
    constructor
    · intro found
      rcases found with ⟨pattern, member, matched⟩
      rw [List.mem_filter, List.mem_map] at member
      rcases member with ⟨⟨entry, listed, rfl⟩, something⟩
      refine ⟨entry, listed, by simpa using something, ?_⟩
      exact (pattern_matches_iff host.toList (entryPattern entry)).mp matched
    · intro found
      rcases found with ⟨entry, listed, something, ends⟩
      refine ⟨trim entry, ?_, (pattern_matches_iff _ _).mpr ends⟩
      rw [List.mem_filter, List.mem_map]
      exact ⟨⟨entry, listed, rfl⟩, by simpa using something⟩
  · intro before pattern equal something inside
    rw [equal]
    exact not_splitOn_suffix_of_inside something inside

example : host_matches_no_proxy "api.example.com" " , .example.com" = true := by decide

example : host_matches_no_proxy "badexample.com" "example.com" = false := by decide

/-! ## Empty variables -/

/-- The first of the variables that is not empty. -/
def firstNonEmpty (var : Environment) (names : List String) : Option String :=
  names.findSome? fun name => (var name).filter fun v => v ≠ ""

/-- The first of the variables that is set is empty, and stands before one that is not. -/
structure Hides (var : Environment) (names : List String) (v : String) : Prop where
  first : names.findSome? var = some ""
  nonEmpty : firstNonEmpty var names = some v

section

variable {var : Environment} {names : List String}

theorem firstNonEmpty_cons_of_nothing {name : String}
    (nothing : var name = none ∨ var name = some "") :
    firstNonEmpty var (name :: names) = firstNonEmpty var names := by
  rw [firstNonEmpty, List.findSome?_cons]
  rcases nothing with unset | empty
  · rw [unset]
    rfl
  · rw [empty]
    rfl

theorem firstNonEmpty_cons_of_something {name v : String} (set : var name = some v)
    (something : v ≠ "") : firstNonEmpty var (name :: names) = some v := by
  have kept : (some v).filter (fun v => v ≠ "") = some v := by
    rw [Option.filter_some, if_pos (by simpa using something)]
  rw [firstNonEmpty, List.findSome?_cons, set, kept]

theorem firstNonEmpty_of_unset (unset : names.findSome? var = none) :
    firstNonEmpty var names = none := by
  rw [List.findSome?_eq_none_iff] at unset
  rw [firstNonEmpty, List.findSome?_eq_none_iff]
  intro name member
  rw [unset name member, Option.filter_none]

theorem firstNonEmpty_of_first {v : String} (first : names.findSome? var = some v)
    (something : v ≠ "") : firstNonEmpty var names = some v := by
  induction names with
  | nil => cases first
  | cons name names induction =>
      rw [List.findSome?_cons] at first
      cases set : var name with
      | none =>
          rw [set] at first
          rw [firstNonEmpty_cons_of_nothing (.inl set)]
          exact induction first
      | some other =>
          rw [set] at first
          cases first
          exact firstNonEmpty_cons_of_something set something

theorem firstNonEmpty_append (var : Environment) (names others : List String) :
    firstNonEmpty var (names ++ others) =
      (firstNonEmpty var names).or (firstNonEmpty var others) :=
  List.findSome?_append

theorem env_var_any_of_hides {v : String} (hides : Hides var names v) :
    env_var_any var names = none := by
  rw [env_var_any, hides.first]
  rfl

/-- The variables are read as they should be exactly if none is hidden by an empty one. -/
theorem env_var_any_eq_iff :
    env_var_any var names = firstNonEmpty var names ↔ ∀ v, ¬ Hides var names v := by
  constructor
  · intro same v hides
    rw [env_var_any_of_hides hides, hides.nonEmpty] at same
    cases same
  · intro unhidden
    cases first : names.findSome? var with
    | none =>
        rw [env_var_any, first, firstNonEmpty_of_unset first]
        rfl
    | some v =>
        by_cases something : v = ""
        · rw [something] at first
          rw [env_var_any, first]
          cases nonEmpty : firstNonEmpty var names with
          | none => rfl
          | some other => exact absurd ⟨first, nonEmpty⟩ (unhidden other)
        · rw [env_var_any, first, firstNonEmpty_of_first first something, Option.filter_some,
            if_pos (by simpa using something)]

theorem hides_pair_iff {upper lower v : String} :
    Hides var [upper, lower] v ↔ var upper = some "" ∧ var lower = some v ∧ v ≠ "" := by
  constructor
  · intro hides
    rcases hides with ⟨first, nonEmpty⟩
    have nothing : var upper = none ∨ var upper = some "" := by
      cases set : var upper with
      | none => exact .inl rfl
      | some other =>
          rw [List.findSome?_cons, set] at first
          exact .inr first
    rw [firstNonEmpty_cons_of_nothing nothing] at nonEmpty
    by_cases empty : var lower = none ∨ var lower = some ""
    · rw [firstNonEmpty_cons_of_nothing empty] at nonEmpty
      cases nonEmpty
    · cases set : var lower with
      | none => exact absurd (.inl set) empty
      | some other =>
          have something : other ≠ "" := fun same => empty (.inr (same ▸ set))
          rw [firstNonEmpty_cons_of_something set something] at nonEmpty
          cases nonEmpty
          rcases nothing with unset | alreadyEmpty
          · rw [List.findSome?_cons, unset, List.findSome?_cons, set] at first
            cases first
            exact absurd rfl something
          · exact ⟨alreadyEmpty, rfl, something⟩
  · intro pair
    rcases pair with ⟨first, later, something⟩
    constructor
    · rw [List.findSome?_cons, first]
    · rw [firstNonEmpty_cons_of_nothing (.inr first),
        firstNonEmpty_cons_of_something later something]

end

/-! ## Two rows of variables -/

/-- Whatever is hidden in a row of variables, or in the row that stands in for it, leads to
the same result. -/
structure Harmless {Result : Type u} (parse : String → Option Result) (var : Environment)
    (names others : List String) : Prop where
  /-- what is hidden in the first row leads to what the second one leads to instead -/
  first : (∀ w, ¬ Hides var others w) → ∀ v, Hides var names v →
    parse v = (firstNonEmpty var others).bind parse
  /-- or to nothing, if what would be used instead is hidden too -/
  both : ∀ v w, Hides var names v → Hides var others w → parse v = none
  /-- what is hidden in the second row leads to nothing, where it is looked for -/
  second : firstNonEmpty var names = none → ∀ w, Hides var others w → parse w = none

section

variable {Result : Type u} {parse : String → Option Result} {var : Environment}
  {names others : List String}

theorem env_var_any_of_nothing (nothing : firstNonEmpty var names = none) :
    env_var_any var names = none := by
  rw [← nothing, env_var_any_eq_iff]
  intro v hides
  rw [hides.nonEmpty] at nothing
  cases nothing

theorem harmless_of_lookup_eq
    (same : ((env_var_any var names).or (env_var_any var others)).bind parse =
      (firstNonEmpty var (names ++ others)).bind parse) : Harmless parse var names others := by
  rw [firstNonEmpty_append] at same
  constructor
  · intro unhidden v hides
    rw [env_var_any_of_hides hides, hides.nonEmpty, env_var_any_eq_iff.mpr unhidden] at same
    exact same.symm
  · intro v w hides hidesOther
    rw [env_var_any_of_hides hides, hides.nonEmpty, env_var_any_of_hides hidesOther] at same
    exact same.symm
  · intro nothing w hides
    rw [env_var_any_of_nothing nothing, nothing, env_var_any_of_hides hides, hides.nonEmpty]
      at same
    exact same.symm

theorem lookup_eq_of_harmless (harmless : Harmless parse var names others) :
    ((env_var_any var names).or (env_var_any var others)).bind parse =
      (firstNonEmpty var (names ++ others)).bind parse := by
  rw [firstNonEmpty_append]
  by_cases hidden : ∃ v, Hides var names v <;> by_cases hiddenOther : ∃ w, Hides var others w
  · rcases hidden with ⟨v, hides⟩
    rcases hiddenOther with ⟨w, hidesOther⟩
    rw [env_var_any_of_hides hides, env_var_any_of_hides hidesOther, hides.nonEmpty]
    exact (harmless.both v w hides hidesOther).symm
  · rcases hidden with ⟨v, hides⟩
    have unhidden := not_exists.mp hiddenOther
    rw [env_var_any_of_hides hides, env_var_any_eq_iff.mpr unhidden, hides.nonEmpty]
    exact (harmless.first unhidden v hides).symm
  · rcases hiddenOther with ⟨w, hidesOther⟩
    rw [env_var_any_eq_iff.mpr (not_exists.mp hidden), env_var_any_of_hides hidesOther]
    cases found : firstNonEmpty var names with
    | some v => rfl
    | none =>
        rw [Option.none_or, Option.none_or, hidesOther.nonEmpty]
        exact (harmless.second found w hidesOther).symm
  · rw [env_var_any_eq_iff.mpr (not_exists.mp hidden),
      env_var_any_eq_iff.mpr (not_exists.mp hiddenOther)]

theorem lookup_eq_iff :
    ((env_var_any var names).or (env_var_any var others)).bind parse =
        (firstNonEmpty var (names ++ others)).bind parse ↔
      Harmless parse var names others :=
  ⟨harmless_of_lookup_eq, lookup_eq_of_harmless⟩

end

/-! ## Precedence -/

/-- The target is on the list of exceptions. -/
def Excepted (var : Environment) (target : Uri) : Prop :=
  (firstNonEmpty var ["NO_PROXY", "no_proxy"]).any
    (host_matches_no_proxy (target.host.getD "")) = true

/-- The variables that may name the proxy of a target, the most specific first. -/
def precedence (target : Uri) : List String :=
  if target.scheme_str = some "https" then
    ["HTTPS_PROXY", "https_proxy", "ALL_PROXY", "all_proxy"]
  else
    ["HTTP_PROXY", "http_proxy", "ALL_PROXY", "all_proxy"]

theorem precedence_eq (target : Uri) :
    precedence target = proxyNames target ++ ["ALL_PROXY", "all_proxy"] := by
  rw [precedence, proxyNames]
  split <;> rfl

/-- Of each list of variables the first that is not empty decides, and a value that does
not parse names no proxy. -/
structure FollowsPrecedence (parse : String → Except String Uri) (var : Environment)
    (target : Uri) : Prop where
  exceptions : env_var_any var ["NO_PROXY", "no_proxy"] =
    firstNonEmpty var ["NO_PROXY", "no_proxy"]
  proxy : ¬ Excepted var target → resolve_proxy parse var none target =
    (firstNonEmpty var (precedence target)).bind fun s => (parse s).toOption

/-- No empty variable hides one that is not empty, or none that makes a difference. -/
structure NothingHidden (parse : String → Except String Uri) (var : Environment)
    (target : Uri) : Prop where
  exceptions : ∀ v, ¬ Hides var ["NO_PROXY", "no_proxy"] v
  proxy : ¬ Excepted var target →
    Harmless (fun s => (parse s).toOption) var (proxyNames target) ["ALL_PROXY", "all_proxy"]

section

variable {parse : String → Except String Uri} {var : Environment} {target : Uri}

theorem resolve_proxy_of_unexcepted
    (exceptions : env_var_any var ["NO_PROXY", "no_proxy"] =
      firstNonEmpty var ["NO_PROXY", "no_proxy"])
    (unexcepted : ¬ Excepted var target) :
    resolve_proxy parse var none target =
      ((env_var_any var (proxyNames target)).or
        (env_var_any var ["ALL_PROXY", "all_proxy"])).bind fun s => (parse s).toOption := by
  rw [Excepted, ← exceptions] at unexcepted
  rw [resolve_proxy]
  exact if_neg unexcepted

/-- The environment's proxy is chosen by the precedence of its variables exactly if no
empty variable gets in the way. -/
theorem environment_precedence_iff (parse : String → Except String Uri) (var : Environment)
    (target : Uri) : FollowsPrecedence parse var target ↔ NothingHidden parse var target := by
  constructor
  · intro follows
    constructor
    · exact env_var_any_eq_iff.mp follows.exceptions
    · intro unexcepted
      rw [← lookup_eq_iff, ← resolve_proxy_of_unexcepted follows.exceptions unexcepted,
        ← precedence_eq]
      exact follows.proxy unexcepted
  · intro hidden
    have exceptions := env_var_any_eq_iff.mpr hidden.exceptions
    constructor
    · exact exceptions
    · intro unexcepted
      rw [resolve_proxy_of_unexcepted exceptions unexcepted, precedence_eq, lookup_eq_iff]
      exact hidden.proxy unexcepted

end

/-- `HTTP_PROXY` is set to nothing, and `http_proxy` to a proxy. -/
theorem empty_variable_hides_proxy : ∃ (parse : String → Except String Uri) (var : Environment)
    (target proxy : Uri),
    var "HTTP_PROXY" = some "" ∧ var "http_proxy" = some "http://proxy:3128" ∧
      parse "http://proxy:3128" = .ok proxy ∧ target.scheme_str = some "http" ∧
      (∀ name, name ≠ "HTTP_PROXY" → name ≠ "http_proxy" → var name = none) ∧
      resolve_proxy parse var none target = none ∧ ¬ FollowsPrecedence parse var target := by
  let proxy : Uri := ⟨some "http", some "proxy:3128", some "proxy", some 3128⟩
  let target : Uri := ⟨some "http", some "localhost:50051", some "localhost", some 50051⟩
  let var : Environment := fun name =>
    if name = "HTTP_PROXY" then some ""
    else if name = "http_proxy" then some "http://proxy:3128"
    else none
  have elsewhere : ∀ name, name ≠ "HTTP_PROXY" → name ≠ "http_proxy" → var name = none :=
    fun name upper lower => by rw [show var name = _ from if_neg upper, if_neg lower]
  have hides : Hides var (proxyNames target) "http://proxy:3128" :=
    hides_pair_iff.mpr ⟨rfl, rfl, by decide⟩
  have unexcepted : ¬ Excepted var target := by
    have unset : firstNonEmpty var ["NO_PROXY", "no_proxy"] = none := rfl
    rw [Excepted, unset]
    exact Bool.false_ne_true
  have resolved : resolve_proxy (fun _ => .ok proxy) var none target = none := rfl
  refine ⟨fun _ => .ok proxy, var, target, proxy, rfl, rfl, rfl, rfl, elsewhere, resolved, ?_⟩
  intro follows
  have chosen := follows.proxy unexcepted
  rw [resolved, precedence_eq, firstNonEmpty_append, hides.nonEmpty] at chosen
  cases chosen

end Zpr.Grpc.Proxy
