import Zpr.Foundation.MultiMap
import Zpr.Json.Handles

namespace Zpr.RequestHeaders

open Json

/-! # The headers that a host gives to a request

`apply_metadata_json` puts the entries of a JSON object into the metadata of a gRPC request,
and `parse_headers` into the headers of an HTTP request. Both insert into an
`http::HeaderMap`, whose names are in lower case. -/

abbrev HeaderMap := MultiMap String String

/-- What comes from serde_json, tonic and http. -/
structure Outside where
  /-- `serde_json::from_str` -/
  from_str : String → Except String Value
  /-- `MetadataKey::<Ascii>::from_bytes` -/
  metadata_key : String → Except String String
  /-- `MetadataValue::try_from` -/
  metadata_value : String → Except String String
  /-- `HeaderName::from_bytes` -/
  header_name : String → Except String String
  /-- `HeaderValue::from_str` -/
  header_value : String → Except String String
  /-- the map is too large to insert under a name, which makes it panic -/
  full : HeaderMap → String → Bool
  /-- a text as `{:?}` formats it -/
  debug : String → String

def lowercase (name : String) : String := String.ofList (name.toList.map Char.toLower)

/-- A name is normalized to lower case, and a value is its text. -/
structure Outside.Documented (outside : Outside) : Prop where
  metadata_key : ∀ k key, outside.metadata_key k = .ok key → key = lowercase k
  metadata_value : ∀ s val, outside.metadata_value s = .ok val → val = s
  header_name : ∀ k name, outside.header_name k = .ok name → name = lowercase k
  header_value : ∀ s value, outside.header_value s = .ok value → value = s

/-! ## The two functions -/

/-- The loop over the entries of an object: what it ends with, and the map that it leaves,
or `none` for a panic. -/
def insertEntries (full : HeaderMap → String → Bool)
    (parse : String → Value → Except String (String × String)) :
    HeaderMap → List (String × Value) → Option (Except String Unit × HeaderMap)
  | map, [] => some (.ok (), map)
  | map, (k, v) :: obj =>
      match parse k v with
      | .error e => some (.error e, map)
      | .ok (name, value) =>
          if full map name then none else insertEntries full parse (map.insert name value) obj

variable (outside : Outside)

/-- The body of the loop of `apply_metadata_json`. -/
def metadata_entry (k : String) (v : Value) : Except String (String × String) := do
  let s ← (as_str v).elim (.error s!"metadata {outside.debug k} value must be a string") .ok
  let key ← (outside.metadata_key k).mapError fun e => s!"invalid metadata key {outside.debug k}: {e}"
  let val ← (outside.metadata_value s).mapError fun e =>
    s!"invalid metadata value for {outside.debug k}: {e}"
  .ok (key, val)

/-- The body of the loop of `parse_headers`, which looks at the name first. -/
def header_entry (k : String) (v : Value) : Except String (String × String) := do
  let name ← (outside.header_name k).mapError fun e => s!"invalid header name {outside.debug k}: {e}"
  let s ← (as_str v).elim (.error s!"header {outside.debug k} value must be a string") .ok
  let value ← (outside.header_value s).mapError fun e =>
    s!"invalid header value for {outside.debug k}: {e}"
  .ok (name, value)

/-- The object that both begin with. -/
def read_object (kind json : String) : Except String (List (String × Value)) := do
  let value ← (outside.from_str json).mapError fun e => s!"invalid {kind} JSON: {e}"
  (as_object value).elim (.error s!"{kind} JSON must be an object") .ok

/-- `map` is the metadata of the request, which keeps what was inserted before an error. -/
def apply_metadata_json (map : HeaderMap) (metadata_json : Option String) :
    Option (Except String Unit × HeaderMap) :=
  match metadata_json with
  | none => some (.ok (), map)
  | some json =>
      match read_object outside "metadata" json with
      | .error e => some (.error e, map)
      | .ok obj => insertEntries outside.full (metadata_entry outside) map obj

def parse_headers (json : String) : Option (Except String HeaderMap) :=
  match read_object outside "headers" json with
  | .error e => some (.error e)
  | .ok obj =>
      (insertEntries outside.full (header_entry outside) [] obj).map fun (result, map) =>
        result.map fun _ => map

/-! ## What an entry becomes -/

/-- The header that an entry is to become. -/
def headerOf : String × Value → Option (String × String)
  | (k, .String s) => some (lowercase k, s)
  | _ => none

theorem mem_headers_iff {obj : List (String × Value)} {header : String × String} :
    header ∈ obj.filterMap headerOf ↔
      ∃ k, (k, Value.String header.2) ∈ obj ∧ lowercase k = header.1 := by
  rw [List.mem_filterMap]
  constructor
  · intro found
    rcases found with ⟨⟨k, v⟩, member, becomes⟩
    cases v with
    | String s =>
        cases becomes
        exact ⟨k, member, rfl⟩
    | Null | Bool | Number | Array | Object => cases becomes
  · intro found
    rcases found with ⟨k, member, same⟩
    exact ⟨_, member, by rw [headerOf, same]⟩

/-- Where an entry is taken, it is a string under a name, and becomes just that. -/
def Reads (parse : String → Value → Except String (String × String)) : Prop :=
  ∀ k v header, parse k v = .ok header → headerOf (k, v) = some header

variable {outside}

theorem bind_ok {Found Result : Type} {found : Except String Found}
    {next : Found → Except String Result} {result : Result}
    (succeeded : (found >>= next) = .ok result) :
    ∃ value, found = .ok value ∧ next value = .ok result := by
  cases found with
  | error e => cases succeeded
  | ok value => exact ⟨value, rfl, succeeded⟩

theorem mapError_ok {Found : Type} {found : Except String Found} {describe : String → String}
    {value : Found} (succeeded : found.mapError describe = .ok value) : found = .ok value := by
  cases found with
  | error e => cases succeeded
  | ok value => exact succeeded

theorem as_str_ok {v : Value} {error s : String}
    (succeeded : (as_str v).elim (.error error) Except.ok = .ok s) : v = .String s := by
  cases v with
  | String text =>
      cases succeeded
      rfl
  | Null | Bool | Number | Array | Object => cases succeeded

theorem reads_metadata_entry (documented : outside.Documented) :
    Reads (metadata_entry outside) := by
  intro k v header parsed
  rcases bind_ok parsed with ⟨s, text, parsed⟩
  rcases bind_ok parsed with ⟨key, named, parsed⟩
  rcases bind_ok parsed with ⟨val, valued, parsed⟩
  cases parsed
  rw [as_str_ok text, documented.metadata_key k key (mapError_ok named),
    documented.metadata_value s val (mapError_ok valued)]
  rfl

theorem reads_header_entry (documented : outside.Documented) : Reads (header_entry outside) := by
  intro k v header parsed
  rcases bind_ok parsed with ⟨name, named, parsed⟩
  rcases bind_ok parsed with ⟨s, text, parsed⟩
  rcases bind_ok parsed with ⟨value, valued, parsed⟩
  cases parsed
  rw [as_str_ok text, documented.header_name k name (mapError_ok named),
    documented.header_value s value (mapError_ok valued)]
  rfl

/-- A loop that comes to its end has inserted a header for every entry. -/
theorem insertEntries_of_reads {full : HeaderMap → String → Bool}
    {parse : String → Value → Except String (String × String)} (reads : Reads parse)
    {map after : HeaderMap} {obj : List (String × Value)}
    (inserted : insertEntries full parse map obj = some (.ok (), after)) :
    (∀ entry ∈ obj, (headerOf entry).isSome) ∧ after = map.insertAll (obj.filterMap headerOf) := by
  induction obj generalizing map with
  | nil =>
      cases inserted
      exact ⟨fun _ member => absurd member List.not_mem_nil, rfl⟩
  | cons entry obj induction =>
      rcases entry with ⟨k, v⟩
      rw [insertEntries] at inserted
      cases parsed : parse k v with
      | error e =>
          rw [parsed] at inserted
          cases inserted
      | ok header =>
          rw [parsed] at inserted
          have becomes := reads k v header parsed
          rcases Option.ite_none_left_eq_some.mp inserted with ⟨_, later⟩
          rcases induction later with ⟨all, rest⟩
          constructor
          · intro other member
            rcases List.mem_cons.mp member with same | member
            · rw [same, becomes]
              rfl
            · exact all other member
          · rw [List.filterMap_cons, becomes]
            exact rest

/-! ## Lost entries -/

/-- What is promised about an object that is accepted. -/
structure Kept (obj : List (String × Value)) (before after : HeaderMap) : Prop where
  entries : ∀ k v, (k, v) ∈ obj → ∃ s, v = .String s ∧ (lowercase k, s) ∈ after
  others : ∀ header ∈ after,
    header ∈ before ∨ ∃ k, (k, Value.String header.2) ∈ obj ∧ lowercase k = header.1

/-- Entries whose names differ in nothing but case have the same value. -/
def Agree (obj : List (String × Value)) : Prop :=
  ∀ k s other t, (k, Value.String s) ∈ obj → (other, Value.String t) ∈ obj →
    lowercase k = lowercase other → s = t

theorem kept_iff_agree {obj : List (String × Value)} (before : HeaderMap)
    (all : ∀ entry ∈ obj, (headerOf entry).isSome) :
    Kept obj before (before.insertAll (obj.filterMap headerOf)) ↔ Agree obj := by
  have every : Kept obj before (before.insertAll (obj.filterMap headerOf)) ↔
      ∀ header ∈ obj.filterMap headerOf, header ∈ before.insertAll (obj.filterMap headerOf) := by
    constructor
    · intro kept header member
      rcases mem_headers_iff.mp member with ⟨k, held, named⟩
      rcases kept.entries k _ held with ⟨s, same, inserted⟩
      cases same
      rw [named] at inserted
      exact inserted
    · intro inserted
      constructor
      · intro k v member
        have taken := all (k, v) member
        cases v with
        | String s =>
            have header : (lowercase k, s) ∈ obj.filterMap headerOf :=
              mem_headers_iff.mpr ⟨k, member, rfl⟩
            exact ⟨s, rfl, inserted _ header⟩
        | Null | Bool | Number | Array | Object => cases taken
      · intro header held
        rcases MultiMap.mem_or_mem_of_mem_insertAll held with fresh | old
        · exact .inr (mem_headers_iff.mp fresh)
        · exact .inl old
  rw [every, MultiMap.all_mem_insertAll_iff]
  constructor
  · intro agree k s other t member otherMember same
    apply agree (lowercase k) s t
    · exact mem_headers_iff.mpr ⟨k, member, rfl⟩
    · exact mem_headers_iff.mpr ⟨other, otherMember, same.symm⟩
  · intro agree name s t member otherMember
    rcases mem_headers_iff.mp member with ⟨k, held, named⟩
    rcases mem_headers_iff.mp otherMember with ⟨other, otherHeld, otherNamed⟩
    exact agree k s other t held otherHeld (named.trans otherNamed.symm)

theorem read_object_ok {kind json : String} {obj : List (String × Value)}
    (succeeded : read_object outside kind json = .ok obj) :
    outside.from_str json = .ok (.Object obj) := by
  rcases bind_ok succeeded with ⟨value, read, object⟩
  cases value with
  | Object fields =>
      cases object
      exact mapError_ok read
  | Null | Bool | Number | String | Array => cases object

theorem apply_metadata_json_accepted {req after : HeaderMap} {json : String}
    (accepted : apply_metadata_json outside req (some json) = some (.ok (), after)) :
    ∃ obj, outside.from_str json = .ok (.Object obj) ∧
      insertEntries outside.full (metadata_entry outside) req obj = some (.ok (), after) := by
  rw [apply_metadata_json] at accepted
  cases object : read_object outside "metadata" json with
  | error e =>
      rw [object] at accepted
      cases accepted
  | ok obj =>
      rw [object] at accepted
      exact ⟨obj, read_object_ok object, accepted⟩

theorem parse_headers_accepted {json : String} {headers : HeaderMap}
    (accepted : parse_headers outside json = some (.ok headers)) :
    ∃ obj, outside.from_str json = .ok (.Object obj) ∧
      insertEntries outside.full (header_entry outside) [] obj = some (.ok (), headers) := by
  rw [parse_headers] at accepted
  cases object : read_object outside "headers" json with
  | error e =>
      rw [object] at accepted
      cases accepted
  | ok obj =>
      rw [object] at accepted
      rcases Option.map_eq_some_iff.mp accepted with ⟨⟨result, map⟩, inserted, answered⟩
      cases result with
      | error e => cases answered
      | ok =>
          cases answered
          exact ⟨obj, read_object_ok object, inserted⟩

/-- An object that either of the two functions accepts loses no entry, and brings nothing
else, exactly if names that are equal up to case have the same value. -/
theorem entries_kept_iff (documented : outside.Documented) :
    (∀ req after metadata_json,
      apply_metadata_json outside req (some metadata_json) = some (.ok (), after) →
      ∃ obj, outside.from_str metadata_json = .ok (.Object obj) ∧
        (Kept obj req after ↔ Agree obj)) ∧
    ∀ headers_json headers, parse_headers outside headers_json = some (.ok headers) →
      ∃ obj, outside.from_str headers_json = .ok (.Object obj) ∧
        (Kept obj [] headers ↔ Agree obj) := by
  constructor
  · intro req after metadata_json accepted
    rcases apply_metadata_json_accepted accepted with ⟨obj, read, inserted⟩
    rcases insertEntries_of_reads (reads_metadata_entry documented) inserted with ⟨all, same⟩
    rw [same]
    exact ⟨obj, read, kept_iff_agree req all⟩
  · intro headers_json headers accepted
    rcases parse_headers_accepted accepted with ⟨obj, read, inserted⟩
    rcases insertEntries_of_reads (reads_header_entry documented) inserted with ⟨all, same⟩
    rw [same]
    exact ⟨obj, read, kept_iff_agree [] all⟩

/-- A client library that reads one text, and refuses no name and no value. -/
def Outside.reading (text : String) (value : Value) : Outside where
  from_str json := if json = text then .ok value else .error "expected value"
  metadata_key k := .ok (lowercase k)
  metadata_value s := .ok s
  header_name k := .ok (lowercase k)
  header_value s := .ok s
  full _ _ := false
  debug := String.quote

theorem Outside.reading_from_str (text : String) (value : Value) :
    (Outside.reading text value).from_str text = .ok value :=
  if_pos rfl

theorem Outside.reading_object (kind text : String) (obj : List (String × Value)) :
    read_object (Outside.reading text (.Object obj)) kind text = .ok obj := by
  rw [read_object, Outside.reading_from_str]
  rfl

theorem Outside.reading_documented (text : String) (value : Value) :
    (Outside.reading text value).Documented where
  metadata_key _ _ parsed := (Except.ok.inj parsed).symm
  metadata_value _ _ parsed := (Except.ok.inj parsed).symm
  header_name _ _ parsed := (Except.ok.inj parsed).symm
  header_value _ _ parsed := (Except.ok.inj parsed).symm

/-- Two different names. -/
theorem entries_kept_for_two_names : ∃ (outside : Outside) (obj : List (String × Value))
    (after headers : HeaderMap),
    outside.from_str "\x7b\"X-Api-Key\":\"k\",\"accept\":\"a\"\x7d" = .ok (.Object obj) ∧
      Kept obj [("accept", "b")] after ∧ Kept obj [] headers ∧
      after = [("x-api-key", "k"), ("accept", "a")] ∧
      headers = [("x-api-key", "k"), ("accept", "a")] := by
  let text := "\x7b\"X-Api-Key\":\"k\",\"accept\":\"a\"\x7d"
  let obj : List (String × Value) := [("X-Api-Key", .String "k"), ("accept", .String "a")]
  let outside := Outside.reading text (.Object obj)
  have read : outside.from_str text = .ok (.Object obj) := Outside.reading_from_str _ _
  have agree : Agree obj := by
    intro k s other t member otherMember same
    simp only [obj, List.mem_cons, List.not_mem_nil, or_false, Prod.mk.injEq,
      Value.String.injEq] at member otherMember
    rcases member with ⟨rfl, rfl⟩ | ⟨rfl, rfl⟩ <;>
      rcases otherMember with ⟨rfl, rfl⟩ | ⟨rfl, rfl⟩
    · rfl
    · exact absurd same (by decide)
    · exact absurd same (by decide)
    · rfl
  have accepted : apply_metadata_json outside [("accept", "b")] (some text) =
      some (.ok (), [("x-api-key", "k"), ("accept", "a")]) := by
    rw [apply_metadata_json, Outside.reading_object]
    rfl
  have headersAccepted : parse_headers outside text =
      some (.ok [("x-api-key", "k"), ("accept", "a")]) := by
    rw [parse_headers, Outside.reading_object]
    rfl
  rcases entries_kept_iff (Outside.reading_documented text (.Object obj)) with
    ⟨forMetadata, forHeaders⟩
  rcases forMetadata _ _ _ accepted with ⟨found, foundRead, exactly⟩
  rcases forHeaders _ _ headersAccepted with ⟨headersFound, headersRead, headersExactly⟩
  cases read.symm.trans foundRead
  cases read.symm.trans headersRead
  exact ⟨outside, obj, _, _, read, exactly.mpr agree, headersExactly.mpr agree, rfl, rfl⟩

/-- `A` and `a` are one name, of which the second value is left. -/
theorem entry_lost_to_other_case : ∃ (outside : Outside) (obj : List (String × Value)),
    outside.Documented ∧
      outside.from_str "\x7b\"A\":\"1\",\"a\":\"2\"\x7d" = .ok (.Object obj) ∧
      obj.map Prod.fst = ["A", "a"] ∧
      apply_metadata_json outside [] (some "\x7b\"A\":\"1\",\"a\":\"2\"\x7d") =
        some (.ok (), [("a", "2")]) ∧
      parse_headers outside "\x7b\"A\":\"1\",\"a\":\"2\"\x7d" = some (.ok [("a", "2")]) ∧
      ¬ Kept obj [] [("a", "2")] := by
  let text := "\x7b\"A\":\"1\",\"a\":\"2\"\x7d"
  let obj : List (String × Value) := [("A", .String "1"), ("a", .String "2")]
  let outside := Outside.reading text (.Object obj)
  have read : outside.from_str text = .ok (.Object obj) := Outside.reading_from_str _ _
  have accepted : apply_metadata_json outside [] (some text) = some (.ok (), [("a", "2")]) := by
    rw [apply_metadata_json, Outside.reading_object]
    rfl
  have headersAccepted : parse_headers outside text = some (.ok [("a", "2")]) := by
    rw [parse_headers, Outside.reading_object]
    rfl
  refine ⟨outside, obj, Outside.reading_documented _ _, read, rfl, accepted, headersAccepted, ?_⟩
  intro kept
  rcases kept.entries "A" (.String "1") List.mem_cons_self with ⟨s, same, held⟩
  cases same
  exact absurd held (by decide)

end Zpr.RequestHeaders
