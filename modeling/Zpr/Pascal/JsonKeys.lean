import Mathlib.Algebra.Order.BigOperators.Group.List
import Mathlib.Algebra.Order.Ring.Nat
import Mathlib.Data.List.TakeWhile
import Zpr.Pascal.Json

namespace Zpr.Pascal.Json

open Ffi Zpr.Json

/-! # The keys of an object

`Keys` gets the names of the fields as the JSON text of an array, parses that and takes each
element as a string. A string leaves the library as a C string, without the NULs that it may
have had, and goes through the code page: so does the text of the array. -/

inductive KeysOutcome
  | keys (Result : List Bytes)
  /-- an exception with its message -/
  | raised (message : String)
  deriving DecidableEq, Repr

namespace Memory

/-- The instance that a constructor returned, or the message of its exception. -/
def made (memory : Memory) : Outcome → Except String (Nat × TZprJson)
  | .created id =>
      match memory.find id with
      | some self => .ok (id, self)
      | none => .error ""
  | .raised message => .error message
  | _ => .error ""

def AsString (memory : Memory) (fromAnsi : FromAnsi) (self : TZprJson) : Except Fault Bytes :=
  (zpr_json_as_string memory.heap self.FHandle).map fun answer => TakeString fromAnsi answer.result

def ArrayLength (memory : Memory) (self : TZprJson) : Except Fault Int :=
  (zpr_json_array_len memory.heap self.FHandle).map fun answer => answer.result

/-- The loop over the elements, of which `left` are left from `I` on. -/
def collect (fromAnsi : FromAnsi) (Arr : TZprJson) :
    Nat → Nat → List Bytes → Memory → Except Fault (Memory × KeysOutcome)
  | 0, _, Result, memory => .ok (memory, .keys Result)
  | left + 1, I, Result, memory => do
      let (memory, outcome) ← memory.GetItem Arr I
      match memory.made outcome with
      | .error message => .ok (memory, .raised message)
      | .ok (id, Item) =>
          let text ← memory.AsString fromAnsi Item
          let (memory, _) ← memory.Free id Item
          collect fromAnsi Arr left (I + 1) (Result ++ [text]) memory

/-- `Arr` is freed whatever happens in between. -/
def Keys (memory : Memory) (serde : Serde) (fromAnsi : FromAnsi) (self : TZprJson) :
    Except Fault (Memory × KeysOutcome) := do
  let answer ← zpr_json_object_keys serde memory.heap self.FHandle
  let memory := memory.called answer
  let KeysJson := TakeString fromAnsi answer.result
  if KeysJson = [] then
    .ok (memory, .keys [])
  else
    let (memory, outcome) := memory.Parse serde KeysJson
    match memory.made outcome with
    | .error message => .ok (memory, .raised message)
    | .ok (id, Arr) =>
        let length ← memory.ArrayLength Arr
        let (memory, result) ←
          -- `SetLength(Result, -1)` where there is no array
          if length < 0 then .ok (memory, .raised "Range check error")
          else collect fromAnsi Arr length.toNat 0 [] memory
        let (memory, _) ← memory.Free id Arr
        .ok (memory, result)

/-- The value that an instance stands for. -/
def valueOf (memory : Memory) (id : Nat) : Option Value :=
  (memory.find id).bind fun self =>
    match handle_ref memory.heap self.FHandle with
    | .ok v => v
    | .error _ => none

/-- What is left of temporary instances: their boxes and they themselves are freed. -/
def grown (memory : Memory) (temporaries : Nat) : Memory :=
  { memory with
    heap := memory.heap ++ List.replicate temporaries none
    instances := memory.instances ++ List.replicate temporaries none }

end Memory

/-- `Keys` returns every key once and unchanged, in some order, and for each key that it
returned `GetField` makes an instance of the value under that key. -/
def KeysAgree (memory : Memory) (serde : Serde) (fromAnsi : FromAnsi) (self : TZprJson)
    (fields : List (String × Value)) : Prop :=
  ∃ after Result, memory.Keys serde fromAnsi self = .ok (after, .keys Result) ∧
    Result.Perm (fields.map fun field => cstr field.1) ∧
    ∀ k ∈ Result, ∃ found id key value, after.GetField self k = .ok (found, .created id) ∧
      (key, value) ∈ fields ∧ k = cstr key ∧ found.valueOf id = some value

/-- What is relied on from `serde_json`, for these names: it writes an array of strings as a
text that has no NUL in it, all control characters being escaped. -/
structure WritesNames (serde : Serde) (names : List String) (text : String) : Prop where
  written : serde.to_string (.Array (names.map .String)) = .ok text
  noNul : '\x00' ∉ text.toList

/-- What is relied on from the code page and from `serde_json`, for the text of these names:
ASCII stays as it is, and what is beyond it stands in a text as it does in the names, so that
the text becomes one of the names as the code page makes them. -/
structure ReadsNames (serde : Serde) (fromAnsi : FromAnsi) (names : List String) (text : String)
    (names' : List String) (text' : String) : Prop where
  json : fromAnsi (cstr text) = cstr text'
  converted : names'.map cstr = names.map fun name => fromAnsi (cstr name)
  readBack : serde.from_str text' = .ok (.Array (names'.map .String))
  noNul : '\x00' ∉ text'.toList
  nonempty : text' ≠ ""

/-- What is relied on from the code page: a text that it changes becomes longer, since what
is one byte beyond ASCII is two or three in UTF-8, and no character but NUL has a byte 0. -/
structure Ansi (fromAnsi : FromAnsi) : Prop where
  grows : ∀ text, fromAnsi (cstr text) = cstr text ∨
    (cstr text).length < (fromAnsi (cstr text)).length
  noNul : ∀ text, '\x00' ∉ text.toList → 0 ∉ fromAnsi (cstr text)

/-! ## Temporary instances -/

theorem utf8Ptr_cstr {text : String} (noNul : '\x00' ∉ text.toList) :
    Utf8Ptr (cstr text) = some (cstr text) := by
  rw [Utf8Ptr, List.takeWhile_eq_self_iff.mpr]
  intro byte member
  apply decide_eq_true
  rintro rfl
  exact noNul (zero_mem_cstr.mp member)

theorem read_append {heap : Heap} {v : Value} (held : heap.read box = .ok v)
    (more : List (Option Value)) : Heap.read (heap ++ more) box = .ok v := by
  unfold Heap.read at held
  split at held
  · rename_i found
    have inside := (List.getElem?_eq_some_iff.mp found).1
    rw [Heap.read, List.getElem?_append_left inside, found]
    exact held
  · cases held

theorem set_last (before : List (Option α)) (last : Option α) (temporaries : Nat) :
    (before ++ [last] ++ List.replicate temporaries none).set before.length none =
      before ++ List.replicate (temporaries + 1) none := by
  rw [List.append_assoc, List.set_append_right _ _ (Nat.le_refl _), Nat.sub_self]
  rfl

namespace Memory

variable {memory : Memory} {self : TZprJson}

/-- The memory with one instance more, of a value in a new box. -/
def added (memory : Memory) (v : Value) : Memory :=
  { memory with
    heap := memory.heap ++ [some v]
    instances := memory.instances ++ [some ⟨some memory.heap.length, true⟩] }

theorem grown_grown (memory : Memory) (first second : Nat) :
    (memory.grown first).grown second = memory.grown (first + second) := by
  simp only [grown, List.append_assoc, List.replicate_append_replicate]

theorem read_grown {v : Value} (held : memory.heap.read box = .ok v)
    (temporaries : Nat) : (memory.grown temporaries).heap.read box = .ok v :=
  read_append held _

theorem read_new (memory : Memory) (v : Value) :
    (memory.added v).heap.read memory.heap.length = .ok v := by
  simp [Heap.read, added]

theorem made_added (memory : Memory) (v : Value) :
    (memory.added v).made (.created memory.instances.length) =
      .ok (memory.instances.length, ⟨some memory.heap.length, true⟩) := by
  simp [made, find, added]

theorem valueOf_added (memory : Memory) (v : Value) :
    (memory.added v).valueOf memory.instances.length = some v := by
  have read := memory.read_new v
  simp only [valueOf, find, added, List.getElem?_concat_length, Option.join_some, Option.bind_some,
    handle_ref] at read ⊢
  rw [read]
  rfl

/-- Once it is freed again, nothing is left of an instance but its place. -/
theorem free_added (memory : Memory) (v : Value) (temporaries : Nat) :
    ((memory.added v).grown temporaries).Free memory.instances.length
        ⟨some memory.heap.length, true⟩ = .ok (memory.grown (temporaries + 1), .done) := by
  have held : (memory.heap ++ [some v] ++ List.replicate temporaries none)[memory.heap.length]? =
      some (some v) := by simp
  simp only [Free, zpr_json_free, Heap.from_raw, added, grown, held, set_last, Except.map, called,
    Heap.silent, ne_eq, reduceCtorEq, not_false_eq_true, and_self, if_true, Option.none_or]

theorem getItem_eq {elements : List Value} {v : Value} (handle : self.FHandle = some box)
    (array : memory.heap.read box = .ok (.Array elements)) (element : elements[I]? = some v) :
    memory.GetItem self I = .ok (memory.added v, .created memory.instances.length) := by
  simp only [GetItem, zpr_json_array_get, handle, handle_ref, array, Except.map, Option.bind_some, as_array,
    element, Heap.cloned, Get]
  rfl

theorem asString_added (memory : Memory) (fromAnsi : FromAnsi) (s : String) :
    (memory.added (.String s)).AsString fromAnsi ⟨some memory.heap.length, true⟩ =
      .ok (TakeString fromAnsi (some (string_to_cstring_ptr s))) := by
  simp only [AsString, zpr_json_as_string, handle_ref, read_new, Except.map, Option.bind_some, as_str,
    Option.map_some, Heap.silent]

theorem arrayLength_eq {elements : List Value} (self : TZprJson) (handle : self.FHandle = some box)
    (array : memory.heap.read box = .ok (.Array elements)) :
    memory.ArrayLength self = .ok (elements.length : Int) := by
  simp only [ArrayLength, zpr_json_array_len, handle, handle_ref, array, Except.map,
    Option.bind_some, as_array, Heap.silent]

/-- One round of the loop. -/
theorem collect_next {elements : List Value} {Arr : TZprJson} (fromAnsi : FromAnsi) (left : Nat)
    (Result : List Bytes) (handle : Arr.FHandle = some box)
    (array : memory.heap.read box = .ok (.Array elements))
    (element : elements[I]? = some (.String s)) :
    collect fromAnsi Arr (left + 1) I Result memory =
      collect fromAnsi Arr left (I + 1)
        (Result ++ [TakeString fromAnsi (some (string_to_cstring_ptr s))]) (memory.grown 1) := by
  have got : memory.GetItem Arr I =
      .ok (memory.added (.String s), .created memory.instances.length) :=
    getItem_eq handle array element
  have freed := memory.free_added (.String s) 0
  have same : (memory.added (.String s)).grown 0 = memory.added (.String s) := by
    simp only [grown, List.replicate_zero, List.append_nil]
  rw [same] at freed
  simp only [collect, got, made_added, asString_added, freed, bind, Except.bind]

/-- The loop takes the strings from `I` on, and leaves nothing else behind. -/
theorem collect_eq (fromAnsi : FromAnsi) (Arr : TZprJson) (handle : Arr.FHandle = some box)
    (rest : List String) :
    ∀ (before : List Value) {memory : Memory} (Result : List Bytes),
      memory.heap.read box = .ok (.Array (before ++ rest.map .String)) →
      collect fromAnsi Arr rest.length before.length Result memory =
        .ok (memory.grown rest.length, .keys (Result ++ rest.map fun s =>
          TakeString fromAnsi (some (string_to_cstring_ptr s)))) := by
  induction rest with
  | nil =>
      intro before memory Result _
      simp [collect, grown]
  | cons s rest induction =>
      intro before memory Result array
      have element : (before ++ (s :: rest).map Value.String)[before.length]? =
          some (.String s) := by simp
      have still : (memory.grown 1).heap.read box =
          .ok (.Array ((before ++ [.String s]) ++ rest.map .String)) := by
        rw [List.append_assoc]
        exact read_grown array 1
      have others := induction (before ++ [.String s])
        (Result ++ [TakeString fromAnsi (some (string_to_cstring_ptr s))]) still
      rw [List.length_append, List.length_singleton, grown_grown, List.append_assoc] at others
      rw [List.length_cons, collect_next fromAnsi _ _ handle array element, others,
        Nat.add_comm 1]
      rfl

/-- What `Keys` makes of an object: each name of the converted text, without its NULs and
converted once more. -/
theorem keys_eq {serde : Serde} {fromAnsi : FromAnsi} {fields : List (String × Value)}
    {text text' : String} {names' : List String} (handle : self.FHandle = some box)
    (object : memory.heap.read box = .ok (.Object fields))
    (writes : WritesNames serde (fields.map Prod.fst) text)
    (reads : ReadsNames serde fromAnsi (fields.map Prod.fst) text names' text') :
    memory.Keys serde fromAnsi self = .ok (memory.grown (fields.length + 1),
      .keys (names'.map fun name => fromAnsi (cstr (string_to_cstring_ptr name)))) := by
  have names : Value.Array (fields.map fun field => .String field.1) =
      .Array ((fields.map Prod.fst).map .String) := by
    rw [List.map_map]
    rfl
  have sameLength : names'.length = fields.length := by
    have lengths := congrArg List.length reads.converted
    rw [List.length_map, List.length_map, List.length_map] at lengths
    exact lengths
  have answered : zpr_json_object_keys serde memory.heap self.FHandle =
      .ok (memory.heap.silent (some text)) := by
    simp only [zpr_json_object_keys, handle, handle_ref, object, Except.map, Option.bind_some,
      as_object, names, writes.written, string_to_cstring_ptr_eq writes.noNul]
  have parsed : memory.Parse serde (cstr text') =
      (memory.added (.Array (names'.map .String)), .created memory.instances.length) := by
    simp only [Parse, zpr_json_parse_handle, utf8Ptr_cstr reads.noNul,
      zpr_json_parse_cstr reads.readBack]
    rfl
  have array := memory.read_new (.Array (names'.map .String))
  have length := arrayLength_eq ⟨some memory.heap.length, true⟩ rfl array
  have collected := collect_eq fromAnsi ⟨some memory.heap.length, true⟩ rfl names' [] [] array
  have freed := memory.free_added (.Array (names'.map .String)) fields.length
  rw [List.length_map, sameLength] at length
  simp only [sameLength, List.length_nil, List.nil_append, TakeString] at collected
  have notNegative : ¬ (fields.length : Int) < 0 := by omega
  have nonempty : cstr text' ≠ [] := cstr_ne_nil reads.nonempty
  have taken : TakeString fromAnsi (some text) = cstr text' := reads.json
  have quiet : memory.called (memory.heap.silent (some text)) = memory := rfl
  have result : (memory.heap.silent (some text)).result = some text := rfl
  simp only [Keys, answered, bind, Except.bind, quiet, result, taken, nonempty, if_false, parsed,
    made_added, length, notNegative, Int.toNat_natCast, collected, freed]

theorem getField_eq {fields : List (String × Value)} {key : String}
    (handle : self.FHandle = some box) (object : memory.heap.read box = .ok (.Object fields))
    (noNul : '\x00' ∉ key.toList) (found : fields.lookup key = some value) :
    memory.GetField self (cstr key) = .ok (memory.added value, .created memory.instances.length) := by
  simp only [GetField, zpr_json_object_get, utf8Ptr_cstr noNul, cstr_to_str_cstr, handle, handle_ref,
    object, Except.map, Option.bind_some, as_object, found, Heap.cloned, Get]
  rfl

end Memory

theorem lookup_of_mem {fields : List (String × Value)} (distinct : (fields.map Prod.fst).Nodup)
    (member : (key, value) ∈ fields) : fields.lookup key = some value := by
  rcases List.append_of_mem member with ⟨before, after, rfl⟩
  apply List.lookup_eq_some_iff.mpr
  refine ⟨before, after, rfl, fun field earlier => ?_⟩
  rw [List.map_append, List.nodup_append] at distinct
  have different := distinct.2.2 field.1 (List.mem_map_of_mem earlier) key List.mem_cons_self
  simpa using Ne.symm different

theorem cstr_names (fields : List (String × Value)) :
    (fields.map Prod.fst).map cstr = fields.map fun field => cstr field.1 := by
  rw [List.map_map]
  rfl

/-- No NUL to be lost, and nothing that the code page changes. -/
def Survives (fromAnsi : FromAnsi) (name : String) : Prop :=
  '\x00' ∉ name.toList ∧ fromAnsi (cstr name) = cstr name

/-- Names that survive are returned as they are. -/
theorem keys_of_survives {fromAnsi : FromAnsi} {names names' : List String}
    (converted : names'.map cstr = names.map fun name => fromAnsi (cstr name))
    (survive : ∀ name ∈ names, Survives fromAnsi name) :
    (names'.map fun name => fromAnsi (cstr (string_to_cstring_ptr name))) = names.map cstr := by
  have unchanged : (names.map fun name => fromAnsi (cstr name)) = names.map cstr :=
    List.map_congr_left fun name member => (survive name member).2
  have same : names' = names := by
    rw [unchanged] at converted
    exact (List.map_injective_iff.mpr fun _ _ => cstr_inj) converted
  rw [same]
  apply List.map_congr_left
  intro name member
  rw [string_to_cstring_ptr_eq (survive name member).1, (survive name member).2]

/-- Names that are returned as they are have survived. -/
theorem survives_of_keys {fromAnsi : FromAnsi} (ansi : Ansi fromAnsi) {names names' : List String}
    (converted : names'.map cstr = names.map fun name => fromAnsi (cstr name))
    (once : (names'.map fun name => fromAnsi (cstr (string_to_cstring_ptr name))).Perm
      (names.map cstr)) :
    ∀ name ∈ names, Survives fromAnsi name := by
  have noNul : ∀ name ∈ names, '\x00' ∉ name.toList := by
    intro name member
    have returned := once.mem_iff.mpr (List.mem_map_of_mem member)
    rcases List.mem_map.mp returned with ⟨other, _, same⟩
    rw [← zero_mem_cstr, ← same]
    exact ansi.noNul _ (nul_not_mem_string_to_cstring_ptr other)
  have noNul' : ∀ name ∈ names', '\x00' ∉ name.toList := by
    intro name member
    have made : cstr name ∈ names.map fun name => fromAnsi (cstr name) := by
      rw [← converted]
      exact List.mem_map_of_mem member
    rcases List.mem_map.mp made with ⟨other, isName, same⟩
    rw [← zero_mem_cstr, ← same]
    exact ansi.noNul other (noNul other isName)
  have longer : ∀ text : String, (cstr text).length ≤ (fromAnsi (cstr text)).length := by
    intro text
    rcases ansi.grows text with same | more
    · rw [same]
    · exact Nat.le_of_lt more
  -- what is returned is as long as the names in all, so the first conversion changes none
  have returned : (names'.map fun name => fromAnsi (cstr (string_to_cstring_ptr name))) =
      names'.map fun name => fromAnsi (cstr name) := by
    apply List.map_congr_left
    intro name member
    rw [string_to_cstring_ptr_eq (noNul' name member)]
  have total : (names'.map fun name => (fromAnsi (cstr name)).length).sum =
      (names.map fun name => (cstr name).length).sum := by
    have lengths := (once.map List.length).sum_eq
    rw [returned, List.map_map, List.map_map] at lengths
    exact lengths
  have again : (names'.map fun name => (cstr name).length).sum =
      (names.map fun name => (fromAnsi (cstr name)).length).sum := by
    have lengths := congrArg (fun texts => (texts.map List.length).sum) converted
    rw [List.map_map, List.map_map] at lengths
    exact lengths
  have second : (names'.map fun name => (cstr name).length).sum ≤
      (names'.map fun name => (fromAnsi (cstr name)).length).sum :=
    List.sum_le_sum fun name _ => longer name
  intro name member
  refine ⟨noNul name member, ?_⟩
  rcases ansi.grows name with same | more
  · exact same
  · have first : (names.map fun name => (cstr name).length).sum <
        (names.map fun name => (fromAnsi (cstr name)).length).sum :=
      List.sum_lt_sum _ _ (fun name _ => longer name) ⟨name, member, more⟩
    omega

open Memory in
/-- For an object with any names and under any code page: `Keys` and `GetField` agree if and
only if none of the names has a NUL in it, and the code page leaves all of them alone. -/
theorem keys_and_lookup_agree_iff {memory : Memory} {self : TZprJson} {serde : Serde}
    {fromAnsi : FromAnsi} {fields : List (String × Value)} {text text' : String}
    {names' : List String} (handle : self.FHandle = some box)
    (object : memory.heap.read box = .ok (.Object fields))
    (distinct : (fields.map Prod.fst).Nodup) (ansi : Ansi fromAnsi)
    (writes : WritesNames serde (fields.map Prod.fst) text)
    (reads : ReadsNames serde fromAnsi (fields.map Prod.fst) text names' text') :
    KeysAgree memory serde fromAnsi self fields ↔
      ∀ field ∈ fields, '\x00' ∉ field.1.toList ∧ fromAnsi (cstr field.1) = cstr field.1 := by
  have keys := keys_eq handle object writes reads
  constructor
  · intro agree field member
    rcases agree with ⟨after, Result, returned, once, _⟩
    cases keys.symm.trans returned
    rw [← cstr_names] at once
    exact survives_of_keys ansi reads.converted once field.1 (List.mem_map_of_mem member)
  · intro survive
    have survives : ∀ name ∈ fields.map Prod.fst, Survives fromAnsi name := by
      intro name member
      rcases List.mem_map.mp member with ⟨field, isField, rfl⟩
      exact survive field isField
    rw [keys_of_survives reads.converted survives, cstr_names] at keys
    refine ⟨_, _, keys, List.Perm.refl _, fun k member => ?_⟩
    rcases List.mem_map.mp member with ⟨⟨key, value⟩, field, rfl⟩
    have found := getField_eq handle (read_grown object (fields.length + 1))
      (survive (key, value) field).1 (lookup_of_mem distinct field)
    exact ⟨_, _, key, value, found, field, rfl, valueOf_added _ value⟩

/-- UTF-8 as the code page. -/
theorem ansi_id : Ansi id where
  grows := fun _ => .inl rfl
  noNul := fun _ noNul member => noNul (zero_mem_cstr.mp member)

/-- What `serde_json` does with the array of some names and with the text of it. -/
def serdeOf (names : List String) (text : String) : Serde where
  from_str s := if s = text then .ok (.Array (names.map .String)) else .error "expected value"
  to_string v :=
    if ((as_array v).getD []).filterMap as_str = names then .ok text else .error "unsupported"
  to_string_pretty _ := .error "unsupported"

/-- Two names of one letter. -/
theorem keys_and_lookup_agree_of_letters : ∃ memory self,
    memory.find 0 = some self ∧
      KeysAgree memory (serdeOf ["a", "b"] "[\"a\",\"b\"]") id self
        [("a", .Null), ("b", .Bool true)] := by
  let memory := Memory.start.added (.Object [("a", .Null), ("b", .Bool true)])
  refine ⟨memory, ⟨some 0, true⟩, rfl, ?_⟩
  have writes : WritesNames (serdeOf ["a", "b"] "[\"a\",\"b\"]") ["a", "b"]
      "[\"a\",\"b\"]" := ⟨rfl, by decide⟩
  have reads : ReadsNames (serdeOf ["a", "b"] "[\"a\",\"b\"]") id ["a", "b"]
      "[\"a\",\"b\"]" ["a", "b"] "[\"a\",\"b\"]" := ⟨rfl, rfl, rfl, by decide, by decide⟩
  apply (keys_and_lookup_agree_iff rfl rfl ?_ ansi_id writes reads).mpr
  · decide
  · decide

/-- A name that ends with a NUL comes back as another one, which the object has as well. -/
theorem keys_of_nul_collide : ∃ memory self after,
    memory.find 0 = some self ∧
      memory.valueOf 0 = some (.Object [("a", .Null), ("a\x00", .Bool true)]) ∧
      memory.Keys (serdeOf ["a", "a\x00"] "[\"a\",\"a\\u0000\"]") id self =
        .ok (after, .keys [cstr "a", cstr "a"]) ∧
      ¬ KeysAgree memory (serdeOf ["a", "a\x00"] "[\"a\",\"a\\u0000\"]") id self
        [("a", .Null), ("a\x00", .Bool true)] := by
  let memory := Memory.start.added (.Object [("a", .Null), ("a\x00", .Bool true)])
  have writes : WritesNames (serdeOf ["a", "a\x00"] "[\"a\",\"a\\u0000\"]") ["a", "a\x00"]
      "[\"a\",\"a\\u0000\"]" := ⟨rfl, by decide⟩
  have reads : ReadsNames (serdeOf ["a", "a\x00"] "[\"a\",\"a\\u0000\"]") id ["a", "a\x00"]
      "[\"a\",\"a\\u0000\"]" ["a", "a\x00"] "[\"a\",\"a\\u0000\"]" :=
    ⟨rfl, rfl, rfl, by decide, by decide⟩
  have object : memory.heap.read 0 = .ok (.Object [("a", .Null), ("a\x00", .Bool true)]) := rfl
  have handle : (⟨some 0, true⟩ : TZprJson).FHandle = some 0 := rfl
  have keys := Memory.keys_eq handle object writes reads
  refine ⟨memory, ⟨some 0, true⟩, _, rfl, rfl, keys, fun agree => ?_⟩
  rcases agree with ⟨_, Result, returned, once, _⟩
  cases keys.symm.trans returned
  have unchanged := once.mem_iff.mpr (List.mem_cons_of_mem _ (List.mem_singleton_self _))
  exact absurd unchanged (by decide)

end Zpr.Pascal.Json
