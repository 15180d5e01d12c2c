import Zpr.Pascal.JsonKeys

namespace Zpr.Pascal.Json

open Ffi Zpr.Json

/-! # Trees made and read through instances

`TZprJson` makes values of every kind and looks into them. A program that goes through a
tree has an instance for each of its parts, which it hands over or frees. -/

namespace Memory

/-- `Kind` -/
def GetKind (memory : Memory) (self : TZprJson) : Except Fault Int :=
  (zpr_json_kind memory.heap self.FHandle).map fun answer => answer.result

/-- What `Check` lets through, or its exception. -/
def checked (memory : Memory) (answer : Answer (Int × Option Stored)) :
    Memory × Except String (Option Stored) :=
  let memory := memory.called answer
  if answer.result.1 ≠ ZPR_OK then (memory, .error memory.LastError)
  else (memory, .ok answer.result.2)

/-- `AsBoolean` -/
def GetAsBoolean (memory : Memory) (self : TZprJson) :
    Except Fault (Memory × Except String Bool) :=
  (zpr_json_as_bool memory.heap self.FHandle .valid).map fun answer =>
    let checked : Memory × Except String (Option UInt8) := memory.checked answer
    (checked.1, checked.2.map fun V => V.getD 0 ≠ 0)

/-- `AsFloat` -/
def GetAsFloat (memory : Memory) (self : TZprJson) :
    Except Fault (Memory × Except String F64) :=
  (zpr_json_as_f64 memory.heap self.FHandle .valid).map fun answer =>
    let checked : Memory × Except String (Option F64) := memory.checked answer
    (checked.1, checked.2.map fun V => V.getD 0)

/-- `Free` of an instance by its number. -/
def freeInstance (memory : Memory) (id : Nat) : Except Fault Memory :=
  match memory.find id with
  | none => .ok memory
  | some self => (memory.Free id self).map Prod.fst

/-! ## The program that makes a tree -/

/-- What a container is given, and then the instance of it is freed. -/
def give (memory : Memory) (outcome : Outcome)
    (put : Memory → Nat → TZprJson → Except Fault (Memory × Outcome)) :
    Except Fault (Memory × Outcome) :=
  match memory.made outcome with
  | .error message => .ok (memory, .raised message)
  | .ok (id, Item) => do
      let (memory, outcome) ← put memory id Item
      let memory ← memory.freeInstance id
      .ok (memory, outcome)

mutual

/-- An instance of a tree. -/
def build (memory : Memory) : Value → Except Fault (Memory × Outcome)
  | .Null => .ok memory.NewNull
  | .Bool b => .ok (memory.NewBool b)
  | .Number n => .ok (memory.NewFloat (toFloat n))
  | .String s => .ok (memory.NewString (cstr s))
  | .Array elements =>
      match memory.NewArray.1.made memory.NewArray.2 with
      | .error message => .ok (memory.NewArray.1, .raised message)
      | .ok (id, Arr) =>
          (buildElements Arr memory.NewArray.1 elements).map fun memory => (memory, .created id)
  | .Object fields =>
      match memory.NewObject.1.made memory.NewObject.2 with
      | .error message => .ok (memory.NewObject.1, .raised message)
      | .ok (id, Obj) =>
          (buildFields Obj memory.NewObject.1 fields).map fun memory => (memory, .created id)

def buildElements (Arr : TZprJson) (memory : Memory) : List Value → Except Fault Memory
  | [] => .ok memory
  | v :: elements => do
      let (memory, outcome) ← build memory v
      let (memory, _) ← memory.give outcome fun memory => memory.Push Arr
      buildElements Arr memory elements

def buildFields (Obj : TZprJson) (memory : Memory) : List (String × Value) → Except Fault Memory
  | [] => .ok memory
  | (key, v) :: fields => do
      let (memory, outcome) ← build memory v
      let (memory, _) ← memory.give outcome fun memory => memory.SetField Obj (cstr key)
      buildFields Obj memory fields

end

/-! ## The program that reads one -/

section

variable (read : Memory → TZprJson → Except Fault (Memory × Option Value))

/-- A part that has been read is freed, whatever came of it. -/
def readPart (memory : Memory) (outcome : Outcome) : Except Fault (Memory × Option Value) :=
  match memory.made outcome with
  | .error _ => .ok (memory, none)
  | .ok (id, Item) => do
      let (memory, v) ← read memory Item
      let memory ← memory.freeInstance id
      .ok (memory, v)

/-- The elements from `I` on, of which `left` are left. -/
def readElements (Arr : TZprJson) :
    Nat → Nat → List Value → Memory → Except Fault (Memory × Option (List Value))
  | 0, _, elements, memory => .ok (memory, some elements)
  | left + 1, I, elements, memory => do
      let (memory, outcome) ← memory.GetItem Arr I
      let (memory, v) ← readPart read memory outcome
      match v with
      | none => .ok (memory, none)
      | some v => readElements Arr left (I + 1) (elements ++ [v]) memory

/-- The fields of these names. -/
def readFields (Obj : TZprJson) :
    List Bytes → List (String × Value) → Memory →
      Except Fault (Memory × Option (List (String × Value)))
  | [], fields, memory => .ok (memory, some fields)
  | key :: keys, fields, memory => do
      let (memory, outcome) ← memory.GetField Obj key
      let (memory, v) ← readPart read memory outcome
      match v with
      | none => .ok (memory, none)
      | some v => readFields Obj keys (fields ++ [(textOf key, v)]) memory

end

/-- The tree of an instance, down to a depth. -/
def readTree (serde : Serde) (fromAnsi : FromAnsi) :
    Nat → Memory → TZprJson → Except Fault (Memory × Option Value)
  | 0, memory, _ => .ok (memory, none)
  | depth + 1, memory, self => do
      let kind ← memory.GetKind self
      if kind = 0 then
        .ok (memory, some .Null)
      else if kind = 1 then do
        let (memory, V) ← memory.GetAsBoolean self
        .ok (memory, V.toOption.map .Bool)
      else if kind = 2 then do
        let (memory, V) ← memory.GetAsFloat self
        .ok (memory, V.toOption.map fun V => .Number (.Float V))
      else if kind = 3 then do
        let text ← memory.AsString fromAnsi self
        .ok (memory, some (.String (textOf text)))
      else if kind = 4 then do
        let length ← memory.ArrayLength self
        let (memory, elements) ←
          readElements (readTree serde fromAnsi depth) self length.toNat 0 [] memory
        .ok (memory, elements.map .Array)
      else do
        let (memory, outcome) ← memory.Keys serde fromAnsi self
        match outcome with
        | .raised _ => .ok (memory, none)
        | .keys keys =>
            let (memory, fields) ← readFields (readTree serde fromAnsi depth) self keys [] memory
            .ok (memory, fields.map .Object)

end Memory

/-! ## Trees that survive -/

/-- What a tree has to be to come back as it is: no string has a NUL in it or anything that
the code page changes, and every number is a finite double. `serde_json` writes the names of
an object as a text that is read back, and that the code page does not change either. -/
inductive Plain (serde : Serde) (fromAnsi : FromAnsi) : Value → Prop
  | Null : Plain serde fromAnsi .Null
  | Bool (b : Bool) : Plain serde fromAnsi (.Bool b)
  | Number (double : F64) (finite : isFinite double = true) :
      Plain serde fromAnsi (.Number (.Float double))
  | String (s : String) (survives : Survives fromAnsi s) : Plain serde fromAnsi (.String s)
  | Array (elements : List Value) (parts : ∀ v ∈ elements, Plain serde fromAnsi v) :
      Plain serde fromAnsi (.Array elements)
  | Object (fields : List (String × Value)) (text : String)
      (ordered : fields.Pairwise fun first second => first.1 < second.1)
      (survive : ∀ name ∈ fields.map Prod.fst, Survives fromAnsi name)
      (writes : WritesNames serde (fields.map Prod.fst) text)
      (reads : ReadsNames serde fromAnsi (fields.map Prod.fst) text (fields.map Prod.fst) text)
      (parts : ∀ field ∈ fields, Plain serde fromAnsi field.2) :
      Plain serde fromAnsi (.Object fields)

/-- A field whose name comes after all others. -/
theorem insertField_last {key : String} {value : Value} {fields : List (String × Value)}
    (last : ∀ field ∈ fields, field.1 < key) :
    insertField key value fields = fields ++ [(key, value)] := by
  induction fields with
  | nil => rfl
  | cons field fields induction =>
      have smaller := last field List.mem_cons_self
      have different : key ≠ field.1 := by
        rintro rfl
        exact String.lt_irrefl _ smaller
      rw [insertField, if_neg different, if_neg (String.lt_asymm smaller),
        induction fun other member => last other (List.mem_cons_of_mem field member)]
      rfl

/-! ## Making a tree -/

theorem set_middle (before after : List (Option α)) (old new : Option α) :
    (before ++ [old] ++ after).set before.length new = before ++ [new] ++ after := by
  rw [List.append_assoc, List.set_append_right _ _ (Nat.le_refl _), Nat.sub_self, List.append_assoc]
  rfl

namespace Memory

variable {memory : Memory}

theorem textOf_cstr (text : String) : textOf (cstr text) = text := by
  rw [textOf, fromUTF8_cstr]
  rfl

theorem grown_zero (memory : Memory) : memory.grown 0 = memory := by
  simp only [grown, List.replicate_zero, List.append_nil]

/-- An instance that was made before some temporary ones. -/
theorem made_grown (memory : Memory) (v : Value) (temporaries : Nat) :
    ((memory.added v).grown temporaries).made (.created memory.instances.length) =
      .ok (memory.instances.length, ⟨some memory.heap.length, true⟩) := by
  simp [made, find, added, grown]

theorem read_added_grown (memory : Memory) (v : Value) (temporaries : Nat) :
    ((memory.added v).grown temporaries).heap.read memory.heap.length = .ok v :=
  read_grown (memory.read_new v) temporaries

theorem freeInstance_added (memory : Memory) (v : Value) (temporaries : Nat) :
    ((memory.added v).grown temporaries).freeInstance memory.instances.length =
      .ok (memory.grown (temporaries + 1)) := by
  have found : ((memory.added v).grown temporaries).find memory.instances.length =
      some ⟨some memory.heap.length, true⟩ := by
    simp [find, added, grown]
  simp only [freeInstance, found, memory.free_added v temporaries, Except.map]

/-- A part goes from its box into that of the container. -/
theorem consume_eq {put : Value → Value → Option Value} {c after v : Value} (heap : Heap)
    (earlier later : Nat) (taken : put c v = some after) :
    consume (heap ++ [some c] ++ List.replicate earlier none ++ [some v] ++
        List.replicate later none) heap.length (heap.length + 1 + earlier) put =
      .ok { heap := heap ++ [some after] ++ List.replicate (earlier + (later + 1)) none
            result := ZPR_OK
            last_error := none } := by
  have place : (heap ++ [some c] ++ List.replicate earlier (none : Option Value)).length =
      heap.length + 1 + earlier := by
    simp only [List.length_append, List.length_singleton, List.length_replicate]
  have held : (heap ++ [some c] ++ List.replicate earlier none ++ [some v] ++
      List.replicate later none)[heap.length + 1 + earlier]? = some (some v) := by
    rw [← place, List.append_assoc, List.getElem?_append_right (Nat.le_refl _), Nat.sub_self]
    rfl
  have container : Heap.read (heap ++ [some c] ++ List.replicate (earlier + (later + 1)) none)
      heap.length = .ok c := by
    simp [Heap.read]
  have emptied := set_last (heap ++ [some c] ++ List.replicate earlier (none : Option Value))
    (some v) later
  rw [place, List.append_assoc (heap ++ [some c]) (List.replicate earlier none)
    (List.replicate (later + 1) none), List.replicate_append_replicate] at emptied
  simp only [consume, Heap.from_raw, held, emptied, container, Except.map, taken, set_middle]

/-- An instance that owns nothing any more leaves its place behind. -/
theorem freeInstance_given {H : Handle} {instances : List (Option TZprJson)} {later : Nat}
    (same : memory.instances = instances ++ [some ⟨H, false⟩] ++ List.replicate later none) :
    memory.freeInstance instances.length =
      .ok { memory with instances := instances ++ List.replicate (later + 1) none } := by
  have found : memory.find instances.length = some ⟨H, false⟩ := by
    simp [find, same]
  have emptied := set_last instances (some ⟨H, false⟩) later
  rw [← same] at emptied
  simp only [freeInstance, found, Free, Bool.false_eq_true, false_and, if_false, Except.map, emptied]

/-- A part that has been made is handed over to its container and its instance is freed. -/
theorem give_eq {put : Value → Value → Option Value} {c after v : Value} (memory : Memory)
    (earlier later : Nat) (taken : put c v = some after)
    {puts : Memory → Nat → TZprJson → Except Fault (Memory × Outcome)}
    (same : ∀ (state : Memory) id Item box, Item.FHandle = some box →
      puts state id Item =
        (consume state.heap memory.heap.length box put).map (state.handOver id Item)) :
    ((((memory.added c).grown earlier).added v).grown later).give
        (.created ((memory.added c).grown earlier).instances.length) puts =
      .ok ((memory.added after).grown (earlier + (later + 1)), .done) := by
  have item := made_grown ((memory.added c).grown earlier) v later
  have handed := same ((((memory.added c).grown earlier).added v).grown later)
    ((memory.added c).grown earlier).instances.length
    ⟨some ((memory.added c).grown earlier).heap.length, true⟩ _ rfl
  have place : ((memory.added c).grown earlier).heap.length = memory.heap.length + 1 + earlier := by
    simp only [grown, added, List.length_append, List.length_singleton, List.length_replicate]
  have consumed : consume ((((memory.added c).grown earlier).added v).grown later).heap
      memory.heap.length ((memory.added c).grown earlier).heap.length put =
        .ok { heap := memory.heap ++ [some after] ++ List.replicate (earlier + (later + 1)) none
              result := ZPR_OK
              last_error := none } := by
    rw [place]
    exact consume_eq memory.heap earlier later taken
  rw [consumed] at handed
  have disowned := set_middle ((memory.added c).grown earlier).instances
    (List.replicate later (none : Option TZprJson))
    (some ⟨some ((memory.added c).grown earlier).heap.length, true⟩)
    (some ⟨some ((memory.added c).grown earlier).heap.length, false⟩)
  simp only [Except.map, handOver, called, ne_eq, not_true_eq_false, if_false, Option.none_or]
    at handed
  rw [give, item]
  simp only [handed, bind, Except.bind]
  rw [freeInstance_given disowned]
  simp only [grown, added, List.append_assoc, List.replicate_append_replicate]

/-- A tree is made in a box of its own; all that has been needed besides is freed. -/
def Builds (v : Value) : Prop :=
  ∀ memory : Memory, ∃ parts, memory.build v =
    .ok ((memory.added v).grown parts, .created memory.instances.length)

theorem buildElements_eq (memory : Memory) (elements : List Value)
    (builds : ∀ v ∈ elements, Builds v) :
    ∀ (done : List Value) (earlier : Nat), ∃ parts,
      buildElements ⟨some memory.heap.length, true⟩ ((memory.added (.Array done)).grown earlier)
          elements = .ok ((memory.added (.Array (done ++ elements))).grown parts) := by
  induction elements with
  | nil =>
      intro done earlier
      exact ⟨earlier, by rw [buildElements, List.append_nil]⟩
  | cons v elements induction =>
      intro done earlier
      rcases builds v List.mem_cons_self ((memory.added (.Array done)).grown earlier) with
        ⟨later, made⟩
      have pushed : pushElement (.Array done) v = some (.Array (done ++ [v])) := rfl
      have puts : ∀ (state : Memory) id Item box, Item.FHandle = some box →
          state.Push ⟨some memory.heap.length, true⟩ id Item =
            (consume state.heap memory.heap.length box pushElement).map (state.handOver id Item) := by
        intro state id Item box handle
        simp only [Push, handle, zpr_json_array_push]
      have given := give_eq memory earlier later pushed puts
      rcases induction (fun other member => builds other (List.mem_cons_of_mem v member))
        (done ++ [v]) (earlier + (later + 1)) with ⟨parts, others⟩
      refine ⟨parts, ?_⟩
      rw [List.append_assoc] at others
      simp only [buildElements, made, bind, Except.bind, given, others]
      rfl

theorem buildFields_eq (memory : Memory) (fields : List (String × Value))
    (builds : ∀ field ∈ fields, Builds field.2)
    (noNul : ∀ field ∈ fields, '\x00' ∉ field.1.toList) :
    ∀ (done : List (String × Value)) (earlier : Nat),
      (done ++ fields).Pairwise (fun first second => first.1 < second.1) → ∃ parts,
        buildFields ⟨some memory.heap.length, true⟩ ((memory.added (.Object done)).grown earlier)
          fields = .ok ((memory.added (.Object (done ++ fields))).grown parts) := by
  induction fields with
  | nil =>
      intro done earlier _
      exact ⟨earlier, by rw [buildFields, List.append_nil]⟩
  | cons field fields induction =>
      intro done earlier ordered
      rcases field with ⟨key, v⟩
      rcases builds (key, v) List.mem_cons_self ((memory.added (.Object done)).grown earlier) with
        ⟨later, made⟩
      have last : ∀ other ∈ done, other.1 < key := by
        intro other member
        exact (List.pairwise_append.mp ordered).2.2 other member (key, v) List.mem_cons_self
      have put : setField key (.Object done) v = some (.Object (done ++ [(key, v)])) := by
        rw [setField, as_object, Option.map_some, insertField_last last]
      have puts : ∀ (state : Memory) id Item box, Item.FHandle = some box →
          state.SetField ⟨some memory.heap.length, true⟩ (cstr key) id Item =
            (consume state.heap memory.heap.length box (setField key)).map
              (state.handOver id Item) := by
        intro state id Item box handle
        simp only [SetField, handle, zpr_json_object_set,
          utf8Ptr_cstr (noNul (key, v) List.mem_cons_self), cstr_to_str_cstr]
      have given := give_eq memory earlier later put puts
      rcases induction (fun other member => builds other (List.mem_cons_of_mem _ member))
        (fun other member => noNul other (List.mem_cons_of_mem _ member)) (done ++ [(key, v)])
        (earlier + (later + 1)) (by rw [List.append_assoc]; exact ordered) with ⟨parts, others⟩
      refine ⟨parts, ?_⟩
      rw [List.append_assoc] at others
      simp only [buildFields, made, bind, Except.bind, given, others]
      rfl

theorem builds_of_plain {serde : Serde} {fromAnsi : FromAnsi} {v : Value}
    (plain : Plain serde fromAnsi v) : Builds v := by
  induction plain with
  | Null =>
      intro memory
      exact ⟨0, by rw [grown_zero]; rfl⟩
  | Bool b =>
      intro memory
      refine ⟨0, ?_⟩
      rw [grown_zero]
      cases b <;> rfl
  | Number double finite =>
      intro memory
      refine ⟨0, ?_⟩
      rw [grown_zero, build, NewFloat, zpr_json_new_f64, toFloat, from_f64, if_pos finite]
      rfl
  | String s survives =>
      intro memory
      refine ⟨0, ?_⟩
      simp only [build, NewString, zpr_json_new_string, utf8Ptr_cstr survives.1, cstr_to_str_cstr,
        grown_zero]
      rfl
  | Array elements parts builds =>
      intro memory
      have container := made_grown memory (.Array []) 0
      rw [grown_zero] at container
      rcases buildElements_eq memory elements builds [] 0 with ⟨count, filled⟩
      rw [grown_zero] at filled
      have empty : memory.NewArray = (memory.added (.Array []), .created memory.instances.length) :=
        rfl
      refine ⟨count, ?_⟩
      rw [build, empty]
      simp only [container, filled, Except.map, List.nil_append]
  | Object fields text ordered survive writes reads parts builds =>
      intro memory
      have noNul : ∀ field ∈ fields, '\x00' ∉ field.1.toList :=
        fun field member => (survive field.1 (List.mem_map_of_mem member)).1
      have container := made_grown memory (.Object []) 0
      rw [grown_zero] at container
      rcases buildFields_eq memory fields builds noNul [] 0 ordered with ⟨count, filled⟩
      rw [grown_zero] at filled
      have empty : memory.NewObject =
          (memory.added (.Object []), .created memory.instances.length) := rfl
      refine ⟨count, ?_⟩
      rw [build, empty]
      simp only [container, filled, Except.map, List.nil_append]

/-! ## Reading a tree -/

/-- Down to this depth, the tree that a handle stands for is read as it is, and the memory
is left as it was found but for the places of what has been freed. -/
def ReadsAt (serde : Serde) (fromAnsi : FromAnsi) (depth : Nat) (v : Value) : Prop :=
  ∀ (memory : Memory) (self : TZprJson) box, self.FHandle = some box →
    memory.heap.read box = .ok v →
    ∃ parts, readTree serde fromAnsi depth memory self = .ok (memory.grown parts, some v)

/-- A depth that suffices for each of some parts suffices for all of them. -/
theorem exists_common_depth {Item : Type} {Holds : Nat → Item → Prop} (parts : List Item)
    (each : ∀ part ∈ parts, ∃ depth, ∀ more, depth ≤ more → Holds more part) :
    ∃ depth, ∀ more, depth ≤ more → ∀ part ∈ parts, Holds more part := by
  induction parts with
  | nil => exact ⟨0, nofun⟩
  | cons part parts induction =>
      rcases each part List.mem_cons_self with ⟨first, holds⟩
      rcases induction fun other member => each other (List.mem_cons_of_mem part member) with
        ⟨second, others⟩
      refine ⟨max first second, fun more enough other member => ?_⟩
      rcases List.mem_cons.mp member with rfl | member
      · exact holds more (by omega)
      · exact others more (by omega) other member

/-- A part in a new box, which is freed when it has been read. -/
theorem readPart_added {read : Memory → TZprJson → Except Fault (Memory × Option Value)} {v : Value}
    (memory : Memory)
    (reads : read (memory.added v) ⟨some memory.heap.length, true⟩ =
      .ok ((memory.added v).grown parts, some v)) :
    readPart read (memory.added v) (.created memory.instances.length) =
      .ok (memory.grown (parts + 1), some v) := by
  simp only [readPart, memory.made_added, reads, bind, Except.bind, freeInstance_added]

section

variable {read : Memory → TZprJson → Except Fault (Memory × Option Value)} {self : TZprJson}

theorem readElements_eq (handle : self.FHandle = some box) (rest : List Value)
    (reads : ∀ v ∈ rest, ∀ memory : Memory, ∃ parts,
      read (memory.added v) ⟨some memory.heap.length, true⟩ =
        .ok ((memory.added v).grown parts, some v)) :
    ∀ (before : List Value) (memory : Memory),
      memory.heap.read box = .ok (.Array (before ++ rest)) → ∃ parts,
        readElements read self rest.length before.length before memory =
          .ok (memory.grown parts, some (before ++ rest)) := by
  induction rest with
  | nil =>
      intro before memory _
      exact ⟨0, by rw [List.length_nil, readElements, grown_zero, List.append_nil]⟩
  | cons v rest induction =>
      intro before memory array
      have element : (before ++ v :: rest)[before.length]? = some v := by simp
      have got := getItem_eq handle array element
      rcases reads v List.mem_cons_self memory with ⟨first, part⟩
      have isRead := readPart_added memory part
      have still : (memory.grown (first + 1)).heap.read box =
          .ok (.Array ((before ++ [v]) ++ rest)) := by
        rw [List.append_assoc]
        exact read_grown array (first + 1)
      rcases induction (fun other member => reads other (List.mem_cons_of_mem v member))
        (before ++ [v]) (memory.grown (first + 1)) still with ⟨parts, others⟩
      rw [List.length_append, List.length_singleton, grown_grown, List.append_assoc] at others
      refine ⟨first + 1 + parts, ?_⟩
      simp only [List.length_cons, readElements, got, isRead, bind, Except.bind, others]
      rfl

theorem readFields_eq (handle : self.FHandle = some box) {fields : List (String × Value)}
    (distinct : (fields.map Prod.fst).Nodup)
    (noNul : ∀ field ∈ fields, '\x00' ∉ field.1.toList) (rest : List (String × Value))
    (reads : ∀ field ∈ rest, ∀ memory : Memory, ∃ parts,
      read (memory.added field.2) ⟨some memory.heap.length, true⟩ =
        .ok ((memory.added field.2).grown parts, some field.2)) :
    ∀ (before : List (String × Value)) (memory : Memory), fields = before ++ rest →
      memory.heap.read box = .ok (.Object fields) → ∃ parts,
        readFields read self (rest.map fun field => cstr field.1) before memory =
          .ok (memory.grown parts, some fields) := by
  induction rest with
  | nil =>
      intro before memory split _
      rw [List.append_nil] at split
      exact ⟨0, by rw [List.map_nil, readFields, grown_zero, split]⟩
  | cons field rest induction =>
      intro before memory split object
      rcases field with ⟨key, v⟩
      have member : (key, v) ∈ fields := by
        rw [split]
        exact List.mem_append_right _ List.mem_cons_self
      have got := getField_eq handle object (noNul _ member) (lookup_of_mem distinct member)
      rcases reads (key, v) List.mem_cons_self memory with ⟨first, part⟩
      have isRead := readPart_added memory part
      rcases induction (fun other member => reads other (List.mem_cons_of_mem _ member))
        (before ++ [(key, v)]) (memory.grown (first + 1)) (by rw [List.append_assoc]; exact split)
        (read_grown object (first + 1)) with ⟨parts, others⟩
      rw [grown_grown] at others
      refine ⟨first + 1 + parts, ?_⟩
      simp only [List.map_cons, readFields, got, isRead, bind, Except.bind, textOf_cstr, others]

end

theorem getKind_eq {v : Value} {self : TZprJson} (handle : self.FHandle = some box)
    (held : memory.heap.read box = .ok v) : memory.GetKind self = .ok (kind v) := by
  simp only [GetKind, zpr_json_kind, handle, handle_ref, held, Except.map, Heap.silent]

theorem asString_eq {s : String} {self : TZprJson} (fromAnsi : FromAnsi)
    (handle : self.FHandle = some box) (held : memory.heap.read box = .ok (.String s))
    (noNul : '\x00' ∉ s.toList) (ansi : fromAnsi (cstr s) = cstr s) :
    memory.AsString fromAnsi self = .ok (cstr s) := by
  simp only [AsString, zpr_json_as_string, handle, handle_ref, held, Except.map, Option.bind_some,
    as_str, Option.map_some, Heap.silent, TakeString, string_to_cstring_ptr_eq noNul, ansi]

theorem getAsBoolean_eq {self : TZprJson} (handle : self.FHandle = some box)
    (held : memory.heap.read box = .ok (.Bool b)) :
    memory.GetAsBoolean self = .ok (memory, .ok b) := by
  simp only [GetAsBoolean, zpr_json_as_bool, handle, handle_ref, held, Except.map, Option.bind_some,
    as_bool]
  cases b <;> rfl

theorem getAsFloat_eq {self : TZprJson} (handle : self.FHandle = some box)
    (held : memory.heap.read box = .ok (.Number n)) :
    memory.GetAsFloat self = .ok (memory, .ok (toFloat n)) := by
  simp only [GetAsFloat, zpr_json_as_f64, handle, handle_ref, held, Except.map, Option.bind_some,
    as_f64]
  rfl

theorem readsAt_of_plain {serde : Serde} {fromAnsi : FromAnsi} {v : Value}
    (plain : Plain serde fromAnsi v) :
    ∃ depth, ∀ more, depth ≤ more → ReadsAt serde fromAnsi more v := by
  -- the depth is one more than that of the parts
  have below : ∀ (v : Value) (depth : Nat),
      (∀ more, depth ≤ more → ReadsAt serde fromAnsi (more + 1) v) →
      ∃ depth, ∀ more, depth ≤ more → ReadsAt serde fromAnsi more v := by
    intro v depth reads
    refine ⟨depth + 1, fun more enough => ?_⟩
    have positive : more - 1 + 1 = more := by omega
    rw [← positive]
    exact reads (more - 1) (by omega)
  induction plain with
  | Null =>
      apply below _ 0
      intro more _ memory self box handle held
      have isKind := getKind_eq handle held
      refine ⟨0, ?_⟩
      simp only [readTree, isKind, kind, bind, Except.bind, if_true, grown_zero]
  | Bool b =>
      apply below _ 0
      intro more _ memory self box handle held
      have isKind := getKind_eq handle held
      have taken := getAsBoolean_eq handle held
      refine ⟨0, ?_⟩
      simp [readTree, isKind, kind, bind, Except.bind, taken, grown_zero, Except.toOption]
  | Number double finite =>
      apply below _ 0
      intro more _ memory self box handle held
      have isKind := getKind_eq handle held
      have taken := getAsFloat_eq handle held
      refine ⟨0, ?_⟩
      simp [readTree, isKind, kind, bind, Except.bind, taken, grown_zero, Except.toOption, toFloat]
  | String s survives =>
      apply below _ 0
      intro more _ memory self box handle held
      have isKind := getKind_eq handle held
      have taken := asString_eq fromAnsi handle held survives.1 survives.2
      refine ⟨0, ?_⟩
      simp [readTree, isKind, kind, bind, Except.bind, taken, grown_zero, textOf_cstr]
  | Array elements parts reads =>
      rcases exists_common_depth elements reads with ⟨depth, all⟩
      apply below _ depth
      intro more enough memory self box handle held
      have isKind := getKind_eq handle held
      have length := arrayLength_eq self handle held
      have each : ∀ v ∈ elements, ∀ memory : Memory, ∃ parts,
          readTree serde fromAnsi more (memory.added v) ⟨some memory.heap.length, true⟩ =
            .ok ((memory.added v).grown parts, some v) := by
        intro v member memory
        exact all more enough v member (memory.added v) _ _ rfl (memory.read_new v)
      rcases readElements_eq handle elements each [] memory held with ⟨count, isRead⟩
      rw [List.length_nil, List.nil_append] at isRead
      refine ⟨count, ?_⟩
      simp [readTree, isKind, kind, bind, Except.bind, length, isRead]
  | Object fields text ordered survive writes reads parts readsParts =>
      rcases exists_common_depth fields readsParts with ⟨depth, all⟩
      apply below _ depth
      intro more enough memory self box handle held
      have isKind := getKind_eq handle held
      have keys := keys_eq handle held writes reads
      rw [keys_of_survives reads.converted survive, cstr_names] at keys
      have noNul : ∀ field ∈ fields, '\x00' ∉ field.1.toList :=
        fun field member => (survive field.1 (List.mem_map_of_mem member)).1
      have distinct : (fields.map Prod.fst).Nodup := by
        apply List.pairwise_map.mpr
        apply ordered.imp
        intro first second smaller same
        rw [same] at smaller
        exact String.lt_irrefl _ smaller
      have each : ∀ field ∈ fields, ∀ memory : Memory, ∃ parts,
          readTree serde fromAnsi more (memory.added field.2) ⟨some memory.heap.length, true⟩ =
            .ok ((memory.added field.2).grown parts, some field.2) := by
        intro field member memory
        exact all more enough field member (memory.added field.2) _ _ rfl (memory.read_new field.2)
      rcases readFields_eq handle distinct noNul fields each [] (memory.grown (fields.length + 1))
        rfl (read_grown held (fields.length + 1)) with ⟨count, isRead⟩
      rw [grown_grown] at isRead
      refine ⟨fields.length + 1 + count, ?_⟩
      simp [readTree, isKind, kind, bind, Except.bind, keys, isRead]

end Memory

open Memory in
/-- Whatever there is in the memory: a tree that is made through instances is read back
through instances as it was. Its instance is then the only one that has been added, it owns
the only box, and freeing it leaves the memory as it was but for empty places. -/
theorem json_trees_round_trip {serde : Serde} {fromAnsi : FromAnsi} {v : Value}
    (plain : Plain serde fromAnsi v) (memory : Memory) :
    ∃ parts depth, memory.build v =
        .ok ((memory.added v).grown parts, .created memory.instances.length) ∧
      ∀ more, depth ≤ more → ∃ temporaries,
        readTree serde fromAnsi more ((memory.added v).grown parts)
            ⟨some memory.heap.length, true⟩ =
          .ok ((memory.added v).grown (parts + temporaries), some v) ∧
        ((memory.added v).grown (parts + temporaries)).freeInstance memory.instances.length =
          .ok (memory.grown (parts + temporaries + 1)) := by
  rcases builds_of_plain plain memory with ⟨parts, made⟩
  rcases readsAt_of_plain plain with ⟨depth, reads⟩
  refine ⟨parts, depth, made, fun more enough => ?_⟩
  rcases reads more enough ((memory.added v).grown parts) ⟨some memory.heap.length, true⟩ _ rfl
    (read_added_grown memory v parts) with ⟨temporaries, isRead⟩
  rw [grown_grown] at isRead
  exact ⟨temporaries, isRead, freeInstance_added memory v (parts + temporaries)⟩

/-- An object of a list of a string and a number, and a null. -/
def listAndNull : Value :=
  .Object [("a", .Array [.String "x", .Number (.Float 0x3FE0000000000000)]), ("b", .Null)]

open Memory in
theorem json_trees_round_trip_for_object : ∃ parts depth temporaries,
    Memory.start.build listAndNull =
        .ok ((Memory.start.added listAndNull).grown parts, .created 0) ∧
      readTree (serdeOf ["a", "b"] "[\"a\",\"b\"]") id depth
          ((Memory.start.added listAndNull).grown parts) ⟨some 0, true⟩ =
        .ok ((Memory.start.added listAndNull).grown (parts + temporaries), some listAndNull) := by
  have plain : Plain (serdeOf ["a", "b"] "[\"a\",\"b\"]") id listAndNull := by
    apply Plain.Object _ "[\"a\",\"b\"]"
    · decide
    · intro name member
      simp only [List.map_cons, List.map_nil, List.mem_cons, List.not_mem_nil, or_false] at member
      rcases member with rfl | rfl <;> exact ⟨by decide, rfl⟩
    · exact ⟨rfl, by decide⟩
    · exact ⟨rfl, rfl, rfl, by decide, by decide⟩
    · intro field member
      simp only [List.mem_cons, List.not_mem_nil, or_false] at member
      rcases member with rfl | rfl
      · apply Plain.Array
        intro v member
        simp only [List.mem_cons, List.not_mem_nil, or_false] at member
        rcases member with rfl | rfl
        · exact .String "x" ⟨by decide, rfl⟩
        · exact .Number 0x3FE0000000000000 (by decide)
      · exact .Null
  rcases json_trees_round_trip plain Memory.start with ⟨parts, depth, made, reads⟩
  rcases reads depth (Nat.le_refl _) with ⟨temporaries, isRead, _⟩
  exact ⟨parts, depth, temporaries, made, isRead⟩

end Zpr.Pascal.Json
