import Zpr.Pascal.Json

namespace Zpr.Pascal.Json

open Ffi Zpr.Json

/-! # Who owns a JSON handle

The library frees the box of a value before it looks at the container; the instance of the
value gives up its handle only where the call has succeeded. Between the two lie the calls
after which nobody may free what somebody still owns. -/

namespace Memory

/-- The instance owns the handle that it wraps. -/
def Owns (memory : Memory) (id : Nat) (handle : Handle) : Prop :=
  ∃ self, memory.find id = some self ∧ self.FOwnsHandle = true ∧ self.FHandle = handle

/-- The box has not been freed. -/
def Live (memory : Memory) (box : Nat) : Prop := ∃ v, memory.heap[box]? = some (some v)

/-- Every instance that owns a handle refers to a live box, and nothing undefined has been
done. -/
structure Sound (memory : Memory) : Prop where
  defined : memory.fault = none
  owners : ∀ id self, memory.find id = some self → self.FOwnsHandle = true →
    ∃ box, self.FHandle = some box ∧ memory.Live box

/-- The same for the handles that are not null. -/
structure NotDangling (memory : Memory) : Prop where
  defined : memory.fault = none
  live : ∀ {id box}, memory.Owns id (some box) → memory.Live box

/-- No instance that owns its handle has a null one. -/
def NoNull (memory : Memory) : Prop := ∀ id, ¬ memory.Owns id none

/-- No box has two owners. -/
def Separate (memory : Memory) : Prop :=
  ∀ {id other box}, memory.Owns id (some box) → memory.Owns other (some box) → id = other

theorem sound_iff {memory : Memory} :
    memory.Sound ↔ memory.NotDangling ∧ memory.NoNull := by
  constructor
  · intro sound
    refine ⟨⟨sound.defined, ?_⟩, ?_⟩
    · rintro id box ⟨self, found, owns, handle⟩
      rcases sound.owners id self found owns with ⟨other, same, live⟩
      rw [handle] at same
      cases same
      exact live
    · rintro id ⟨self, found, owns, isNull⟩
      rcases sound.owners id self found owns with ⟨box, handle, _⟩
      rw [isNull] at handle
      cases handle
  · rintro ⟨notDangling, noNull⟩
    refine ⟨notDangling.defined, fun id self found owns => ?_⟩
    cases handle : self.FHandle with
    | none => exact absurd ⟨self, found, owns, handle⟩ (noNull id)
    | some box => exact ⟨box, rfl, notDangling.live ⟨self, found, owns, handle⟩⟩

theorem find_eq_some {memory : Memory} {id : Nat} {self : TZprJson} :
    memory.find id = some self ↔ memory.instances[id]? = some (some self) := by
  rw [find, Option.join_eq_some_iff]

end Memory

/-- The instances that an operation works on. Freeing an instance is no use of it. -/
def Operation.uses : Operation → List Nat
  | .GetItem self _ | .GetField self _ | .ToJson self _ => [self]
  | .Push self AValue | .SetField self _ AValue => [self, AValue]
  | _ => []

/-- No instance is used after it has been handed over. -/
def Respects (memory : Memory) (operation : Operation) : Prop :=
  ∀ id ∈ operation.uses, ∀ self, memory.find id = some self → self.FOwnsHandle = true

/-- What is pushed goes to an array, and what is set to an object, that is another box. -/
def Careful (memory : Memory) : Operation → Prop
  | .Push id AValue =>
      ∀ self value array box, memory.find id = some self → memory.find AValue = some value →
        self.FHandle = some array → value.FHandle = some box →
        array ≠ box ∧ ∃ elements, memory.heap[array]? = some (some (.Array elements))
  | .SetField id AKey AValue =>
      ∀ self value object box key, memory.find id = some self →
        memory.find AValue = some value → self.FHandle = some object →
        value.FHandle = some box → cstr_to_str (Utf8Ptr AKey) = .ok key →
        object ≠ box ∧ ∃ fields, memory.heap[object]? = some (some (.Object fields))
  | _ => True

/-- A new string is made of UTF-8. -/
def GivenText : Operation → Prop
  | .NewString AValue => ∃ s, cstr_to_str (Utf8Ptr AValue) = .ok s
  | _ => True

/-! ## What an operation does -/

/-- The effects that agree with who owns what. -/
inductive Agreed (memory : Memory) : Memory → Outcome → Prop
  | unchanged (error : Option String) (outcome : Outcome) :
      Agreed memory { memory with LAST_ERROR := error } outcome
  | created (error : Option String) (v : Value) (id : Nat) :
      Agreed memory
        { memory with
          heap := memory.heap ++ [some v]
          LAST_ERROR := error
          instances := memory.instances ++ [some ⟨some memory.heap.length, true⟩] }
        (.created id)
  | handedOver {value : TZprJson} {AValue box container : Nat} (error : Option String)
      (c : Value) (found : memory.find AValue = some value) (owns : memory.Owns AValue (some box)) :
      Agreed memory
        { memory with
          heap := (memory.heap.set box none).set container (some c)
          LAST_ERROR := error
          instances := memory.instances.set AValue (some { value with FOwnsHandle := false }) }
        .done
  /-- an instance is freed that owns a box -/
  | freed {id box : Nat} (error : Option String) (owns : memory.Owns id (some box)) :
      Agreed memory
        { memory with
          heap := memory.heap.set box none
          LAST_ERROR := error
          instances := memory.instances.set id none }
        .done
  /-- an instance is freed that owns none -/
  | dropped (id : Nat) :
      Agreed memory { memory with instances := memory.instances.set id none } .done

/-- The effects that do not. -/
inductive Broken (memory : Memory) : Memory → Prop
  /-- the value is gone, and its instance still owns it -/
  | stranded {AValue box : Nat} (error : Option String) (owns : memory.Owns AValue (some box)) :
      Broken memory { memory with heap := memory.heap.set box none, LAST_ERROR := error }
  | undefined (fault : Fault) : Broken memory { memory with fault := some fault }

/-- What a step does, with what decides about it. -/
inductive Effect (memory : Memory) (operation : Operation) : Memory → Outcome → Prop
  | agreed (careful : Careful memory operation) (text : GivenText operation)
      (effect : Agreed memory next outcome) : Effect memory operation next outcome
  /-- a null handle is wrapped -/
  | wrapped (careful : Careful memory operation) (noText : ¬ GivenText operation)
      (error : Option String) (id : Nat) :
      Effect memory operation
        { memory with
          LAST_ERROR := error
          instances := memory.instances ++ [some ⟨none, true⟩] }
        (.created id)
  | broken (careless : ¬ Careful memory operation) (effect : Broken memory next) :
      Effect memory operation next outcome

section

variable {memory next : Memory} {outcome : Outcome} {id box changed : Nat}
  {handle : Handle}

theorem Memory.owns_lt (sound : memory.NotDangling) (owns : memory.Owns id (some box)) :
    box < memory.heap.length := by
  rcases sound.live owns with ⟨v, live⟩
  exact (List.getElem?_eq_some_iff.mp live).1

/-- The owners after one more instance. -/
theorem Memory.owns_append {instance_ : TZprJson} {error : Option String} {heap : Heap}
    (owns : Memory.Owns
      { memory with
        heap := heap, LAST_ERROR := error
        instances := memory.instances ++ [some instance_] } id handle) :
    memory.Owns id handle ∨
      (id = memory.instances.length ∧ instance_.FHandle = handle) := by
  rcases owns with ⟨self, found, flag, wrapped⟩
  rw [find_eq_some] at found
  rcases Nat.lt_or_ge id memory.instances.length with before | after
  · rw [List.getElem?_append_left before] at found
    exact .inl ⟨self, find_eq_some.mpr found, flag, wrapped⟩
  · rw [List.getElem?_append_right after, List.getElem?_singleton] at found
    split at found
    · rename_i last
      cases found
      exact .inr ⟨by omega, wrapped⟩
    · cases found

/-- Where an instance is replaced by none or by one that owns nothing, the other ones own
what they owned. -/
theorem Memory.owns_set {replacement : Option TZprJson} {error : Option String} {heap : Heap}
    (disowned : ∀ self, replacement = some self → self.FOwnsHandle = false)
    (owns : Memory.Owns
      { memory with
        heap := heap, LAST_ERROR := error
        instances := memory.instances.set changed replacement } id handle) :
    memory.Owns id handle ∧ id ≠ changed := by
  rcases owns with ⟨self, found, flag, wrapped⟩
  rw [find_eq_some] at found
  by_cases same : changed = id
  · subst same
    rw [List.getElem?_set_self'] at found
    rcases Option.map_eq_some_iff.mp found with ⟨_, _, replaced⟩
    rw [Function.const_apply] at replaced
    rw [disowned self replaced] at flag
    cases flag
  · rw [List.getElem?_set_ne same] at found
    exact ⟨⟨self, find_eq_some.mpr found, flag, wrapped⟩, fun equal => same equal.symm⟩

/-- A box stays live while another one is freed. -/
theorem getElem_set_none {heap : Heap} {v : Value} (live : heap[box]? = some (some v))
    {freed : Nat} (other : freed ≠ box) :
    (heap.set freed none)[box]? = some (some v) := by
  rw [List.getElem?_set_ne other]
  exact live

/-- A box that is written is live. -/
theorem getElem_set_some {heap : Heap} {v : Value} (live : heap[box]? = some (some v))
    (container : Nat) (c : Value) :
    ∃ v, (heap.set container (some c))[box]? = some (some v) := by
  by_cases same : container = box
  · subst same
    rw [List.getElem?_set_self', live]
    exact ⟨c, rfl⟩
  · rw [List.getElem?_set_ne same]
    exact ⟨v, live⟩

theorem Agreed.kept (effect : Agreed memory next outcome) (sound : memory.NotDangling)
    (separate : memory.Separate) : next.NotDangling ∧ next.Separate := by
  have nobody : ∀ self, (none : Option TZprJson) = some self → self.FOwnsHandle = false := nofun
  cases effect with
  | unchanged error => exact ⟨⟨sound.defined, sound.live⟩, separate⟩
  | created error v =>
      constructor
      · refine ⟨sound.defined, fun owns => ?_⟩
        rcases Memory.owns_append owns with before | ⟨_, new⟩
        · rcases sound.live before with ⟨other, live⟩
          refine ⟨other, ?_⟩
          rw [List.getElem?_append_left (Memory.owns_lt sound before)]
          exact live
        · cases new
          exact ⟨v, by simp⟩
      · intro first second box owns others
        rcases Memory.owns_append owns with before | ⟨last, new⟩
        · rcases Memory.owns_append others with too | ⟨_, new⟩
          · exact separate before too
          · cases new
            exact absurd (Memory.owns_lt sound before) (Nat.lt_irrefl _)
        · cases new
          rcases Memory.owns_append others with before | ⟨too, _⟩
          · exact absurd (Memory.owns_lt sound before) (Nat.lt_irrefl _)
          · rw [last, too]
  | @handedOver value AValue box container error c found owns =>
      have disowned : ∀ self, some { value with FOwnsHandle := false } = some self →
          self.FOwnsHandle = false := by
        intro self same
        cases same
        rfl
      constructor
      · refine ⟨sound.defined, fun held => ?_⟩
        rcases Memory.owns_set disowned held with ⟨before, other⟩
        rcases sound.live before with ⟨v, live⟩
        apply getElem_set_some
        apply getElem_set_none live
        rintro rfl
        exact other (separate before owns)
      · intro first second box held others
        exact separate (Memory.owns_set disowned held).1 (Memory.owns_set disowned others).1
  | @freed id box error owns =>
      constructor
      · refine ⟨sound.defined, fun held => ?_⟩
        rcases Memory.owns_set nobody held with ⟨before, other⟩
        rcases sound.live before with ⟨v, live⟩
        refine ⟨v, getElem_set_none live ?_⟩
        rintro rfl
        exact other (separate before owns)
      · intro first second box held others
        exact separate (Memory.owns_set nobody held).1 (Memory.owns_set nobody others).1
  | dropped id =>
      constructor
      · refine ⟨sound.defined, fun held => ?_⟩
        exact sound.live (Memory.owns_set nobody held).1
      · intro first second box held others
        exact separate (Memory.owns_set nobody held).1 (Memory.owns_set nobody others).1

/-- What raises an exception leaves every box and every instance as it was. -/
theorem Agreed.raised {message : String} (effect : Agreed memory next (.raised message)) :
    next.heap = memory.heap ∧ next.instances = memory.instances := by
  cases effect with
  | unchanged error => exact ⟨rfl, rfl⟩

theorem Agreed.noNull (effect : Agreed memory next outcome) (noNull : memory.NoNull) :
    next.NoNull := by
  have nobody : ∀ self, (none : Option TZprJson) = some self → self.FOwnsHandle = false := nofun
  intro id owns
  cases effect with
  | unchanged error => exact noNull id owns
  | created error v =>
      rcases Memory.owns_append owns with before | ⟨_, new⟩
      · exact noNull id before
      · cases new
  | @handedOver value AValue box container error c found owner =>
      apply noNull id
      apply And.left (Memory.owns_set _ owns)
      intro self same
      cases same
      rfl
  | freed error owner => exact noNull id (Memory.owns_set nobody owns).1
  | dropped changed => exact noNull id (Memory.owns_set nobody owns).1

theorem Broken.dangling (effect : Broken memory next) : ¬ next.NotDangling := by
  intro sound
  cases effect with
  | @stranded AValue box error owns =>
      have still : Memory.Owns
          { memory with heap := memory.heap.set box none, LAST_ERROR := error } AValue (some box) :=
        owns
      rcases sound.live still with ⟨v, live⟩
      simp [List.getElem?_set] at live
  | undefined fault => cases sound.defined

/-! ### One operation -/

/-- Whoever owns a handle can lend it. -/
theorem Memory.lends (sound : memory.NotDangling) (owns : memory.Owns id handle) :
    ∃ v, handle_ref memory.heap handle = .ok v := by
  cases handle with
  | none => exact ⟨none, rfl⟩
  | some box =>
      rcases sound.live owns with ⟨v, live⟩
      exact ⟨some v, by rw [handle_ref, Heap.read, live]; rfl⟩

theorem New_effect (v : Value) :
    Agreed memory (memory.New (memory.heap.into_raw v)).1
      (memory.New (memory.heap.into_raw v)).2 :=
  .created _ v _

theorem Get_effect (error : String) (v : Option Value) :
    Agreed memory (memory.Get error (memory.heap.cloned v)).1
      (memory.Get error (memory.heap.cloned v)).2 := by
  cases v with
  | none => exact .unchanged _ _
  | some v => exact .created _ v _

/-- The call that hands a value over agrees with the instances exactly if the value finds
its place in another box. -/
theorem handOver_effect {AValue container : Nat} {value : TZprJson} {c v : Value}
    (put : Value → Value → Option Value) (found : memory.find AValue = some value)
    (owns : memory.Owns AValue (some box)) (held : memory.heap[container]? = some (some c))
    (live : memory.heap[box]? = some (some v)) :
    (container ≠ box ∧ put c v ≠ none ∧
      Agreed memory
        (memory.finish ((consume memory.heap container box put).map
          (memory.handOver AValue value))).1
        (memory.finish ((consume memory.heap container box put).map
          (memory.handOver AValue value))).2) ∨
    (¬ (container ≠ box ∧ put c v ≠ none) ∧
      Broken memory (memory.finish ((consume memory.heap container box put).map
        (memory.handOver AValue value))).1) := by
  have taken : memory.heap.from_raw box = .ok (v, memory.heap.set box none) := by
    rw [Heap.from_raw, live]
  by_cases same : container = box
  · right
    refine ⟨fun careful => careful.1 same, ?_⟩
    have gone : Heap.read (memory.heap.set box none) container = .error (.touched container) := by
      rw [Heap.read, same, List.getElem?_set_self', live]
      rfl
    simp only [consume, taken, gone]
    exact .undefined _
  · have read : Heap.read (memory.heap.set box none) container = .ok c := by
      rw [Heap.read, List.getElem?_set_ne (fun equal => same equal.symm), held]
    cases placed : put c v with
    | none =>
        right
        refine ⟨fun careful => careful.2 rfl, ?_⟩
        simp only [consume, taken, read, Except.map, placed]
        exact .stranded _ owns
    | some c' =>
        left
        refine ⟨same, by simp, ?_⟩
        simp only [consume, taken, read, Except.map, placed]
        exact .handedOver _ c' found owns

theorem pushElement_ne_none {c v : Value} :
    pushElement c v ≠ none ↔ ∃ elements, c = .Array elements := by
  cases c <;> simp [pushElement, as_array]

theorem setField_ne_none {key : String} {c v : Value} :
    setField key c v ≠ none ↔ ∃ fields, c = .Object fields := by
  cases c <;> simp [setField, as_object]

section HandOver

variable {self value : TZprJson} {AValue container : Nat}
  (foundSelf : memory.find id = some self) (foundValue : memory.find AValue = some value)

include foundSelf foundValue

theorem careful_push_iff {c : Value} (selfHandle : self.FHandle = some container)
    (valueHandle : value.FHandle = some box)
    (held : memory.heap[container]? = some (some c)) (v : Value) :
    Careful memory (.Push id AValue) ↔ container ≠ box ∧ pushElement c v ≠ none := by
  rw [pushElement_ne_none]
  constructor
  · intro careful
    rcases careful self value container box foundSelf foundValue selfHandle valueHandle with
      ⟨other, elements, isArray⟩
    rw [held] at isArray
    cases isArray
    exact ⟨other, elements, rfl⟩
  · rintro ⟨other, elements, rfl⟩ self' value' array box' found found' handle handle'
    cases foundSelf.symm.trans found
    cases foundValue.symm.trans found'
    cases selfHandle.symm.trans handle
    cases valueHandle.symm.trans handle'
    exact ⟨other, elements, held⟩

theorem careful_set_iff {c : Value} {AKey : Bytes} {key : String}
    (selfHandle : self.FHandle = some container) (valueHandle : value.FHandle = some box)
    (decoded : cstr_to_str (Utf8Ptr AKey) = .ok key)
    (held : memory.heap[container]? = some (some c)) (v : Value) :
    Careful memory (.SetField id AKey AValue) ↔ container ≠ box ∧ setField key c v ≠ none := by
  rw [setField_ne_none]
  constructor
  · intro careful
    rcases careful self value container box key foundSelf foundValue selfHandle valueHandle
      decoded with ⟨other, fields, isObject⟩
    rw [held] at isObject
    cases isObject
    exact ⟨other, fields, rfl⟩
  · rintro ⟨other, fields, rfl⟩ self' value' object box' key' found found' handle handle' _
    cases foundSelf.symm.trans found
    cases foundValue.symm.trans found'
    cases selfHandle.symm.trans handle
    cases valueHandle.symm.trans handle'
    exact ⟨other, fields, held⟩

theorem Push_effect (sound : memory.NotDangling) (selfOwns : self.FOwnsHandle = true)
    (valueOwns : value.FOwnsHandle = true) :
    Effect memory (.Push id AValue) (memory.finish (memory.Push self AValue value)).1
      (memory.finish (memory.Push self AValue value)).2 := by
  cases selfHandle : self.FHandle with
  | none =>
      simp only [Memory.Push, zpr_json_array_push, selfHandle, Except.map]
      refine .agreed ?_ trivial (.unchanged _ _)
      intro self' _ array _ found _ handle _
      cases foundSelf.symm.trans found
      rw [selfHandle] at handle
      cases handle
  | some container =>
      cases valueHandle : value.FHandle with
      | none =>
          simp only [Memory.Push, zpr_json_array_push, selfHandle, valueHandle, Except.map]
          refine .agreed ?_ trivial (.unchanged _ _)
          intro _ value' _ box _ found _ handle
          cases foundValue.symm.trans found
          rw [valueHandle] at handle
          cases handle
      | some box =>
          have owns : memory.Owns AValue (some box) := ⟨value, foundValue, valueOwns, valueHandle⟩
          rcases sound.live ⟨self, foundSelf, selfOwns, selfHandle⟩ with ⟨c, held⟩
          rcases sound.live owns with ⟨v, live⟩
          simp only [Memory.Push, zpr_json_array_push, selfHandle, valueHandle]
          have decides := careful_push_iff foundSelf foundValue selfHandle valueHandle held v
          rcases handOver_effect pushElement foundValue owns held live with
            ⟨other, placed, effect⟩ | ⟨careless, effect⟩
          · exact .agreed (decides.mpr ⟨other, placed⟩) trivial effect
          · exact .broken (fun careful => careless (decides.mp careful)) effect

theorem SetField_effect (AKey : Bytes) (sound : memory.NotDangling)
    (selfOwns : self.FOwnsHandle = true) (valueOwns : value.FOwnsHandle = true) :
    Effect memory (.SetField id AKey AValue)
      (memory.finish (memory.SetField self AKey AValue value)).1
      (memory.finish (memory.SetField self AKey AValue value)).2 := by
  cases selfHandle : self.FHandle with
  | none =>
      simp only [Memory.SetField, zpr_json_object_set, selfHandle, Except.map]
      refine .agreed ?_ trivial (.unchanged _ _)
      intro self' _ object _ _ found _ handle _ _
      cases foundSelf.symm.trans found
      rw [selfHandle] at handle
      cases handle
  | some container =>
      cases valueHandle : value.FHandle with
      | none =>
          simp only [Memory.SetField, zpr_json_object_set, selfHandle, valueHandle, Except.map]
          refine .agreed ?_ trivial (.unchanged _ _)
          intro _ value' _ box _ _ found _ handle _
          cases foundValue.symm.trans found
          rw [valueHandle] at handle
          cases handle
      | some box =>
          cases decoded : cstr_to_str (Utf8Ptr AKey) with
          | error e =>
              simp only [Memory.SetField, zpr_json_object_set, selfHandle, valueHandle, decoded,
                Except.map]
              refine .agreed ?_ trivial (.unchanged _ _)
              intro _ _ _ _ key _ _ _ _ again
              rw [decoded] at again
              cases again
          | ok key =>
              have owns : memory.Owns AValue (some box) :=
                ⟨value, foundValue, valueOwns, valueHandle⟩
              rcases sound.live ⟨self, foundSelf, selfOwns, selfHandle⟩ with ⟨c, held⟩
              rcases sound.live owns with ⟨v, live⟩
              simp only [Memory.SetField, zpr_json_object_set, selfHandle, valueHandle, decoded]
              have decides :=
                careful_set_iff foundSelf foundValue selfHandle valueHandle decoded held v
              rcases handOver_effect (setField key) foundValue owns held live with
                ⟨other, placed, effect⟩ | ⟨careless, effect⟩
              · exact .agreed (decides.mpr ⟨other, placed⟩) trivial effect
              · exact .broken (fun careful => careless (decides.mp careful)) effect

end HandOver

theorem Free_effect {self : TZprJson} (found : memory.find id = some self)
    (sound : memory.NotDangling) :
    Agreed memory (memory.finish (memory.Free id self)).1
      (memory.finish (memory.Free id self)).2 := by
  by_cases owns : self.FOwnsHandle = true ∧ self.FHandle ≠ none
  · rcases Option.ne_none_iff_exists'.mp owns.2 with ⟨box, handle⟩
    have owner : memory.Owns id (some box) := ⟨self, found, owns.1, handle⟩
    rcases sound.live owner with ⟨v, live⟩
    have taken : memory.heap.from_raw box = .ok (v, memory.heap.set box none) := by
      rw [Heap.from_raw, live]
    rw [Memory.Free, if_pos owns, handle]
    simp only [zpr_json_free, taken, Except.map]
    exact .freed _ owner
  · rw [Memory.Free, if_neg owns]
    exact .dropped id

theorem Effect.of_eq {operation : Operation} {finished : Memory × Outcome}
    (same : finished = (next, outcome))
    (effect : Effect memory operation finished.1 finished.2) :
    Effect memory operation next outcome := by
  rwa [same] at effect

theorem step_effect {serde : Serde} {fromAnsi : FromAnsi} {operation : Operation} (sound : memory.NotDangling)
    (respects : Respects memory operation)
    (taken : step serde fromAnsi memory operation = some (next, outcome)) :
    Effect memory operation next outcome := by
  simp only [step, sound.defined, Option.isSome_none, Bool.false_eq_true, if_false] at taken
  cases operation with
  | Parse AJson =>
      apply Effect.of_eq (Option.some.inj taken)
      refine .agreed trivial trivial ?_
      rw [Memory.Parse, zpr_json_parse_handle]
      cases zpr_json_parse serde.from_str (Utf8Ptr AJson) with
      | ok v => exact .created _ v _
      | error e => exact .unchanged _ _
  | NewNull =>
      apply Effect.of_eq (Option.some.inj taken)
      exact .agreed trivial trivial (New_effect _)
  | NewBool AValue =>
      apply Effect.of_eq (Option.some.inj taken)
      exact .agreed trivial trivial (New_effect _)
  | NewFloat AValue =>
      apply Effect.of_eq (Option.some.inj taken)
      exact .agreed trivial trivial (New_effect _)
  | NewString AValue =>
      apply Effect.of_eq (Option.some.inj taken)
      cases decoded : cstr_to_str (Utf8Ptr AValue) with
      | ok s =>
          have text : GivenText (.NewString AValue) := ⟨s, decoded⟩
          simp only [Memory.NewString, zpr_json_new_string, decoded]
          exact .agreed trivial text (New_effect _)
      | error e =>
          have noText : ¬ GivenText (.NewString AValue) := by
            rintro ⟨s, again⟩
            rw [decoded] at again
            cases again
          simp only [Memory.NewString, zpr_json_new_string, decoded]
          refine .wrapped ?_ noText _ _
          exact trivial
  | NewArray =>
      apply Effect.of_eq (Option.some.inj taken)
      exact .agreed trivial trivial (New_effect _)
  | NewObject =>
      apply Effect.of_eq (Option.some.inj taken)
      exact .agreed trivial trivial (New_effect _)
  | GetItem id AIndex =>
      rcases Option.map_eq_some_iff.mp taken with ⟨self, found, same⟩
      apply Effect.of_eq same
      have owns := respects id (List.mem_singleton_self id) self found
      rcases Memory.lends sound ⟨self, found, owns, rfl⟩ with ⟨v, lent⟩
      refine .agreed trivial trivial ?_
      simp only [Memory.GetItem, zpr_json_array_get, lent]
      exact Get_effect _ _
  | GetField id AKey =>
      rcases Option.map_eq_some_iff.mp taken with ⟨self, found, same⟩
      apply Effect.of_eq same
      refine .agreed trivial trivial ?_
      cases decoded : cstr_to_str (Utf8Ptr AKey) with
      | error e =>
          simp only [Memory.GetField, zpr_json_object_get, decoded]
          exact .unchanged _ _
      | ok key =>
          have owns := respects id (List.mem_singleton_self id) self found
          rcases Memory.lends sound ⟨self, found, owns, rfl⟩ with ⟨v, lent⟩
          simp only [Memory.GetField, zpr_json_object_get, decoded, lent]
          exact Get_effect _ _
  | Push id AValue =>
      rcases Option.bind_eq_some_iff.mp taken with ⟨self, foundSelf, mapped⟩
      rcases Option.map_eq_some_iff.mp mapped with ⟨value, foundValue, same⟩
      apply Effect.of_eq same
      apply Push_effect foundSelf foundValue sound
      · exact respects id (by simp [Operation.uses]) self foundSelf
      · exact respects AValue (by simp [Operation.uses]) value foundValue
  | SetField id AKey AValue =>
      rcases Option.bind_eq_some_iff.mp taken with ⟨self, foundSelf, mapped⟩
      rcases Option.map_eq_some_iff.mp mapped with ⟨value, foundValue, same⟩
      apply Effect.of_eq same
      apply SetField_effect foundSelf foundValue AKey sound
      · exact respects id (by simp [Operation.uses]) self foundSelf
      · exact respects AValue (by simp [Operation.uses]) value foundValue
  | ToJson id APretty =>
      rcases Option.map_eq_some_iff.mp taken with ⟨self, found, same⟩
      apply Effect.of_eq same
      have owns := respects id (List.mem_singleton_self id) self found
      rcases Memory.lends sound ⟨self, found, owns, rfl⟩ with ⟨v, lent⟩
      refine .agreed trivial trivial ?_
      simp only [Memory.ToJson, zpr_json_stringify, lent]
      cases v with
      | none => exact .unchanged _ _
      | some v =>
          dsimp only [Except.map]
          split
          · exact .unchanged _ _
          · exact .unchanged _ _
  | Free id =>
      rcases Option.map_eq_some_iff.mp taken with ⟨self, found, same⟩
      apply Effect.of_eq same
      exact .agreed trivial trivial (Free_effect found sound)

/-- A careful operation, and no other, keeps the boxes with their owners. -/
theorem step_careful_iff {serde : Serde} {fromAnsi : FromAnsi} {operation : Operation} (sound : memory.NotDangling)
    (separate : memory.Separate) (respects : Respects memory operation)
    (taken : step serde fromAnsi memory operation = some (next, outcome)) :
    next.NotDangling ↔ Careful memory operation := by
  cases step_effect sound respects taken with
  | agreed careful _ effect => exact ⟨fun _ => careful, fun _ => (effect.kept sound separate).1⟩
  | wrapped careful _ error =>
      refine ⟨fun _ => careful, fun _ => ⟨sound.defined, fun owns => ?_⟩⟩
      rcases Memory.owns_append owns with before | ⟨_, isNull⟩
      · exact sound.live before
      · cases isNull
  | broken careless effect =>
      exact ⟨fun kept => absurd kept effect.dangling, fun careful => absurd careful careless⟩

theorem step_separate {serde : Serde} {fromAnsi : FromAnsi} {operation : Operation} (sound : memory.NotDangling)
    (separate : memory.Separate) (respects : Respects memory operation)
    (careful : Careful memory operation)
    (taken : step serde fromAnsi memory operation = some (next, outcome)) : next.Separate := by
  cases step_effect sound respects taken with
  | agreed _ _ effect => exact (effect.kept sound separate).2
  | wrapped _ _ error =>
      intro first second box owns others
      rcases Memory.owns_append owns with before | ⟨_, isNull⟩
      · rcases Memory.owns_append others with too | ⟨_, isNull⟩
        · exact separate before too
        · cases isNull
      · cases isNull
  | broken careless _ => exact absurd careful careless

/-- Only a string that is not UTF-8 makes an instance of a null handle. -/
theorem step_noNull_iff {serde : Serde} {fromAnsi : FromAnsi} {operation : Operation} (sound : memory.NotDangling)
    (noNull : memory.NoNull) (respects : Respects memory operation)
    (careful : Careful memory operation)
    (taken : step serde fromAnsi memory operation = some (next, outcome)) :
    next.NoNull ↔ GivenText operation := by
  cases step_effect sound respects taken with
  | agreed _ text effect => exact ⟨fun _ => text, fun _ => effect.noNull noNull⟩
  | wrapped _ noText error =>
      refine ⟨fun noNulls => ?_, fun text => absurd text noText⟩
      apply absurd _ (noNulls memory.instances.length)
      exact ⟨⟨none, true⟩, by simp [Memory.find], rfl, rfl⟩
  | broken careless _ => exact absurd careful careless

theorem step_raised {serde : Serde} {fromAnsi : FromAnsi} {operation : Operation} {message : String}
    (sound : memory.NotDangling) (respects : Respects memory operation)
    (careful : Careful memory operation)
    (taken : step serde fromAnsi memory operation = some (next, .raised message)) :
    next.heap = memory.heap ∧ next.instances = memory.instances := by
  cases step_effect sound respects taken with
  | agreed _ _ effect => exact effect.raised
  | broken careless _ => exact absurd careful careless

end

/-! ## Whole programs -/

/-- The operation leaves every owner with a live box, and where it raises an exception, every
box and every instance as it was. -/
def Keeps (serde : Serde) (fromAnsi : FromAnsi) (memory : Memory) (operation : Operation) : Prop :=
  ∀ next outcome, step serde fromAnsi memory operation = some (next, outcome) →
    next.Sound ∧ ∀ message, outcome = .raised message →
      next.heap = memory.heap ∧ next.instances = memory.instances

/-- The same for the handles that are not null. -/
def KeepsBoxes (serde : Serde) (fromAnsi : FromAnsi) (memory : Memory) (operation : Operation) :
    Prop :=
  ∀ next outcome, step serde fromAnsi memory operation = some (next, outcome) →
    next.NotDangling ∧ ∀ message, outcome = .raised message →
      next.heap = memory.heap ∧ next.instances = memory.instances

theorem Keeps.boxes {serde : Serde} {fromAnsi : FromAnsi} {memory : Memory} {operation : Operation}
    (keeps : Keeps serde fromAnsi memory operation) :
    KeepsBoxes serde fromAnsi memory operation := by
  intro next outcome taken
  rcases keeps next outcome taken with ⟨sound, raised⟩
  exact ⟨(Memory.sound_iff.mp sound).1, raised⟩

section

variable {serde : Serde} {fromAnsi : FromAnsi} {memory next : Memory} {operation : Operation}
  {outcome : Outcome}

theorem keepsBoxes_iff (sound : memory.NotDangling) (separate : memory.Separate)
    (respects : Respects memory operation)
    (taken : step serde fromAnsi memory operation = some (next, outcome)) :
    KeepsBoxes serde fromAnsi memory operation ↔ Careful memory operation := by
  constructor
  · intro keeps
    exact (step_careful_iff sound separate respects taken).mp (keeps next outcome taken).1
  · intro careful other result again
    refine ⟨(step_careful_iff sound separate respects again).mpr careful, ?_⟩
    rintro message rfl
    exact step_raised sound respects careful again

theorem keeps_iff (sound : memory.NotDangling) (separate : memory.Separate)
    (noNull : memory.NoNull) (respects : Respects memory operation)
    (taken : step serde fromAnsi memory operation = some (next, outcome)) :
    Keeps serde fromAnsi memory operation ↔ GivenText operation ∧ Careful memory operation := by
  constructor
  · intro keeps
    have careful := (keepsBoxes_iff sound separate respects taken).mp keeps.boxes
    have noNulls := (Memory.sound_iff.mp (keeps next outcome taken).1).2
    exact ⟨(step_noNull_iff sound noNull respects careful taken).mp noNulls, careful⟩
  · rintro ⟨text, careful⟩ other result again
    have keeps := (keepsBoxes_iff sound separate respects taken).mpr careful
    rcases keeps other result again with ⟨kept, raised⟩
    have noNulls := (step_noNull_iff sound noNull respects careful again).mpr text
    exact ⟨Memory.sound_iff.mpr ⟨kept, noNulls⟩, raised⟩

end

/-- What holds of every state before the first operation that is not careful. -/
structure Memory.Consistent (memory : Memory) : Prop where
  sound : memory.NotDangling
  separate : memory.Separate

/-- What holds as long as every string is UTF-8 besides. -/
structure Memory.ConsistentText (memory : Memory) : Prop extends memory.Consistent where
  noNull : memory.NoNull

theorem start_notDangling : Memory.start.NotDangling := by
  refine ⟨rfl, ?_⟩
  rintro id box ⟨self, found, _⟩
  simp [Memory.find, Memory.start] at found

theorem start_separate : Memory.start.Separate := by
  rintro id other box ⟨self, found, _⟩
  simp [Memory.find, Memory.start] at found

theorem start_noNull : Memory.start.NoNull := by
  rintro id ⟨self, found, _⟩
  simp [Memory.find, Memory.start] at found

theorem boxes_freed_once_iff (serde : Serde) (fromAnsi : FromAnsi)
    (trace : List (Operation × Outcome)) (memory : Memory) :
    RunWhere (fun memory operation =>
        Respects memory operation ∧ KeepsBoxes serde fromAnsi memory operation)
      (step serde fromAnsi) .start trace memory ↔
    RunWhere (fun memory operation => Respects memory operation ∧ Careful memory operation)
      (step serde fromAnsi) .start trace memory := by
  have start : Memory.start.Consistent := ⟨start_notDangling, start_separate⟩
  apply RunWhere.congr_of_valid start
  · rintro memory operation next outcome ⟨sound, separate⟩ ⟨respects, keeps⟩ taken
    have careful := (keepsBoxes_iff sound separate respects taken).mp keeps
    exact ⟨(keeps next outcome taken).1, step_separate sound separate respects careful taken⟩
  · intro memory operation next outcome valid taken
    apply and_congr_right
    exact fun respects => keepsBoxes_iff valid.sound valid.separate respects taken

theorem handles_freed_once_iff (serde : Serde) (fromAnsi : FromAnsi)
    (trace : List (Operation × Outcome)) (memory : Memory) :
    RunWhere (fun memory operation =>
        Respects memory operation ∧ Keeps serde fromAnsi memory operation)
      (step serde fromAnsi) .start trace memory ↔
    RunWhere (fun memory operation =>
        Respects memory operation ∧ GivenText operation ∧ Careful memory operation)
      (step serde fromAnsi) .start trace memory := by
  have start : Memory.start.ConsistentText :=
    { sound := start_notDangling, separate := start_separate, noNull := start_noNull }
  apply RunWhere.congr_of_valid start
  · rintro memory operation next outcome ⟨⟨sound, separate⟩, noNull⟩ ⟨respects, keeps⟩ taken
    have careful := ((keeps_iff sound separate noNull respects taken).mp keeps).2
    rcases Memory.sound_iff.mp (keeps next outcome taken).1 with ⟨kept, noNulls⟩
    exact ⟨⟨kept, step_separate sound separate respects careful taken⟩, noNulls⟩
  · intro memory operation next outcome valid taken
    apply and_congr_right
    exact fun respects => keeps_iff valid.sound valid.separate valid.noNull respects taken

/-- No text is read or written here. -/
def mute : Serde where
  from_str := fun _ => .error "EOF while parsing a value at line 1 column 0"
  to_string := fun _ => .ok "null"
  to_string_pretty := fun _ => .ok "null"

/-- A value is pushed to an object. The program catches the exception and frees what it
still owns. -/
theorem push_to_object_frees_twice : ∃ trace memory,
    RunWhere Respects (step mute id) .start trace memory ∧
      trace = [(.NewObject, .created 0), (.NewNull, .created 1), (.Push 0 1, .raised ""),
        (.Free 1, .undefined (.freedAgain 1))] ∧
      ¬ memory.Sound := by
  have idle : ∀ memory, Respects memory .NewObject ∧ Respects memory .NewNull ∧
      Respects memory (.Free 1) := by
    intro memory
    simp [Respects, Operation.uses]
  have pushes : Respects
      { heap := [some (.Object []), some .Null], LAST_ERROR := none
        instances := [some ⟨some 0, true⟩, some ⟨some 1, true⟩], fault := none }
      (.Push 0 1) := by
    intro id member self found
    simp only [Operation.uses, List.mem_cons, List.not_mem_nil, or_false] at member
    rcases member with rfl | rfl
    · cases Option.some.inj found
      rfl
    · cases Option.some.inj found
      rfl
  have first : RunWhere Respects (step mute id) .start ([] ++ [(.NewObject, .created 0)]) _ :=
    .next .start (idle _).1 rfl
  have second : RunWhere Respects (step mute id) .start (_ ++ [(.NewNull, .created 1)]) _ :=
    .next first (idle _).2.1 rfl
  have third : RunWhere Respects (step mute id) .start (_ ++ [(.Push 0 1, .raised "")]) _ :=
    .next second pushes rfl
  have last : RunWhere Respects (step mute id) .start
      (_ ++ [(.Free 1, .undefined (.freedAgain 1))]) _ := .next third (idle _).2.2 rfl
  refine ⟨_, _, last, rfl, fun sound => ?_⟩
  cases sound.defined

end Zpr.Pascal.Json
