import Mathlib.Data.List.AList

namespace Zpr

/-! # Finite maps from ids

A map holds at most one value for an id and has no order that anyone relies on. -/

abbrev IdMap (Value : Type u) := AList fun _ : Nat => Value

namespace IdMap

def find? (map : IdMap Value) (id : Nat) : Option Value := AList.lookup id map

@[simp] theorem find?_empty (id : Nat) : find? (∅ : IdMap Value) id = none := rfl

theorem find?_insert (map : IdMap Value) (id other : Nat) (value : Value) :
    find? (AList.insert id value map) other = if other = id then some value else find? map other := by
  by_cases same : other = id
  · subst same
    simp [find?, AList.lookup_insert]
  · simp [find?, AList.lookup_insert_ne, same]

theorem find?_erase (map : IdMap Value) (id other : Nat) :
    find? (AList.erase id map) other = if other = id then none else find? map other := by
  by_cases same : other = id
  · subst same
    simp [find?, AList.lookup_erase]
  · simp [find?, AList.lookup_erase_ne, same]

theorem mem_keys {map : IdMap Value} {id : Nat} :
    id ∈ map.keys ↔ ∃ value, map.find? id = some value := by
  rw [← AList.mem_keys, ← AList.lookup_isSome, Option.isSome_iff_exists]
  rfl

theorem find?_of_mem_entries {map : IdMap Value} (member : entry ∈ map.entries) :
    map.find? entry.1 = some entry.2 :=
  AList.mem_lookup_iff.mpr member

/-- The ids of the values that pass a test. -/
def select (test : Value → Bool) (map : IdMap Value) : List Nat :=
  (map.entries.filter fun entry => test entry.2).map Sigma.fst

theorem mem_select {test : Value → Bool} {map : IdMap Value} {id : Nat} :
    id ∈ select test map ↔ ∃ value, map.find? id = some value ∧ test value = true := by
  simp only [select, List.mem_map, List.mem_filter]
  constructor
  · intro found
    rcases found with ⟨⟨key, value⟩, ⟨member, passes⟩, rfl⟩
    exact ⟨value, AList.mem_lookup_iff.mpr member, passes⟩
  · intro found
    rcases found with ⟨value, held, passes⟩
    exact ⟨⟨id, value⟩, ⟨AList.mem_lookup_iff.mp held, passes⟩, rfl⟩

/-- Take ids out of one map and put what they held, wrapped, into another. -/
def transfer (wrap : Value → Wrapped) :
    List Nat → IdMap Value → IdMap Wrapped → IdMap Value × IdMap Wrapped
  | [], source, target => (source, target)
  | id :: ids, source, target =>
      match source.find? id with
      | some value => transfer wrap ids (source.erase id) (target.insert id (wrap value))
      | none => transfer wrap ids source target

theorem find?_transfer_source (wrap : Value → Wrapped) (ids : List Nat) (source : IdMap Value)
    (target : IdMap Wrapped) (id : Nat) :
    (transfer wrap ids source target).1.find? id = if id ∈ ids then none else source.find? id := by
  induction ids generalizing source target with
  | nil => simp [transfer]
  | cons first ids induction =>
      by_cases same : id = first
      · subst same
        cases held : source.find? id with
        | some value => simp [transfer, held, induction, find?_erase]
        | none => simp [transfer, held, induction]
      · cases held : source.find? first with
        | some value => simp [transfer, held, induction, find?_erase, same]
        | none => simp [transfer, held, induction, same]

theorem find?_transfer_target (wrap : Value → Wrapped) (ids : List Nat) (source : IdMap Value)
    (target : IdMap Wrapped) (id : Nat) :
    (transfer wrap ids source target).2.find? id =
      if id ∈ ids then ((source.find? id).map wrap).or (target.find? id)
      else target.find? id := by
  induction ids generalizing source target with
  | nil => simp [transfer]
  | cons first ids induction =>
      by_cases same : id = first
      · subst same
        cases held : source.find? id with
        | some value => simp [transfer, held, induction, find?_erase, find?_insert]
        | none => simp [transfer, held, induction]
      · cases held : source.find? first with
        | some value => simp [transfer, held, induction, find?_erase, find?_insert, same]
        | none => simp [transfer, held, induction, same]

end IdMap

end Zpr
