import Mathlib.Data.Finset.Card
import Zpr.Foundation.IdMap

namespace Zpr.IdMap

/-! # How many ids a map holds

The ids under which a map holds values that pass a test form a finite set, which
depends only on what is found under each id. -/

variable {Value : Type u} {Other : Type v}

def idsWhere (test : Value → Bool) (map : IdMap Value) : Finset Nat := (select test map).toFinset

theorem mem_idsWhere {test : Value → Bool} {map : IdMap Value} {id : Nat} :
    id ∈ idsWhere test map ↔ (map.find? id).any test = true := by
  rw [idsWhere, List.mem_toFinset, mem_select, Option.any_eq_true_iff_get]
  cases map.find? id <;> simp

theorem idsWhere_congr {test : Value → Bool} {other : Other → Bool} {map : IdMap Value}
    {map' : IdMap Other} (same : ∀ id, (map.find? id).any test = (map'.find? id).any other) :
    idsWhere test map = idsWhere other map' := by
  ext id
  rw [mem_idsWhere, mem_idsWhere, same]

/-- All ids of a map. -/
def ids (map : IdMap Value) : Finset Nat := idsWhere (fun _ => true) map

theorem mem_ids {map : IdMap Value} {id : Nat} :
    id ∈ ids map ↔ ∃ value, map.find? id = some value := by
  rw [ids, mem_idsWhere]
  cases map.find? id <;> simp

def size (map : IdMap Value) : Nat := map.entries.length

theorem size_eq_card (map : IdMap Value) : size map = (ids map).card := by
  have all : select (fun _ => true) map = map.keys := by
    rw [select, List.filter_true]
    rfl
  rw [ids, idsWhere, all, List.toFinset_card_of_nodup map.keys_nodup]
  exact (List.length_map _).symm

theorem size_congr {map : IdMap Value} {map' : IdMap Other}
    (same : ∀ id, (map.find? id).isSome = (map'.find? id).isSome) : size map = size map' := by
  rw [size_eq_card, size_eq_card]
  apply congrArg
  apply idsWhere_congr
  intro id
  have equal := same id
  generalize map.find? id = found at equal ⊢
  generalize map'.find? id = found' at equal ⊢
  cases found <;> cases found' <;> simp_all

theorem size_insert {map : IdMap Value} {id : Nat} (value : Value) (fresh : map.find? id = none) :
    size (AList.insert id value map) = size map + 1 := by
  have absent : id ∉ ids map := by
    rw [mem_ids, fresh]
    simp
  rw [size_eq_card, size_eq_card, ← Finset.card_insert_of_notMem absent]
  apply congrArg
  ext other
  rw [Finset.mem_insert, mem_ids, mem_ids, find?_insert]
  split <;> simp [*]

end Zpr.IdMap
