import Mathlib.Data.List.Basic

namespace Zpr

/-! # Maps with several values for a name

A value that is inserted under a name replaces every value that is there. A row of
insertions leaves the last value of each name. The order of the entries means nothing. -/

abbrev MultiMap (Name : Type u) (Value : Type v) := List (Name × Value)

namespace MultiMap

variable {Name : Type u} {Value : Type v} [DecidableEq Name] {map : MultiMap Name Value}
  {entry : Name × Value} {entries : List (Name × Value)}

def insert (map : MultiMap Name Value) (name : Name) (value : Value) : MultiMap Name Value :=
  map.filter (fun entry => entry.1 ≠ name) ++ [(name, value)]

def insertAll (map : MultiMap Name Value) : List (Name × Value) → MultiMap Name Value
  | [] => map
  | entry :: entries => insertAll (map.insert entry.1 entry.2) entries

theorem mem_insert {name : Name} {value : Value} :
    entry ∈ map.insert name value ↔ entry = (name, value) ∨ entry ∈ map ∧ entry.1 ≠ name := by
  rw [insert, List.mem_append, List.mem_filter, List.mem_singleton, decide_eq_true_eq, or_comm]

/-- What is not named again stays as it is. -/
theorem mem_insertAll_of_unnamed (unnamed : entry.1 ∉ entries.map Prod.fst) :
    entry ∈ map.insertAll entries ↔ entry ∈ map := by
  induction entries generalizing map with
  | nil => rfl
  | cons first entries induction =>
      rw [List.map_cons, List.mem_cons, not_or] at unnamed
      rw [insertAll, induction unnamed.2, mem_insert]
      constructor
      · intro held
        rcases held with same | kept
        · exact absurd (congrArg Prod.fst same) unnamed.1
        · exact kept.1
      · intro held
        exact .inr ⟨held, unnamed.1⟩

theorem mem_or_mem_of_mem_insertAll (held : entry ∈ map.insertAll entries) :
    entry ∈ entries ∨ entry ∈ map := by
  induction entries generalizing map with
  | nil => exact .inr held
  | cons first entries induction =>
      rcases induction held with later | now
      · exact .inl (List.mem_cons_of_mem first later)
      · rcases mem_insert.mp now with same | kept
        · exact .inl (same ▸ List.mem_cons_self)
        · exact .inr kept.1

/-- A name that has been inserted has a value, and it has just one. -/
theorem existsUnique_of_named (map : MultiMap Name Value) {name : Name}
    (named : name ∈ entries.map Prod.fst) :
    ∃ value, (name, value) ∈ entries ∧
      ∀ other, (name, other) ∈ map.insertAll entries ↔ other = value := by
  induction entries generalizing map with
  | nil => cases named
  | cons first entries induction =>
      by_cases later : name ∈ entries.map Prod.fst
      · rcases induction (map.insert first.1 first.2) later with ⟨value, member, exactly⟩
        exact ⟨value, List.mem_cons_of_mem first member, exactly⟩
      · have same : name = first.1 := by
          rw [List.map_cons, List.mem_cons] at named
          exact named.resolve_right later
        refine ⟨first.2, same ▸ List.mem_cons_self, fun other => ?_⟩
        rw [insertAll, mem_insertAll_of_unnamed later, mem_insert]
        constructor
        · intro held
          rcases held with equal | kept
          · exact congrArg Prod.snd equal
          · exact absurd same kept.2
        · intro equal
          exact .inl (Prod.ext same equal)

/-- No insertion is lost exactly if no two of them disagree. -/
theorem all_mem_insertAll_iff :
    (∀ entry ∈ entries, entry ∈ map.insertAll entries) ↔
      ∀ name first second, (name, first) ∈ entries → (name, second) ∈ entries →
        first = second := by
  constructor
  · intro kept name first second firstMember secondMember
    have named : name ∈ entries.map Prod.fst := List.mem_map_of_mem firstMember
    rcases existsUnique_of_named map named with ⟨value, _, exactly⟩
    rw [(exactly first).mp (kept _ firstMember), (exactly second).mp (kept _ secondMember)]
  · intro agree entry member
    have named : entry.1 ∈ entries.map Prod.fst := List.mem_map_of_mem member
    rcases existsUnique_of_named map named with ⟨value, valueMember, exactly⟩
    exact (exactly entry.2).mpr (agree entry.1 entry.2 value member valueMember)

end MultiMap

end Zpr
