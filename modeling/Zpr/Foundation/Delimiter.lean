import Mathlib.Data.List.Basic
import Mathlib.Data.List.Infix

namespace Zpr

/-! # Where a delimiter ends

The first occurrence of a mark in a stream of symbols. A part of the stream that reaches to
its end shows it as the whole stream does. -/

namespace Delimiter

variable {Symbol : Type u} {mark symbols more : List Symbol}

/-- The first occurrence of `mark` ends after `stop` symbols. -/
structure EndsAt (mark symbols : List Symbol) (stop : Nat) : Prop where
  within : stop ≤ symbols.length
  marked : mark <:+ symbols.take stop
  first : ∀ earlier < stop, ¬ mark <:+ symbols.take earlier

theorem EndsAt.le_stop {stop : Nat} (ends : EndsAt mark symbols stop) : mark.length ≤ stop := by
  have bound := ends.marked.length_le
  rw [List.length_take] at bound
  omega

theorem EndsAt.unique {first second : Nat} (ends : EndsAt mark symbols first)
    (again : EndsAt mark symbols second) : first = second := by
  rcases Nat.lt_trichotomy first second with less | same | more
  · exact absurd ends.marked (again.first first less)
  · exact same
  · exact absurd again.marked (ends.first second more)

theorem EndsAt.append {stop : Nat} (ends : EndsAt mark symbols stop) :
    EndsAt mark (symbols ++ more) stop := by
  have same : ∀ upto ≤ stop, (symbols ++ more).take upto = symbols.take upto := by
    intro upto bound
    exact List.take_append_of_le_length (Nat.le_trans bound ends.within)
  constructor
  · rw [List.length_append]
    exact Nat.le_trans ends.within (Nat.le_add_right _ _)
  · rw [same stop (Nat.le_refl stop)]
    exact ends.marked
  · intro earlier less
    rw [same earlier (Nat.le_of_lt less)]
    exact ends.first earlier less

theorem EndsAt.of_append {stop : Nat} (ends : EndsAt mark (symbols ++ more) stop)
    (within : stop ≤ symbols.length) : EndsAt mark symbols stop := by
  have same : ∀ upto ≤ stop, (symbols ++ more).take upto = symbols.take upto := by
    intro upto bound
    exact List.take_append_of_le_length (Nat.le_trans bound within)
  constructor
  · exact within
  · rw [← same stop (Nat.le_refl stop)]
    exact ends.marked
  · intro earlier less
    rw [← same earlier (Nat.le_of_lt less)]
    exact ends.first earlier less

/-- The mark begins at `pos` exactly if it ends as far behind as it is long. -/
theorem begins_iff {pos : Nat} (within : pos ≤ symbols.length) :
    (symbols.drop pos).take mark.length = mark ↔
      pos + mark.length ≤ symbols.length ∧ mark <:+ symbols.take (pos + mark.length) := by
  constructor
  · intro begins
    have length := congrArg List.length begins
    rw [List.length_take, List.length_drop] at length
    constructor
    · omega
    · rw [List.take_add, begins]
      exact List.suffix_append _ _
  · rintro ⟨bound, before, whole⟩
    have length := congrArg List.length whole
    rw [List.length_append, List.length_take] at length
    have position : before.length = pos := by omega
    have rest := congrArg (List.drop pos) whole
    rw [← position, List.drop_left, position, List.drop_take] at rest
    rw [Nat.add_sub_cancel_left] at rest
    exact rest.symm

section

variable [DecidableEq Symbol]

/-- Where the mark begins first. -/
def find (mark symbols : List Symbol) : Option Nat :=
  symbols.tails.findIdx? fun tail => tail.take mark.length == mark

theorem find_eq_some_iff {pos : Nat} :
    find mark symbols = some pos ↔ EndsAt mark symbols (pos + mark.length) := by
  rw [find, List.findIdx?_eq_some_iff_getElem]
  simp only [List.getElem_tails, List.length_tails, beq_iff_eq]
  constructor
  · rintro ⟨inside, begins, first⟩
    rcases (begins_iff (Nat.le_of_lt_succ inside)).mp begins with ⟨within, marked⟩
    refine ⟨within, marked, ?_⟩
    intro earlier less marked
    have bound := marked.length_le
    rw [List.length_take] at bound
    have split : earlier = (earlier - mark.length) + mark.length := by omega
    rw [split] at marked
    have before : earlier - mark.length < pos := by omega
    apply first (earlier - mark.length) before
    exact (begins_iff (by omega)).mpr ⟨by omega, marked⟩
  · intro ends
    have within := ends.within
    refine ⟨by omega, (begins_iff (by omega)).mpr ⟨within, ends.marked⟩, ?_⟩
    intro earlier before begins
    have marked := ((begins_iff (by omega)).mp begins).2
    exact ends.first (earlier + mark.length) (by omega) marked

theorem find_eq_none_iff : find mark symbols = none ↔ ∀ stop, ¬ EndsAt mark symbols stop := by
  constructor
  · intro missing stop ends
    have split : stop = (stop - mark.length) + mark.length := by
      have := ends.le_stop
      omega
    rw [split, ← find_eq_some_iff, missing] at ends
    cases ends
  · intro never
    cases found : find mark symbols with
    | none => rfl
    | some pos => exact absurd (find_eq_some_iff.mp found) (never _)

end

end Delimiter

end Zpr
