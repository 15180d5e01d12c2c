import Mathlib.Data.List.Infix

namespace Zpr

/-! # The segments of a list

A separator cuts a list into segments, of which there is always one more than there are
separators. Whether the segments of one list end those of another is a matter of what
stands before it. -/

namespace Segments

variable {Symbol : Type u} {separator : Symbol}

/-- Two rows of segments are joined by one separator. -/
theorem intercalate_append {left right : List (List Symbol)} (leftSome : left ≠ [])
    (rightSome : right ≠ []) :
    [separator].intercalate (left ++ right) =
      [separator].intercalate left ++ separator :: [separator].intercalate right := by
  induction left with
  | nil => exact absurd rfl leftSome
  | cons first others induction =>
      cases others with
      | nil =>
          rw [List.singleton_append, List.intercalate_cons_of_ne_nil rightSome,
            List.intercalate_singleton, List.append_assoc, List.singleton_append]
      | cons second others =>
          have rest := induction (List.cons_ne_nil second others)
          rw [List.cons_append] at rest
          rw [List.cons_append, List.cons_append, List.intercalate_cons_cons,
            List.intercalate_cons_cons, rest]
          simp only [List.append_assoc]

variable [BEq Symbol] [LawfulBEq Symbol]

theorem splitOn_suffix_iff {part whole : List Symbol} :
    part.splitOn separator <:+ whole.splitOn separator ↔
      whole = part ∨ separator :: part <:+ whole := by
  constructor
  · intro ends
    rcases ends with ⟨before, equal⟩
    have joined := congrArg [separator].intercalate equal
    rw [List.intercalate_splitOn] at joined
    by_cases same : before = []
    · rw [same, List.nil_append, List.intercalate_splitOn] at joined
      exact .inl joined.symm
    · rw [intercalate_append same (List.splitOn_ne_nil separator part),
        List.intercalate_splitOn] at joined
      exact .inr ⟨_, joined⟩
  · intro ends
    rcases ends with same | ⟨before, behind⟩
    · rw [same]
    · rw [← behind, List.splitOn_append_cons_self]
      exact List.suffix_append _ _

/-- What begins inside a segment is not made of whole segments. -/
theorem not_splitOn_suffix_of_inside {before part : List Symbol} (something : before ≠ [])
    (inside : before.getLast? ≠ some separator) :
    ¬ part.splitOn separator <:+ (before ++ part).splitOn separator := by
  rw [splitOn_suffix_iff]
  intro ends
  rcases ends with same | ⟨front, behind⟩
  · exact something (List.append_left_eq_self.mp same)
  · have cut : front ++ [separator] = before := by
      apply List.append_left_injective part
      change front ++ [separator] ++ part = before ++ part
      rw [List.append_assoc, List.singleton_append]
      exact behind
    rw [← cut, List.getLast?_concat] at inside
    exact inside rfl

end Segments

end Zpr
