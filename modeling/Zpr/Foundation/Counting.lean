import Mathlib.Algebra.Group.Nat.Defs
import Mathlib.Algebra.GroupWithZero.Nat

namespace Zpr

/-! # Counting in a list of which one element changes -/

theorem countP_modify (test : Item → Bool) (change : Item → Item) :
    ∀ (items : List Item) (index : Nat) {item : Item}, items[index]? = some item →
      (items.modify index change).countP test + (if test item then 1 else 0) =
        items.countP test + if test (change item) then 1 else 0
  | [], index, item, known => by cases known
  | first :: items, 0, item, known => by
      cases known
      rw [List.modify_zero_cons, List.countP_cons, List.countP_cons]
      omega
  | first :: items, index + 1, item, known => by
      have rest := countP_modify test change items index known
      rw [List.modify_succ_cons, List.countP_cons, List.countP_cons]
      omega

theorem sum_modify (weight : Item → Nat) (change : Item → Item) :
    ∀ (items : List Item) (index : Nat) {item : Item}, items[index]? = some item →
      ((items.modify index change).map weight).sum + weight item =
        (items.map weight).sum + weight (change item)
  | [], index, item, known => by cases known
  | first :: items, 0, item, known => by
      cases known
      rw [List.modify_zero_cons, List.map_cons, List.map_cons, List.sum_cons, List.sum_cons]
      omega
  | first :: items, index + 1, item, known => by
      have rest := sum_modify weight change items index known
      rw [List.modify_succ_cons, List.map_cons, List.map_cons, List.sum_cons, List.sum_cons]
      omega

end Zpr
