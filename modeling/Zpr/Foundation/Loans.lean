import Zpr.Foundation.IdMap

namespace Zpr

/-! # Memory that changes hands

A vector that is given away is forgotten by its owner, and the memory stays allocated until
somebody takes it back. Whoever does has to name its address and its capacity. -/

/-- What a vector holds, and the room that has been allocated for it. -/
structure Vec (Item : Type u) where
  items : List Item
  capacity : Nat
  fits : items.length ≤ capacity

/-- A vector with no room to spare. -/
def Vec.exact (items : List Item) : Vec Item where
  items := items
  capacity := items.length
  fits := Nat.le_refl _

/-- The vector with other items at its start. -/
def Vec.overwritten (vec : Vec Item) (items : List Item)
    (within : items.length ≤ vec.items.length) : Vec Item where
  items := items ++ vec.items.drop items.length
  capacity := vec.capacity
  fits := by
    have fits := vec.fits
    rw [List.length_append, List.length_drop]
    omega

/-- The first items, in the same memory. -/
def Vec.shortened (vec : Vec Item) (length : Nat) : Vec Item where
  items := vec.items.take length
  capacity := vec.capacity
  fits := by
    have fits := vec.fits
    rw [List.length_take]
    omega

inductive Address
  | null
  /-- the address of a vector that has no memory -/
  | dangling
  | block (id : Nat)
  deriving DecidableEq, Repr

def Address.blocks : Address → List Nat
  | .block id => [id]
  | _ => []

/-- The memory that has been given away, by the block. No block is given away twice. -/
structure Loans (Item : Type u) where
  next : Nat
  lent : IdMap (Vec Item)
  drawn : ∀ id ∈ lent.keys, id < next

namespace Loans

variable {Item : Type u}

def empty : Loans Item where
  next := 0
  lent := ∅
  drawn := fun _ member => absurd member List.not_mem_nil

theorem drawn_insert (loans : Loans Item) (vec : Vec Item) :
    ∀ id ∈ (loans.lent.insert loans.next vec).keys, id < loans.next + 1 := by
  intro id member
  rw [AList.keys_insert] at member
  rcases List.mem_cons.mp member with rfl | before
  · exact Nat.lt_succ_self _
  · exact Nat.lt_succ_of_lt (loans.drawn id (List.mem_of_mem_erase before))

/-- Forget a vector. One without memory stays where it is. -/
def lend (loans : Loans Item) (vec : Vec Item) : Address × Loans Item :=
  if vec.capacity = 0 then (.dangling, loans)
  else
    (.block loans.next,
      { next := loans.next + 1
        lent := loans.lent.insert loans.next vec
        drawn := loans.drawn_insert vec })

/-- The first items at an address, if there are so many. -/
def look (loans : Loans Item) (address : Address) (length : Nat) : Option (List Item) :=
  match address with
  | .block id =>
      (loans.lent.find? id).bind fun vec =>
        if length ≤ vec.items.length then some (vec.items.take length) else none
  | _ => if length = 0 then some [] else none

theorem drawn_replace (loans : Loans Item) {id : Nat} {old : Vec Item}
    (found : loans.lent.find? id = some old) (new : Vec Item) :
    ∀ other ∈ (loans.lent.insert id new).keys, other < loans.next := by
  intro other member
  rw [AList.keys_insert] at member
  rcases List.mem_cons.mp member with rfl | before
  · exact loans.drawn _ (IdMap.mem_keys.mpr ⟨old, found⟩)
  · exact loans.drawn other (List.mem_of_mem_erase before)

/-- Copy items to an address, if there are as many to overwrite. -/
def overwrite (loans : Loans Item) (address : Address) (items : List Item) :
    Option (Loans Item) :=
  match address with
  | .block id =>
      match found : loans.lent.find? id with
      | none => none
      | some vec =>
          if within : items.length ≤ vec.items.length then
            some { loans with
              lent := loans.lent.insert id (vec.overwritten items within)
              drawn := loans.drawn_replace found _ }
          else none
  | _ => if items = [] then some loans else none

theorem drawn_erase (loans : Loans Item) (id : Nat) :
    ∀ other ∈ (loans.lent.erase id).keys, other < loans.next := by
  intro other member
  rw [AList.keys_erase] at member
  exact loans.drawn other (List.mem_of_mem_erase member)

/-- Make a vector again of an address, a length and a capacity. `none` is what must not be
done: there is no such block, or it has another capacity or fewer items. -/
def reclaim (loans : Loans Item) (address : Address) (length capacity : Nat) :
    Option (Vec Item × Loans Item) :=
  match address with
  | .null => none
  | .dangling => if length = 0 ∧ capacity = 0 then some (.exact [], loans) else none
  | .block id =>
      (loans.lent.find? id).bind fun vec =>
        if length ≤ vec.items.length ∧ capacity = vec.capacity then
          some (vec.shortened length,
            { loans with
              lent := loans.lent.erase id
              drawn := loans.drawn_erase id })
        else none

/-! ## What one loan needs -/

/-- Items of this number are at the address, and they can be taken back with the capacity. -/
def Honours (loans : Loans Item) (address : Address) (items : List Item) (capacity : Nat) : Prop :=
  match address with
  | .null => False
  | .dangling => items = [] ∧ capacity = 0
  | .block id => ∃ vec, loans.lent.find? id = some vec ∧ vec.items = items ∧ vec.capacity = capacity

/-- The other blocks are as they were. -/
def SameOutside (address : Address) (before after : Loans Item) : Prop :=
  ∀ id, id ∉ address.blocks → after.lent.find? id = before.lent.find? id

theorem Honours.elsewhere {loans after : Loans Item} {address : Address}
    (honours : loans.Honours address items capacity)
    (same : ∀ id ∈ address.blocks, after.lent.find? id = loans.lent.find? id) :
    after.Honours address items capacity := by
  cases address with
  | null => exact honours
  | dangling => exact honours
  | block id =>
      rcases honours with ⟨vec, found, holds⟩
      exact ⟨vec, (same id (List.mem_singleton_self id)).trans found, holds⟩

/-! ## What the operations do -/

theorem honours_lend (loans : Loans Item) (vec : Vec Item) :
    (loans.lend vec).2.Honours (loans.lend vec).1 vec.items vec.capacity := by
  unfold lend
  split
  · rename_i none
    have fits := vec.fits
    exact ⟨List.length_eq_zero_iff.mp (by omega), none⟩
  · exact ⟨vec, by rw [IdMap.find?_insert, if_pos rfl], rfl, rfl⟩

/-- A block that is given away is none of those that have been. -/
theorem find?_lend {loans : Loans Item} (vec : Vec Item) {id : Nat}
    (before : id ∈ loans.lent.keys) :
    (loans.lend vec).2.lent.find? id = loans.lent.find? id := by
  unfold lend
  split
  · rfl
  · have different : id ≠ loans.next := Nat.ne_of_lt (loans.drawn id before)
    rw [IdMap.find?_insert, if_neg different]

theorem keys_lend (loans : Loans Item) (vec : Vec Item) :
    ((loans.lend vec).1.blocks ++ loans.lent.keys).Perm (loans.lend vec).2.lent.keys := by
  unfold lend
  split
  · exact List.Perm.refl _
  · have absent : loans.next ∉ loans.lent.keys := fun member =>
      Nat.lt_irrefl _ (loans.drawn _ member)
    simp only [AList.keys_insert, List.erase_of_not_mem absent]
    exact List.Perm.refl _

theorem look_of_honours {loans : Loans Item} (honours : loans.Honours address items capacity) :
    loans.look address items.length = some items := by
  cases address with
  | null => exact honours.elim
  | dangling =>
      rcases honours with ⟨rfl, _⟩
      rfl
  | block id =>
      rcases honours with ⟨vec, found, rfl, _⟩
      simp [look, found]

/-- A loan that is honoured can be taken back, by its capacity and with what it holds. -/
theorem reclaim_of_honours {loans : Loans Item} (honours : loans.Honours address items capacity) :
    ∃ vec rest, loans.reclaim address items.length capacity = some (vec, rest) ∧
      vec.items = items ∧ SameOutside address loans rest ∧
      (address.blocks ++ rest.lent.keys).Perm loans.lent.keys := by
  cases address with
  | null => exact honours.elim
  | dangling =>
      rcases honours with ⟨rfl, rfl⟩
      exact ⟨_, loans, rfl, rfl, fun _ _ => rfl, List.Perm.refl _⟩
  | block id =>
      rcases honours with ⟨vec, found, rfl, rfl⟩
      have member : id ∈ loans.lent.keys := IdMap.mem_keys.mpr ⟨vec, found⟩
      simp only [reclaim, found, Option.bind_some, Nat.le_refl, true_and, if_true,
        Option.some.injEq, Prod.mk.injEq]
      refine ⟨_, _, ⟨rfl, rfl⟩, ?_, ?_, ?_⟩
      · exact List.take_length
      · intro other outside
        have different : other ≠ id := fun same => outside (List.mem_singleton.mpr same)
        rw [IdMap.find?_erase, if_neg different]
      · rw [AList.keys_erase]
        exact (List.perm_cons_erase member).symm

theorem overwrite_block {loans : Loans Item} {id : Nat} {vec : Vec Item} {items : List Item}
    (found : loans.lent.find? id = some vec) (within : items.length ≤ vec.items.length) :
    loans.overwrite (.block id) items = some { loans with
      lent := loans.lent.insert id (vec.overwritten items within)
      drawn := loans.drawn_replace found _ } := by
  simp only [overwrite]
  split
  · rename_i none
    rw [found] at none
    cases none
  · rename_i other same
    cases found.symm.trans same
    rw [dif_pos within]

/-- A block that is overwritten from end to end holds the new items. -/
theorem overwrite_of_honours {loans : Loans Item} {new : List Item}
    (honours : loans.Honours address items capacity) (whole : new.length = items.length) :
    ∃ after, loans.overwrite address new = some after ∧ after.Honours address new capacity ∧
      SameOutside address loans after ∧ after.lent.keys.Perm loans.lent.keys := by
  cases address with
  | null => exact honours.elim
  | dangling =>
      rcases honours with ⟨rfl, rfl⟩
      cases List.length_eq_zero_iff.mp whole
      exact ⟨loans, rfl, ⟨rfl, rfl⟩, fun _ _ => rfl, List.Perm.refl _⟩
  | block id =>
      rcases honours with ⟨vec, found, rfl, rfl⟩
      have within : new.length ≤ vec.items.length := Nat.le_of_eq whole
      have member : id ∈ loans.lent.keys := IdMap.mem_keys.mpr ⟨vec, found⟩
      refine ⟨_, overwrite_block found within, ?_, ?_, ?_⟩
      · refine ⟨vec.overwritten new within, by rw [IdMap.find?_insert, if_pos rfl], ?_, rfl⟩
        show new ++ vec.items.drop new.length = new
        rw [whole, List.drop_length, List.append_nil]
      · intro other outside
        have different : other ≠ id := fun same => outside (List.mem_singleton.mpr same)
        rw [IdMap.find?_insert, if_neg different]
      · rw [AList.keys_insert]
        exact (List.perm_cons_erase member).symm

/-! ## Who holds what -/

section

variable {Party : Type v} (holds : Party → List Nat)

/-- Every block that has been given away is held by one party, and every block that a
party holds has been given away. -/
def Custody (loans : Loans Item) (parties : List Party) : Prop :=
  (parties.flatMap holds).Perm loans.lent.keys

variable {holds}

/-- What the parties hold together, seen from one of them. -/
theorem flatMap_set_perm (holds : Party → List Nat) {parties : List Party} {index : Nat}
    (at_ : parties[index]? = some party) :
    ∃ others : List Nat, (parties.flatMap holds).Perm (holds party ++ others) ∧
      ∀ after, ((parties.set index after).flatMap holds).Perm (holds after ++ others) := by
  induction parties generalizing index with
  | nil => cases at_
  | cons first parties induction =>
      cases index with
      | zero =>
          cases at_
          exact ⟨parties.flatMap holds, List.Perm.refl _, fun after => List.Perm.refl _⟩
      | succ index =>
          rcases induction at_ with ⟨others, before, replaced⟩
          refine ⟨holds first ++ others, ?_, fun after => ?_⟩
          · exact (before.append_left (holds first)).trans (List.perm_append_comm_assoc ..)
          · exact ((replaced after).append_left (holds first)).trans
              (List.perm_append_comm_assoc ..)

/-- What two parties hold are different blocks. -/
theorem Custody.apart {loans : Loans Item} {parties : List Party} {index other : Nat}
    (custody : Custody holds loans parties) (at_ : parties[index]? = some party)
    (there : parties[other]? = some another) (different : index ≠ other) {id : Nat}
    (held : id ∈ holds party) : id ∉ holds another := by
  intro heldToo
  have distinct : (parties.flatMap holds).Nodup := custody.nodup_iff.mpr loans.lent.nodupKeys
  rw [List.nodup_flatMap] at distinct
  rcases List.getElem?_eq_some_iff.mp at_ with ⟨bound, rfl⟩
  rcases List.getElem?_eq_some_iff.mp there with ⟨boundToo, rfl⟩
  rcases Nat.lt_or_gt_of_ne different with before | behind
  · exact List.pairwise_iff_getElem.mp distinct.2 index other bound boundToo before held heldToo
  · exact List.pairwise_iff_getElem.mp distinct.2 other index boundToo bound behind heldToo held

/-- A party that holds less, and what has been taken back, are together as much as one that
holds more, and what has been given away before. -/
theorem Custody.update {loans after : Loans Item} {parties : List Party} {index : Nat}
    {next : Party} (custody : Custody holds loans parties) (at_ : parties[index]? = some party)
    (balanced : (holds party ++ after.lent.keys).Perm (holds next ++ loans.lent.keys)) :
    Custody holds after (parties.set index next) := by
  rcases flatMap_set_perm holds at_ with ⟨others, before, replaced⟩
  have whole := balanced.trans ((custody.symm.trans before).append_left (holds next))
  have moved := whole.trans (List.perm_append_comm_assoc (holds next) (holds party) others)
  exact (replaced next).trans ((List.perm_append_left_iff _).mp moved).symm

theorem Custody.mem_keys {loans : Loans Item} {parties : List Party} {index id : Nat}
    (custody : Custody holds loans parties) (at_ : parties[index]? = some party)
    (held : id ∈ holds party) : id ∈ loans.lent.keys :=
  custody.mem_iff.mp (List.mem_flatMap.mpr ⟨party, List.mem_of_getElem? at_, held⟩)

theorem Custody.nodup {loans : Loans Item} {parties : List Party} {index : Nat}
    (custody : Custody holds loans parties) (at_ : parties[index]? = some party) :
    (holds party).Nodup := by
  have distinct : (parties.flatMap holds).Nodup := custody.nodup_iff.mpr loans.lent.nodupKeys
  exact (List.nodup_flatMap.mp distinct).1 party (List.mem_of_getElem? at_)

end

end Loans

end Zpr
