import Mathlib.Data.List.Basic
import Mathlib.Data.List.Infix

namespace Zpr

/-! # Self-delimiting frames on a symbol stream

A framing writes items as self-delimiting frames and reads the first complete
frame of a buffer back. Decoding a buffer takes frames off its front until no
complete one is left; the results depend on the symbols only, never on how
they arrived. -/

structure Framing (Symbol : Type u) (Item : Type v) where
  encode : Item → List Symbol
  /-- The items that the frame format can carry. -/
  Fits : Item → Prop
  next : List Symbol → Option (Item × List Symbol)
  encode_ne_nil : ∀ item, encode item ≠ []
  next_eq_some_iff : ∀ {buffer item rest}, next buffer = some (item, rest) ↔
    Fits item ∧ buffer = encode item ++ rest

namespace Framing

variable {Symbol : Type u} {Item : Type v} (framing : Framing Symbol Item)

/-- The symbols of a list of frames, one after the other. -/
def encodeAll (items : List Item) : List Symbol :=
  items.flatMap framing.encode

@[simp] theorem encodeAll_nil : framing.encodeAll [] = [] := rfl

@[simp] theorem encodeAll_cons (item : Item) (items : List Item) :
    framing.encodeAll (item :: items) = framing.encode item ++ framing.encodeAll items := rfl

@[simp] theorem encodeAll_append (left right : List Item) :
    framing.encodeAll (left ++ right) = framing.encodeAll left ++ framing.encodeAll right :=
  List.flatMap_append

theorem next_shorter {buffer : List Symbol} {item : Item} {rest : List Symbol}
    (found : framing.next buffer = some (item, rest)) : rest.length < buffer.length := by
  rcases framing.next_eq_some_iff.mp found with ⟨_, rfl⟩
  have positive := List.length_pos_of_ne_nil (framing.encode_ne_nil item)
  simp only [List.length_append]
  omega

theorem next_encode {item : Item} (fits : framing.Fits item) (rest : List Symbol) :
    framing.next (framing.encode item ++ rest) = some (item, rest) :=
  framing.next_eq_some_iff.mpr ⟨fits, rfl⟩

/-- Where no frame comes next there is none at all. -/
theorem eq_nil_of_next_eq_none {items : List Item} {rest : List Symbol}
    (fit : ∀ item ∈ items, framing.Fits item)
    (incomplete : framing.next (framing.encodeAll items ++ rest) = none) : items = [] := by
  cases items with
  | nil => rfl
  | cons item items =>
      rw [encodeAll_cons, List.append_assoc, framing.next_encode (fit item List.mem_cons_self)]
        at incomplete
      cases incomplete

theorem next_nil : framing.next [] = none := by
  cases found : framing.next [] with
  | none => rfl
  | some frame => simpa using framing.next_shorter found

/-- Cutting symbols off the end never completes a frame. -/
theorem next_eq_none_of_isPrefix {part whole : List Symbol} (isPrefix : part <+: whole)
    (incomplete : framing.next whole = none) : framing.next part = none := by
  rcases isPrefix with ⟨more, rfl⟩
  cases found : framing.next part with
  | none => rfl
  | some frame =>
      rcases framing.next_eq_some_iff.mp found with ⟨fits, rfl⟩
      rw [List.append_assoc, framing.next_encode fits] at incomplete
      cases incomplete

theorem next_eq_none_of_strictPrefix {item : Item} {part : List Symbol}
    (fits : framing.Fits item) (isPrefix : part <+: framing.encode item)
    (strict : part ≠ framing.encode item) : framing.next part = none := by
  cases found : framing.next part with
  | none => rfl
  | some frame =>
      rcases framing.next_eq_some_iff.mp found with ⟨otherFits, rfl⟩
      rcases isPrefix with ⟨more, equal⟩
      have whole := framing.next_encode fits []
      rw [List.append_nil, ← equal, List.append_assoc, framing.next_encode otherFits] at whole
      simp only [Option.some.injEq, Prod.mk.injEq, List.append_eq_nil_iff] at whole
      rcases whole with ⟨_, _, rfl⟩
      exact absurd (by simpa using equal) strict

/-- Take complete frames off the front of a buffer until none is left. -/
def decode (buffer : List Symbol) : List Item × List Symbol :=
  match found : framing.next buffer with
  | none => ([], buffer)
  | some (item, rest) =>
      have := framing.next_shorter found
      let later := decode rest
      (item :: later.1, later.2)
termination_by buffer.length

theorem decode_of_next_eq_none {buffer : List Symbol} (incomplete : framing.next buffer = none) :
    framing.decode buffer = ([], buffer) := by
  rw [decode]
  split
  · rfl
  · rename_i found
    rw [incomplete] at found
    cases found

theorem decode_encode_append {item : Item} (fits : framing.Fits item) (rest : List Symbol) :
    framing.decode (framing.encode item ++ rest) =
      (item :: (framing.decode rest).1, (framing.decode rest).2) := by
  have whole := framing.next_encode fits rest
  rw [decode]
  split
  · rename_i incomplete
    rw [whole] at incomplete
    cases incomplete
  · rename_i found
    rw [whole] at found
    cases found
    rfl

theorem decode_encodeAll_append {items : List Item} (fit : ∀ item ∈ items, framing.Fits item)
    (rest : List Symbol) :
    framing.decode (framing.encodeAll items ++ rest) =
      (items ++ (framing.decode rest).1, (framing.decode rest).2) := by
  induction items with
  | nil => rfl
  | cons item items induction =>
      have headFits := fit item List.mem_cons_self
      have tailFit : ∀ later ∈ items, framing.Fits later :=
        fun later member => fit later (List.mem_cons_of_mem item member)
      rw [encodeAll_cons, List.append_assoc, framing.decode_encode_append headFits,
        induction tailFit]
      rfl

/-- Decoding recovers the one way to read the buffer as complete frames
followed by a part that holds no complete frame. -/
theorem decode_eq_iff {buffer : List Symbol} {items : List Item} {rest : List Symbol} :
    framing.decode buffer = (items, rest) ↔
      (∀ item ∈ items, framing.Fits item) ∧ buffer = framing.encodeAll items ++ rest ∧
        framing.next rest = none := by
  constructor
  · induction buffer using Framing.decode.induct framing generalizing items rest with
    | case1 buffer incomplete =>
        intro decoded
        rw [framing.decode_of_next_eq_none incomplete] at decoded
        cases decoded
        exact ⟨by simp, by simp, incomplete⟩
    | case2 buffer item later found _ induction =>
        intro decoded
        rcases framing.next_eq_some_iff.mp found with ⟨fits, rfl⟩
        rw [framing.decode_encode_append fits] at decoded
        cases decoded
        rcases induction rfl with ⟨laterFit, laterEqual, incomplete⟩
        refine ⟨?_, ?_, incomplete⟩
        · intro other member
          rcases List.mem_cons.mp member with rfl | member
          · exact fits
          · exact laterFit other member
        · rw [encodeAll_cons, List.append_assoc, ← laterEqual]
  · rintro ⟨fit, rfl, incomplete⟩
    rw [framing.decode_encodeAll_append fit, framing.decode_of_next_eq_none incomplete]
    simp

theorem decode_spec (buffer : List Symbol) :
    (∀ item ∈ (framing.decode buffer).1, framing.Fits item) ∧
      buffer = framing.encodeAll (framing.decode buffer).1 ++ (framing.decode buffer).2 ∧
      framing.next (framing.decode buffer).2 = none :=
  framing.decode_eq_iff.mp rfl

/-- Decoding in two instalments is decoding at once: what the first left over
is all that the second needs to know. -/
theorem decode_append (buffer more : List Symbol) :
    framing.decode (buffer ++ more) =
      ((framing.decode buffer).1 ++ (framing.decode ((framing.decode buffer).2 ++ more)).1,
        (framing.decode ((framing.decode buffer).2 ++ more)).2) := by
  rcases framing.decode_spec buffer with ⟨fit, equal, _⟩
  conv_lhs => rw [equal, List.append_assoc]
  exact framing.decode_encodeAll_append fit _

/-- A part of a stream that starts with frames either holds all of these, or
ends inside one of them. -/
theorem decode_part_cases {items : List Item} {part more rest : List Symbol}
    (fit : ∀ item ∈ items, framing.Fits item)
    (equal : part ++ more = framing.encodeAll items ++ rest) :
    (∃ extra, part = framing.encodeAll items ++ extra ∧ extra ++ more = rest) ∨
      ∃ decoded item later left, items = decoded ++ item :: later ∧
        framing.decode part = (decoded, left) ∧ part = framing.encodeAll decoded ++ left ∧
        left <+: framing.encode item ∧ left ≠ framing.encode item := by
  induction items generalizing part with
  | nil => exact .inl ⟨part, rfl, equal⟩
  | cons item items induction =>
      have headFits := fit item List.mem_cons_self
      have tailFit : ∀ later ∈ items, framing.Fits later :=
        fun later member => fit later (List.mem_cons_of_mem item member)
      rw [encodeAll_cons, List.append_assoc] at equal
      by_cases arrived : (framing.encode item).length ≤ part.length
      · have headPrefix : framing.encode item <+: part :=
          List.prefix_of_prefix_length_le (List.prefix_append _ _)
            (equal ▸ List.prefix_append part more) arrived
        rcases headPrefix with ⟨others, rfl⟩
        rw [List.append_assoc] at equal
        rcases induction tailFit (List.append_cancel_left equal) with
          ⟨extra, split, remaining⟩ | ⟨decoded, other, later, left, split, result, whole, ending⟩
        · exact .inl ⟨extra, by rw [split, encodeAll_cons, List.append_assoc], remaining⟩
        · refine .inr ⟨item :: decoded, other, later, left, by simp [split], ?_, ?_, ending⟩
          · rw [framing.decode_encode_append headFits, result]
          · rw [encodeAll_cons, List.append_assoc, ← whole]
      · have partPrefix : part <+: framing.encode item :=
          List.prefix_of_prefix_length_le (equal ▸ List.prefix_append part more)
            (List.prefix_append _ _) (by omega)
        have strict : part ≠ framing.encode item := by
          rintro rfl
          exact arrived (Nat.le_refl _)
        have incomplete := framing.next_eq_none_of_strictPrefix headFits partPrefix strict
        exact .inr ⟨[], item, items, part, rfl, framing.decode_of_next_eq_none incomplete,
          rfl, partPrefix, strict⟩

/-- While a stream of frames comes in, an item has been decoded exactly when
all the symbols up to the end of its frame are there. -/
theorem take_prefix_decode_iff {items : List Item} {tail part : List Symbol}
    (fit : ∀ item ∈ items, framing.Fits item) (incomplete : framing.next tail = none)
    (isPrefix : part <+: framing.encodeAll items ++ tail) {count : Nat}
    (bound : count ≤ items.length) :
    count ≤ (framing.decode part).1.length ↔
      (framing.encodeAll (items.take count)).length ≤ part.length := by
  rcases framing.decode_spec part with ⟨_, partEqual, _⟩
  rcases isPrefix with ⟨more, equal⟩
  have decodedPrefix : (framing.decode part).1 <+: items := by
    have whole : framing.decode (part ++ more) = (items, tail) :=
      framing.decode_eq_iff.mpr ⟨fit, equal, incomplete⟩
    rw [framing.decode_append] at whole
    exact ⟨_, congrArg Prod.fst whole⟩
  constructor
  · intro decoded
    have taken : items.take count <+: (framing.decode part).1 :=
      List.prefix_of_prefix_length_le (List.take_prefix _ _) decodedPrefix
        (by simpa [Nat.min_eq_left bound] using decoded)
    rcases taken with ⟨others, split⟩
    rw [partEqual, ← split, encodeAll_append]
    simp only [List.length_append]
    omega
  · intro arrived
    have takenWhole : framing.encodeAll (items.take count) <+:
        framing.encodeAll items ++ tail := by
      refine ⟨framing.encodeAll (items.drop count) ++ tail, ?_⟩
      rw [← List.append_assoc, ← encodeAll_append, List.take_append_drop]
    have takenPrefix : framing.encodeAll (items.take count) <+: part :=
      List.prefix_of_prefix_length_le takenWhole ⟨more, equal⟩ arrived
    rcases takenPrefix with ⟨others, split⟩
    have takenFit : ∀ item ∈ items.take count, framing.Fits item :=
      fun item member => fit item (List.mem_of_mem_take member)
    rw [← split, framing.decode_encodeAll_append takenFit]
    simp only [List.length_append, List.length_take]
    omega

end Framing

end Zpr
