import Mathlib.Data.List.Basic

namespace Zpr

/-! # Percent coding

A byte is written as itself, or as a percent sign with two hexadecimal digits. What is
read back does not depend on which bytes were written as themselves, as long as a percent
sign never is. -/

namespace PercentCoding

def percentSign : UInt8 := 37

def hexDigit (digit : Nat) : UInt8 :=
  if digit < 10 then UInt8.ofNat (48 + digit) else UInt8.ofNat (55 + digit)

/-- The value of a digit of either case. -/
def hexValue (b : UInt8) : Option Nat :=
  if 48 ≤ b ∧ b ≤ 57 then some (b.toNat - 48)
  else if 65 ≤ b ∧ b ≤ 70 then some (b.toNat - 55)
  else if 97 ≤ b ∧ b ≤ 102 then some (b.toNat - 87)
  else none

def escape (b : UInt8) : List UInt8 :=
  [percentSign, hexDigit (b.toNat / 16), hexDigit (b.toNat % 16)]

def encodeByte (literal : UInt8 → Prop) [DecidablePred literal] (b : UInt8) : List UInt8 :=
  if literal b then [b] else escape b

def encode (literal : UInt8 → Prop) [DecidablePred literal] (bytes : List UInt8) : List UInt8 :=
  bytes.flatMap (encodeByte literal)

/-- The byte that two digits stand for. -/
def escaped (high low : UInt8) : Option UInt8 :=
  match hexValue high, hexValue low with
  | some high, some low => some (UInt8.ofNat (16 * high + low))
  | _, _ => none

/-- A percent sign with two digits stands for a byte, every other byte for itself. -/
def decode : List UInt8 → List UInt8
  | [] => []
  | [b] => [b]
  | [b, c] => [b, c]
  | b :: high :: low :: rest =>
      if b = percentSign then
        match escaped high low with
        | some byte => byte :: decode rest
        | none => b :: decode (high :: low :: rest)
      else
        b :: decode (high :: low :: rest)

theorem decode_cons_of_ne {b : UInt8} (different : b ≠ percentSign) (rest : List UInt8) :
    decode (b :: rest) = b :: decode rest := by
  match rest with
  | [] => rfl
  | [_] => rfl
  | _ :: _ :: _ => rw [decode, if_neg different]

theorem hexValue_hexDigit {digit : Nat} (small : digit < 16) :
    hexValue (hexDigit digit) = some digit := by
  have all : ∀ d : Fin 16, hexValue (hexDigit d) = some d.val := by decide
  exact all ⟨digit, small⟩

theorem escaped_escape (b : UInt8) :
    escaped (hexDigit (b.toNat / 16)) (hexDigit (b.toNat % 16)) = some b := by
  have bound : b.toNat < 256 := b.toNat_lt
  have high : b.toNat / 16 < 16 := by omega
  have low : b.toNat % 16 < 16 := by omega
  have whole : 16 * (b.toNat / 16) + b.toNat % 16 = b.toNat := by omega
  rw [escaped, hexValue_hexDigit high, hexValue_hexDigit low]
  simp only [whole, UInt8.ofNat_toNat]

theorem decode_escape (b : UInt8) (rest : List UInt8) :
    decode (escape b ++ rest) = b :: decode rest := by
  change decode (percentSign :: hexDigit (b.toNat / 16) :: hexDigit (b.toNat % 16) :: rest) = _
  rw [decode, if_pos rfl, escaped_escape]

section

variable {literal : UInt8 → Prop} [DecidablePred literal]

theorem decode_encodeByte (escapes : ¬ literal percentSign) (b : UInt8) (rest : List UInt8) :
    decode (encodeByte literal b ++ rest) = b :: decode rest := by
  rw [encodeByte]
  by_cases plain : literal b
  · rw [if_pos plain]
    have different : b ≠ percentSign := by
      rintro rfl
      exact escapes plain
    exact decode_cons_of_ne different rest
  · rw [if_neg plain, decode_escape]

theorem decode_encode (escapes : ¬ literal percentSign) (bytes : List UInt8) :
    decode (encode literal bytes) = bytes := by
  induction bytes with
  | nil => rfl
  | cons b rest induction =>
      have split : encode literal (b :: rest) = encodeByte literal b ++ encode literal rest :=
        List.flatMap_cons
      rw [split, decode_encodeByte escapes, induction]

theorem hexDigit_bounds {digit : Nat} (small : digit < 16) :
    48 ≤ hexDigit digit ∧ hexDigit digit ≤ 70 := by
  have all : ∀ d : Fin 16, 48 ≤ hexDigit d ∧ hexDigit d ≤ 70 := by decide
  exact all ⟨digit, small⟩

/-- A property of the literal bytes, the digits and the sign is one of all that is written. -/
theorem encode_all {Holds : UInt8 → Prop} (plain : ∀ b, literal b → Holds b)
    (sign : Holds percentSign) (digit : ∀ d < 16, Holds (hexDigit d)) (bytes : List UInt8) :
    ∀ b ∈ encode literal bytes, Holds b := by
  intro b member
  rcases List.mem_flatMap.mp member with ⟨source, _, written⟩
  rw [encodeByte] at written
  by_cases itself : literal source
  · rw [if_pos itself, List.mem_singleton] at written
    exact plain b (written ▸ itself)
  · rw [if_neg itself] at written
    have bound : source.toNat < 256 := source.toNat_lt
    simp only [escape, List.mem_cons, List.not_mem_nil, or_false] at written
    rcases written with rfl | rfl | rfl
    · exact sign
    · exact digit _ (by omega)
    · exact digit _ (by omega)

end

end PercentCoding

end Zpr
