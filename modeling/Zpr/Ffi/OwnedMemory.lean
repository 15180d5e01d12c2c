import Zpr.Ffi
import Zpr.Foundation.Loans

namespace Zpr.Ffi

/-! # Memory that crosses the boundary

The library's allocator is not the host's. What the library hands over it takes back itself,
and what the host is to hand over it has allocated by the library. -/

abbrev Memory := Loans UInt8

/-- A Rust-owned byte buffer handed to the caller. -/
structure ZprBuffer where
  data : Address
  len : Nat
  cap : Nat
  deriving DecidableEq, Repr

def ZprBuffer.empty : ZprBuffer where
  data := .null
  len := 0
  cap := 0

def ZprBuffer.from_vec (memory : Memory) (v : Vec UInt8) : ZprBuffer × Memory :=
  let (data, memory) := memory.lend v
  ({ data, len := v.items.length, cap := v.capacity }, memory)

/-- `none` is a call that must not be made. -/
def zpr_buffer_free (memory : Memory) (buf : ZprBuffer) : Option Memory :=
  if buf.data = .null then some memory
  else (memory.reclaim buf.data buf.len buf.cap).map Prod.snd

def zpr_alloc (memory : Memory) (len : Nat) : Address × Memory :=
  memory.lend (.exact (List.replicate len 0))

/-- `CString::into_raw` of the text without its NULs, in a box of its own size -/
def cstring_into_raw (memory : Memory) (s : String) : Address × Memory :=
  memory.lend (.exact (cstr (string_to_cstring_ptr s) ++ [0]))

/-- The bytes before the first NUL at an address. -/
def cstr_from_ptr (memory : Memory) (ptr : Address) : Option Bytes :=
  match ptr with
  | .block id =>
      (memory.lent.find? id).bind fun vec =>
        if 0 ∈ vec.items then some (vec.items.takeWhile (· ≠ 0)) else none
  | _ => none

/-- `CString::from_raw` finds the size of the box by looking for the NUL. -/
def zpr_string_free (memory : Memory) (s : Address) : Option Memory :=
  if s = .null then some memory
  else
    (cstr_from_ptr memory s).bind fun text =>
      (memory.reclaim s (text.length + 1) (text.length + 1)).map Prod.snd

/-! ## What the host holds -/

/-- The buffer is empty, or it can be freed and holds these bytes. -/
def ZprBuffer.Holds (memory : Memory) (buf : ZprBuffer) (bytes : Bytes) : Prop :=
  (buf = .empty ∧ bytes = []) ∨
    (memory.Honours buf.data bytes buf.cap ∧ buf.len = bytes.length)

/-- The string is null, or it can be freed and is this text. -/
def StringHolds (memory : Memory) (ptr : Address) (text : Bytes) : Prop :=
  (ptr = .null ∧ text = []) ∨
    (memory.Honours ptr (text ++ [0]) (text.length + 1) ∧ 0 ∉ text)

theorem ZprBuffer.holds_from_vec (memory : Memory) (v : Vec UInt8) :
    (from_vec memory v).1.Holds (from_vec memory v).2 v.items :=
  .inr ⟨memory.honours_lend v, rfl⟩

theorem zero_not_mem_string_to_cstring_ptr (s : String) :
    (0 : UInt8) ∉ cstr (string_to_cstring_ptr s) := fun zero =>
  nul_not_mem_string_to_cstring_ptr s (zero_mem_cstr.mp zero)

theorem stringHolds_into_raw (memory : Memory) (s : String) :
    StringHolds (cstring_into_raw memory s).2 (cstring_into_raw memory s).1
      (cstr (string_to_cstring_ptr s)) := by
  refine .inr ⟨?_, zero_not_mem_string_to_cstring_ptr s⟩
  rw [← List.length_singleton (a := (0 : UInt8)), ← List.length_append]
  exact memory.honours_lend (.exact (cstr (string_to_cstring_ptr s) ++ [0]))

theorem ZprBuffer.Holds.elsewhere {memory after : Memory} {buf : ZprBuffer}
    (holds : buf.Holds memory bytes)
    (same : ∀ id ∈ buf.data.blocks, after.lent.find? id = memory.lent.find? id) :
    buf.Holds after bytes :=
  holds.imp_right fun held => ⟨held.1.elsewhere same, held.2⟩

theorem StringHolds.elsewhere {memory after : Memory} {ptr : Address}
    (holds : StringHolds memory ptr text)
    (same : ∀ id ∈ ptr.blocks, after.lent.find? id = memory.lent.find? id) :
    StringHolds after ptr text :=
  holds.imp_right fun held => ⟨held.1.elsewhere same, held.2⟩

/-- A buffer that the host holds is freed, and the block of its bytes with it. -/
theorem zpr_buffer_free_of_holds {memory : Memory} {buf : ZprBuffer}
    (holds : buf.Holds memory bytes) :
    ∃ rest, zpr_buffer_free memory buf = some rest ∧ Loans.SameOutside buf.data memory rest ∧
      (buf.data.blocks ++ rest.lent.keys).Perm memory.lent.keys := by
  rcases holds with ⟨rfl, _⟩ | ⟨honours, len⟩
  · exact ⟨memory, rfl, fun _ _ => rfl, List.Perm.refl _⟩
  · rcases memory.reclaim_of_honours honours with ⟨vec, rest, reclaimed, _, same, keys⟩
    have notNull : buf.data ≠ .null := by
      intro isNull
      rw [isNull] at honours
      exact honours
    refine ⟨rest, ?_, same, keys⟩
    rw [zpr_buffer_free, if_neg notNull, len, reclaimed]
    rfl

theorem cstr_from_ptr_of_honours {memory : Memory}
    (honours : memory.Honours ptr (text ++ [0]) capacity) (noNul : 0 ∉ text) :
    cstr_from_ptr memory ptr = some text := by
  cases ptr with
  | null => exact honours.elim
  | dangling =>
      rcases honours with ⟨empty, _⟩
      simp at empty
  | block id =>
      rcases honours with ⟨vec, found, items, _⟩
      have nonzero : ∀ byte ∈ text, (byte ≠ 0 : Bool) = true := by
        intro byte member
        rw [decide_eq_true_eq]
        rintro rfl
        exact noNul member
      have whole : (text ++ [0]).takeWhile (· ≠ 0) = text := by
        rw [List.takeWhile_append_of_pos nonzero]
        simp
      have ends : (0 : UInt8) ∈ text ++ [0] := List.mem_append_right _ (List.mem_singleton_self _)
      rw [cstr_from_ptr, found, Option.bind_some, items, if_pos ends, whole]

/-- A string that the host holds is freed by the size that it was allocated with. -/
theorem zpr_string_free_of_holds {memory : Memory} (holds : StringHolds memory ptr text) :
    ∃ rest, zpr_string_free memory ptr = some rest ∧ Loans.SameOutside ptr memory rest ∧
      (ptr.blocks ++ rest.lent.keys).Perm memory.lent.keys := by
  rcases holds with ⟨rfl, _⟩ | ⟨honours, noNul⟩
  · exact ⟨memory, rfl, fun _ _ => rfl, List.Perm.refl _⟩
  · rcases memory.reclaim_of_honours honours with ⟨vec, rest, reclaimed, _, same, keys⟩
    have notNull : ptr ≠ .null := by
      rintro rfl
      exact honours
    rw [List.length_append, List.length_singleton] at reclaimed
    refine ⟨rest, ?_, same, keys⟩
    rw [zpr_string_free, if_neg notNull, cstr_from_ptr_of_honours honours noNul,
      Option.bind_some, reclaimed]
    rfl

end Zpr.Ffi
