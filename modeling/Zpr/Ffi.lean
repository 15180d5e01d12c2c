import Mathlib.Data.List.Basic

namespace Zpr

abbrev Bytes := List UInt8

namespace Ffi

/-! The C boundary: result codes, caller-owned buffers and strings. A pointer
is modelled by whether it is null; what a call stores through it is part of
its reply, and nothing is stored through a null one. A message that
`set_last_error` stored is part of the reply as well. -/

def ZPR_OK : Int := 0
def ZPR_ERR : Int := -1
def ZPR_ERR_SHORT_BUFFER : Int := -2

inductive Pointer
  | null
  | valid
  deriving DecidableEq, Repr

def Pointer.store (pointer : Pointer) (value : α) : Option α :=
  match pointer with
  | .null => none
  | .valid => some value

/-- The three arguments that describe a caller-owned buffer. -/
structure Buffer where
  out : Pointer
  out_cap : Nat
  out_len : Pointer
  deriving DecidableEq, Repr

/-- What a call that fills a caller-owned buffer leaves behind. `written` is
what now stands at the start of the buffer. -/
structure BufferReply where
  rc : Int
  out_len : Option Nat
  written : Bytes
  last_error : Option String
  deriving DecidableEq, Repr

def copy_into (bytes : Bytes) (buffer : Buffer) : BufferReply :=
  let out_len := buffer.out_len.store bytes.length
  if bytes.length > buffer.out_cap then
    { rc := ZPR_ERR_SHORT_BUFFER, out_len, written := []
      last_error := some s!"buffer too small: need {bytes.length} bytes, got {buffer.out_cap}" }
  else if buffer.out = .null then
    if bytes = [] then
      { rc := ZPR_OK, out_len, written := [], last_error := none }
    else
      { rc := ZPR_ERR, out_len, written := []
        last_error := some "null output buffer passed with a non-zero capacity" }
  else
    { rc := ZPR_OK, out_len, written := bytes, last_error := none }

/-- The three outcomes of `copy_into`: the bytes are there, or nothing is. -/
theorem copy_into_cases (bytes : Bytes) (buffer : Buffer) :
    ((copy_into bytes buffer).rc = ZPR_OK ∧ (copy_into bytes buffer).written = bytes) ∨
      ((copy_into bytes buffer).rc = ZPR_ERR_SHORT_BUFFER ∧
        (copy_into bytes buffer).written = [] ∧ buffer.out_cap < bytes.length) ∨
      ((copy_into bytes buffer).rc = ZPR_ERR ∧ (copy_into bytes buffer).written = [] ∧
        buffer.out = .null ∧ bytes ≠ []) := by
  unfold copy_into
  by_cases short : bytes.length > buffer.out_cap
  · simp [short]
  · by_cases isNull : buffer.out = .null
    · by_cases empty : bytes = []
      · simp [isNull, empty]
      · have fits : ¬ buffer.out_cap < bytes.length := short
        simp [isNull, empty, fits]
    · simp [short, isNull]

/-- The true length is reported whether or not the copy happened. -/
@[simp] theorem copy_into_out_len (bytes : Bytes) (buffer : Buffer) :
    (copy_into bytes buffer).out_len = buffer.out_len.store bytes.length := by
  unfold copy_into
  dsimp only
  split_ifs <;> rfl

theorem copy_into_written_of_ok {bytes : Bytes} {buffer : Buffer}
    (ok : (copy_into bytes buffer).rc = ZPR_OK) : (copy_into bytes buffer).written = bytes := by
  rcases copy_into_cases bytes buffer with ⟨_, written⟩ | ⟨short, _⟩ | ⟨error, _⟩
  · exact written
  · rw [short] at ok
    cases ok
  · rw [error] at ok
    cases ok

/-- A copy stores a message exactly if it fails. -/
theorem copy_into_last_error (bytes : Bytes) (buffer : Buffer) :
    ((copy_into bytes buffer).rc = ZPR_OK ∧ (copy_into bytes buffer).last_error = none) ∨
      ((copy_into bytes buffer).rc < 0 ∧ (copy_into bytes buffer).last_error.isSome) := by
  unfold copy_into
  dsimp only
  split_ifs <;> simp [ZPR_OK, ZPR_ERR, ZPR_ERR_SHORT_BUFFER]

/-- The code of a copy that fails is none that says what has been found. -/
theorem copy_into_failed {bytes : Bytes} {buffer : Buffer} {code : Int}
    (failed : (copy_into bytes buffer).rc ≠ ZPR_OK) (found : 0 ≤ code) :
    (copy_into bytes buffer).rc ≠ code := by
  rcases copy_into_cases bytes buffer with ⟨ok, _⟩ | ⟨short, _⟩ | ⟨error, _⟩
  · exact absurd ok failed
  · rw [short, ZPR_ERR_SHORT_BUFFER]
    omega
  · rw [error, ZPR_ERR]
    omega

/-- A null buffer takes nothing but the empty message. -/
theorem eq_nil_of_copy_into_null {bytes : Bytes} {buffer : Buffer}
    (ok : (copy_into bytes buffer).rc = ZPR_OK) (isNull : buffer.out = .null) : bytes = [] := by
  by_contra nonempty
  by_cases short : bytes.length > buffer.out_cap
  · simp [copy_into, short, ZPR_OK, ZPR_ERR_SHORT_BUFFER] at ok
  · simp [copy_into, short, isNull, nonempty, ZPR_OK, ZPR_ERR] at ok

/-- A NUL-terminated string argument: `none` is the null pointer. -/
def cstr_to_str (ptr : Option Bytes) : Except String String :=
  match ptr with
  | none => .error "null pointer passed for a required string argument"
  | some bytes =>
      match String.fromUTF8? ⟨bytes.toArray⟩ with
      | some text => .ok text
      | none => .error "argument is not valid UTF-8"

/-- The bytes of a C string that holds `text`. -/
def cstr (text : String) : Bytes := text.toByteArray.data.toList

theorem fromUTF8_cstr (text : String) : String.fromUTF8? ⟨(cstr text).toArray⟩ = some text := by
  have valid : ByteArray.IsValidUTF8 ⟨(cstr text).toArray⟩ := by
    rw [cstr, Array.toArray_toList]
    exact text.isValidUTF8
  rw [String.fromUTF8?, dif_pos valid]
  rfl

/-- Only the bytes of a text are read as it. -/
theorem fromUTF8_iff {bytes : Bytes} {text : String} :
    String.fromUTF8? ⟨bytes.toArray⟩ = some text ↔ bytes = cstr text := by
  constructor
  · intro read
    rw [String.fromUTF8?] at read
    by_cases valid : ByteArray.IsValidUTF8 ⟨bytes.toArray⟩
    · rw [dif_pos valid] at read
      cases Option.some.inj read
      rfl
    · rw [dif_neg valid] at read
      cases read
  · rintro rfl
    exact fromUTF8_cstr text

theorem cstr_to_str_cstr (text : String) : cstr_to_str (some (cstr text)) = .ok text := by
  rw [cstr_to_str]
  simp only [fromUTF8_cstr]

theorem cstr_ne_nil {text : String} (nonempty : text ≠ "") : cstr text ≠ [] := by
  intro empty
  have same := fromUTF8_cstr text
  rw [empty] at same
  exact nonempty (Option.some.inj (same.symm.trans (fromUTF8_cstr "")))

theorem cstr_inj {s t : String} (same : cstr s = cstr t) : s = t := by
  have read := fromUTF8_cstr s
  rw [same, fromUTF8_cstr t] at read
  exact (Option.some.inj read).symm

theorem cstr_ofList (chars : List Char) :
    cstr (String.ofList chars) = chars.flatMap String.utf8EncodeChar := by
  rw [cstr, String.toByteArray_ofList, List.utf8Encode]
  simp

theorem zero_ne_ofNat {n : Nat} (positive : 0 < n) (small : n < 256) :
    (0 : UInt8) ≠ UInt8.ofNat n := by
  intro zero
  have same := congrArg UInt8.toNat zero
  rw [UInt8.toNat_ofNat', Nat.mod_eq_of_lt small] at same
  exact Nat.ne_of_lt positive same

/-- Only NUL has a zero byte in its encoding. -/
theorem zero_mem_utf8EncodeChar {c : Char} : 0 ∈ String.utf8EncodeChar c ↔ c = '\x00' := by
  constructor
  · intro member
    unfold String.utf8EncodeChar at member
    dsimp only at member
    split at member
    · rename_i ascii
      have same := congrArg UInt8.toNat (List.mem_singleton.mp member)
      rw [UInt8.toNat_ofNat', Nat.mod_eq_of_lt (by omega)] at same
      exact Char.toNat_inj.mp same.symm
    · -- every byte of the longer encodings has its high bit set
      split at member
      · simp only [List.mem_cons, List.not_mem_nil, or_false] at member
        rcases member with zero | zero <;>
          exact absurd zero (zero_ne_ofNat (by omega) (by omega))
      · split at member
        · simp only [List.mem_cons, List.not_mem_nil, or_false] at member
          rcases member with zero | zero | zero <;>
            exact absurd zero (zero_ne_ofNat (by omega) (by omega))
        · simp only [List.mem_cons, List.not_mem_nil, or_false] at member
          rcases member with zero | zero | zero | zero <;>
            exact absurd zero (zero_ne_ofNat (by omega) (by omega))
  · rintro rfl
    decide

theorem zero_mem_cstr {text : String} : 0 ∈ cstr text ↔ '\x00' ∈ text.toList := by
  rw [← String.ofList_toList (s := text), cstr_ofList, List.mem_flatMap, String.toList_ofList]
  constructor
  · rintro ⟨c, member, zero⟩
    exact zero_mem_utf8EncodeChar.mp zero ▸ member
  · intro member
    exact ⟨'\x00', member, zero_mem_utf8EncodeChar.mpr rfl⟩

/-- The text that a C string holds which was made of some text. -/
def string_to_cstring_ptr (s : String) : String := String.ofList (s.toList.filter (· ≠ '\x00'))

theorem string_to_cstring_ptr_eq {s : String} (noNul : '\x00' ∉ s.toList) :
    string_to_cstring_ptr s = s := by
  rw [string_to_cstring_ptr, List.filter_eq_self.mpr, String.ofList_toList]
  intro c member
  simp only [ne_eq, decide_eq_true_eq]
  exact fun same => noNul (same ▸ member)

theorem nul_not_mem_string_to_cstring_ptr (s : String) :
    '\x00' ∉ (string_to_cstring_ptr s).toList := by
  rw [string_to_cstring_ptr, String.toList_ofList]
  simp

end Ffi

end Zpr
