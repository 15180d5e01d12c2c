import Zpr.Ffi

namespace Zpr.Pascal

open Ffi

/-! # A dynamic array of bytes as an output buffer

An array has a length of its own, and `SetLength` fills what it adds with zeros. -/

abbrev TBytes := List UInt8

def SetLength (A : TBytes) (NewLength : Nat) : TBytes :=
  A.take NewLength ++ List.replicate (NewLength - A.length) 0

/-- nil for the empty array -/
def BytesPtr (B : TBytes) : Pointer :=
  if B.length = 0 then .null else .valid

/-- `BytesPtr(B), Length(B), Len`, where `Len` is an `out` parameter. -/
def outBuffer (B : TBytes) : Buffer where
  out := BytesPtr B
  out_cap := B.length
  out_len := .valid

/-- The bytes at `BytesPtr(B)`, of which there are `Length(B)`. -/
def bytesAt (B : TBytes) : Option Bytes :=
  match BytesPtr B with
  | .null => none
  | .valid => some B

@[simp] theorem getD_bytesAt (B : TBytes) : (bytesAt B).getD [] = B := by
  cases B with
  | nil => rfl
  | cons b B => rfl

/-- The array after a call has written to the start of it. -/
def overwrite (B written : TBytes) : TBytes := written ++ B.drop written.length

@[simp] theorem length_SetLength (A : TBytes) (NewLength : Nat) :
    (SetLength A NewLength).length = NewLength := by
  rw [SetLength, List.length_append, List.length_take, List.length_replicate]
  omega

/-- Cut to the length of what was written, the array is what was written. -/
theorem SetLength_overwrite (B written : TBytes) :
    SetLength (overwrite B written) written.length = written := by
  have within : written.length - (overwrite B written).length = 0 := by
    rw [overwrite, List.length_append]
    omega
  rw [SetLength, within, List.replicate_zero, List.append_nil, overwrite, List.take_left']
  rfl

theorem copy_into_outBuffer_of_le {bytes : Bytes} {B : TBytes} (fits : bytes.length ≤ B.length) :
    copy_into bytes (outBuffer B) =
      { rc := ZPR_OK, out_len := some bytes.length, written := bytes, last_error := none } := by
  have notShort : ¬ bytes.length > B.length := by omega
  by_cases empty : B.length = 0
  · have noBytes : bytes = [] := List.length_eq_zero_iff.mp (by omega)
    simp [copy_into, outBuffer, BytesPtr, empty, noBytes, Pointer.store]
  · simp [copy_into, outBuffer, BytesPtr, empty, notShort, Pointer.store]

theorem copy_into_outBuffer_of_lt {bytes : Bytes} {B : TBytes} (short : B.length < bytes.length) :
    (copy_into bytes (outBuffer B)).rc = ZPR_ERR_SHORT_BUFFER ∧
      (copy_into bytes (outBuffer B)).out_len = some bytes.length := by
  have isShort : bytes.length > B.length := short
  simp [copy_into, outBuffer, isShort, Pointer.store]

end Zpr.Pascal
