import Mathlib.Algebra.Group.Nat.Defs
import Mathlib.Data.List.Basic
import Mathlib.Tactic.Cases
import Zpr.Ffi
import Zpr.Foundation.StreamFraming

namespace Zpr.GrpcServer

/-! # Length-prefixed messages

`encode_grpc_frame`, `try_decode_one` and the decode loop of `pump_inbound`.
Lengths are those of a 64-bit platform, where `5 + len` cannot overflow. -/

/-- `u32::to_be_bytes`. -/
def u32_to_be_bytes (value : Nat) : Bytes :=
  [UInt8.ofNat (value / 2 ^ 24), UInt8.ofNat (value / 2 ^ 16),
    UInt8.ofNat (value / 2 ^ 8), UInt8.ofNat value]

/-- `u32::from_be_bytes`. -/
def u32_from_be_bytes (b0 b1 b2 b3 : UInt8) : Nat :=
  2 ^ 24 * b0.toNat + 2 ^ 16 * b1.toNat + 2 ^ 8 * b2.toNat + b3.toNat

/-- The cast `msg.len() as u32` keeps the low 32 bits. -/
def encode_grpc_frame (msg : Bytes) : Bytes :=
  0 :: u32_to_be_bytes (msg.length % 2 ^ 32) ++ msg

/-- The decoded message, and what is left in the buffer. -/
def try_decode_one (buf : Bytes) : Option Bytes × Bytes :=
  match buf with
  | b0 :: b1 :: b2 :: b3 :: b4 :: _ =>
      if b0 ≠ 0 then
        -- `buf.clear()`: compressed messages are not supported
        (none, [])
      else
        let len := u32_from_be_bytes b1 b2 b3 b4
        if buf.length < 5 + len then
          (none, buf)
        else
          (some ((buf.take (5 + len)).drop 5), buf.drop (5 + len))
  | _ => (none, buf)

theorem u32_from_be_bytes_lt (b0 b1 b2 b3 : UInt8) :
    u32_from_be_bytes b0 b1 b2 b3 < 2 ^ 32 := by
  have h0 := b0.toNat_lt
  have h1 := b1.toNat_lt
  have h2 := b2.toNat_lt
  have h3 := b3.toNat_lt
  unfold u32_from_be_bytes
  omega

theorem u32_to_be_bytes_from (b0 b1 b2 b3 : UInt8) :
    u32_to_be_bytes (u32_from_be_bytes b0 b1 b2 b3) = [b0, b1, b2, b3] := by
  have h0 := b0.toNat_lt
  have h1 := b1.toNat_lt
  have h2 := b2.toNat_lt
  have h3 := b3.toNat_lt
  simp only [u32_to_be_bytes, u32_from_be_bytes, List.cons.injEq, and_true]
  refine ⟨?_, ?_, ?_, ?_⟩ <;> apply UInt8.toNat_inj.mp <;> simp only [UInt8.toNat_ofNat'] <;> omega

theorem u32_from_be_bytes_to {value : Nat} (bound : value < 2 ^ 32) :
    u32_from_be_bytes (UInt8.ofNat (value / 2 ^ 24)) (UInt8.ofNat (value / 2 ^ 16))
      (UInt8.ofNat (value / 2 ^ 8)) (UInt8.ofNat value) = value := by
  simp only [u32_from_be_bytes, UInt8.toNat_ofNat']
  omega

@[simp] theorem encode_grpc_frame_length (msg : Bytes) :
    (encode_grpc_frame msg).length = 5 + msg.length := by
  simp [encode_grpc_frame, u32_to_be_bytes]
  omega

theorem try_decode_one_encode {msg : Bytes} (fits : msg.length < 2 ^ 32) (rest : Bytes) :
    try_decode_one (encode_grpc_frame msg ++ rest) = (some msg, rest) := by
  have len := u32_from_be_bytes_to fits
  rw [encode_grpc_frame, Nat.mod_eq_of_lt fits, u32_to_be_bytes]
  generalize UInt8.ofNat (msg.length / 2 ^ 24) = b1 at *
  generalize UInt8.ofNat (msg.length / 2 ^ 16) = b2 at *
  generalize UInt8.ofNat (msg.length / 2 ^ 8) = b3 at *
  generalize UInt8.ofNat msg.length = b4 at *
  simp [try_decode_one, len, Nat.add_comm 5]

theorem try_decode_one_eq_some {buf msg rest : Bytes}
    (decoded : try_decode_one buf = (some msg, rest)) :
    msg.length < 2 ^ 32 ∧ buf = encode_grpc_frame msg ++ rest := by
  unfold try_decode_one at decoded
  split at decoded
  · rename_i b0 b1 b2 b3 b4 payload
    have lenBound := u32_from_be_bytes_lt b1 b2 b3 b4
    have header := u32_to_be_bytes_from b1 b2 b3 b4
    generalize u32_from_be_bytes b1 b2 b3 b4 = len at *
    split_ifs at decoded with flag
    · simp at decoded
    · dsimp only at decoded
      split_ifs at decoded with short
      · simp at decoded
      · have zero : b0 = 0 := by simpa using flag
        have enough : len ≤ payload.length := by
          simp only [List.length_cons] at short
          omega
        simp only [Nat.add_comm 5, List.take_succ_cons, List.drop_succ_cons, List.drop_zero,
          Prod.mk.injEq, Option.some.injEq] at decoded
        rcases decoded with ⟨rfl, rfl⟩
        have msgLength : (payload.take len).length = len := by simp [enough]
        constructor
        · rw [msgLength]
          exact lenBound
        · rw [encode_grpc_frame, msgLength, Nat.mod_eq_of_lt lenBound, header, zero]
          simp
  · simp at decoded

theorem try_decode_one_shorter {buf msg rest : Bytes}
    (decoded : try_decode_one buf = (some msg, rest)) : rest.length < buf.length := by
  rcases try_decode_one_eq_some decoded with ⟨_, rfl⟩
  simp only [List.length_append, encode_grpc_frame_length]
  omega

theorem try_decode_one_length_le {buf rest : Bytes}
    (decoded : try_decode_one buf = (none, rest)) : rest.length ≤ buf.length := by
  unfold try_decode_one at decoded
  split at decoded
  · split_ifs at decoded
    · cases decoded
      exact Nat.zero_le _
    · dsimp only at decoded
      split_ifs at decoded
      · cases decoded
        exact Nat.le_refl _
      · cases decoded
  · cases decoded
    exact Nat.le_refl _

/-- Uncompressed gRPC messages as a framing of the byte stream. -/
def uncompressed : Framing UInt8 Bytes where
  encode := encode_grpc_frame
  Fits msg := msg.length < 2 ^ 32
  next buffer :=
    match try_decode_one buffer with
    | (some msg, rest) => some (msg, rest)
    | (none, _) => none
  encode_ne_nil msg := by simp [encode_grpc_frame]
  next_eq_some_iff := by
    intro buffer msg rest
    constructor
    · intro found
      split at found
      · rename_i decoded
        cases found
        exact try_decode_one_eq_some decoded
      · cases found
    · rintro ⟨fits, rfl⟩
      rw [try_decode_one_encode fits]

/-! ## The decode loop -/

/-- `while let Some(msg) = try_decode_one(&mut buf)`, for a channel that takes
every message: the messages sent, and the buffer the loop ends with. -/
def decode_loop (buf : Bytes) : List Bytes × Bytes :=
  match decoded : try_decode_one buf with
  | (none, rest) => ([], rest)
  | (some msg, rest) =>
      have := try_decode_one_shorter decoded
      let later := decode_loop rest
      (msg :: later.1, later.2)
termination_by buf.length

theorem decode_loop_of_none {buf rest : Bytes} (decoded : try_decode_one buf = (none, rest)) :
    decode_loop buf = ([], rest) := by
  rw [decode_loop]
  split
  · rename_i other
    rw [decoded] at other
    cases other
    rfl
  · rename_i other
    rw [decoded] at other
    cases other

theorem decode_loop_of_some {buf msg rest : Bytes}
    (decoded : try_decode_one buf = (some msg, rest)) :
    decode_loop buf = (msg :: (decode_loop rest).1, (decode_loop rest).2) := by
  rw [decode_loop]
  split
  · rename_i other
    rw [decoded] at other
    cases other
  · rename_i other
    rw [decoded] at other
    cases other
    rfl

/-- The buffer starts with a whole header whose compression flag is set. -/
def CompressedHeader (buf : Bytes) : Prop :=
  5 ≤ buf.length ∧ buf.head? ≠ some 0

instance (buf : Bytes) : Decidable (CompressedHeader buf) :=
  inferInstanceAs (Decidable (_ ∧ _))

/-- What `try_decode_one` leaves of a buffer without a complete message. -/
def cleared (buf : Bytes) : Bytes :=
  if CompressedHeader buf then [] else buf

theorem try_decode_one_of_next_eq_none {buf : Bytes}
    (incomplete : uncompressed.next buf = none) : try_decode_one buf = (none, cleared buf) := by
  have noMessage : (try_decode_one buf).1 = none := by
    cases decoded : try_decode_one buf with
    | mk msg rest =>
        cases msg with
        | none => rfl
        | some msg =>
            have found : uncompressed.next buf = some (msg, rest) := by
              simp [uncompressed, decoded]
            rw [found] at incomplete
            cases incomplete
  unfold try_decode_one at noMessage ⊢
  split at noMessage
  · rename_i b0 b1 b2 b3 b4 payload
    by_cases flag : b0 = 0
    · by_cases short : payload.length + 1 + 1 + 1 + 1 + 1 < 5 + u32_from_be_bytes b1 b2 b3 b4
      · simp [cleared, CompressedHeader, flag, short]
      · simp [flag, short] at noMessage
    · simp [cleared, CompressedHeader, flag]
  · rename_i noHeader
    have short : ¬ 5 ≤ buf.length := by
      intro long
      match buf, long with
      | b0 :: b1 :: b2 :: b3 :: b4 :: payload, _ => exact noHeader b0 b1 b2 b3 b4 payload rfl
    simp only [cleared, CompressedHeader, short, false_and, if_false]

/-- The loop decodes the uncompressed messages at the front of the buffer, and
clears what is left if that is a compressed message's header. -/
theorem decode_loop_eq (buf : Bytes) :
    decode_loop buf = ((uncompressed.decode buf).1, cleared (uncompressed.decode buf).2) := by
  induction buf using decode_loop.induct with
  | case1 buf rest decoded =>
      have incomplete : uncompressed.next buf = none := by simp [uncompressed, decoded]
      have left := try_decode_one_of_next_eq_none incomplete
      rw [uncompressed.decode_of_next_eq_none incomplete, decode_loop_of_none left]
  | case2 buf msg rest decoded _ induction =>
      rcases try_decode_one_eq_some decoded with ⟨fits, equal⟩
      have whole : uncompressed.decode buf =
          (msg :: (uncompressed.decode rest).1, (uncompressed.decode rest).2) := by
        rw [equal]
        exact uncompressed.decode_encode_append fits rest
      rw [decode_loop_of_some decoded, induction, whole]

end Zpr.GrpcServer
