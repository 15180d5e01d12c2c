import Zpr.Foundation.PercentCoding
import Zpr.GrpcServer.OutboundBody

namespace Zpr.GrpcServer

open Ffi PercentCoding

/-! # Status messages

A message is percent coded on its way into the trailers. -/

/-- The bytes that `percent_encode_grpc_message` leaves as they are. -/
def LiteralByte (b : UInt8) : Prop := (0x20 ≤ b ∧ b ≤ 0x24) ∨ (0x26 ≤ b ∧ b ≤ 0x7e)

instance : DecidablePred LiteralByte :=
  fun b => inferInstanceAs (Decidable ((0x20 ≤ b ∧ b ≤ 0x24) ∨ (0x26 ≤ b ∧ b ≤ 0x7e)))

theorem percentSign_not_literal : ¬ LiteralByte percentSign := by decide

theorem as_bytes_ofList (chars : List Char) :
    as_bytes (String.ofList chars) = chars.flatMap String.utf8EncodeChar := by
  rw [as_bytes_eq_cstr, cstr_ofList]

theorem as_bytes_inj {s t : String} (same : as_bytes s = as_bytes t) : s = t := by
  rw [as_bytes_eq_cstr, as_bytes_eq_cstr] at same
  exact cstr_inj same

/-- An ASCII character is one byte. -/
theorem utf8EncodeChar_ofNat {n : Nat} (ascii : n < 128) :
    String.utf8EncodeChar (Char.ofNat n) = [UInt8.ofNat n] := by
  have all : ∀ d : Fin 128, String.utf8EncodeChar (Char.ofNat d) = [UInt8.ofNat d] := by decide
  exact all ⟨n, ascii⟩

theorem utf8EncodeChar_upperHexDigit {digit : Nat} (small : digit < 16) :
    String.utf8EncodeChar (upperHexDigit digit) = [hexDigit digit] := by
  rw [upperHexDigit, hexDigit]
  split
  · exact utf8EncodeChar_ofNat (by omega)
  · exact utf8EncodeChar_ofNat (by omega)

theorem percent_encode_byte_eq (b : UInt8) :
    percent_encode_byte b =
      if LiteralByte b then [Char.ofNat b.toNat]
      else ['%', upperHexDigit (b.toNat / 16), upperHexDigit (b.toNat % 16)] := rfl

theorem percent_encode_byte_bytes (b : UInt8) :
    (percent_encode_byte b).flatMap String.utf8EncodeChar = encodeByte LiteralByte b := by
  have bound : b.toNat < 256 := b.toNat_lt
  rw [percent_encode_byte_eq, encodeByte]
  by_cases plain : LiteralByte b
  · have ascii : b.toNat < 128 := by
      rcases plain with ⟨_, upper⟩ | ⟨_, upper⟩
      · have limit : b.toNat ≤ 36 := UInt8.le_iff_toNat_le.mp upper
        omega
      · have limit : b.toNat ≤ 126 := UInt8.le_iff_toNat_le.mp upper
        omega
    rw [if_pos plain, if_pos plain, List.flatMap_singleton, utf8EncodeChar_ofNat ascii,
      UInt8.ofNat_toNat]
  · have sign : String.utf8EncodeChar '%' = [percentSign] := by decide
    have high := utf8EncodeChar_upperHexDigit (show b.toNat / 16 < 16 by omega)
    have low := utf8EncodeChar_upperHexDigit (show b.toNat % 16 < 16 by omega)
    rw [if_neg plain, if_neg plain]
    simp only [List.flatMap_cons, List.flatMap_nil, sign, high, low, escape]
    rfl

/-- The bytes of the encoded text are the percent coding of the bytes of the text. -/
theorem percent_encode_grpc_message_bytes (s : String) :
    as_bytes (percent_encode_grpc_message s) = encode LiteralByte (as_bytes s) := by
  rw [percent_encode_grpc_message, as_bytes_ofList, List.flatMap_assoc, encode]
  congr 1
  funext b
  exact percent_encode_byte_bytes b

theorem percent_encode_grpc_message_printable (s : String) :
    ∀ b ∈ as_bytes (percent_encode_grpc_message s), 0x20 ≤ b ∧ b ≤ 0x7e := by
  rw [percent_encode_grpc_message_bytes]
  apply encode_all
  · intro b plain
    rcases plain with ⟨lower, upper⟩ | ⟨lower, upper⟩
    · exact ⟨lower, UInt8.le_trans upper (by decide)⟩
    · exact ⟨UInt8.le_trans (by decide) lower, upper⟩
  · decide
  · intro digit small
    rcases hexDigit_bounds small with ⟨lower, upper⟩
    exact ⟨UInt8.le_trans (by decide) lower, UInt8.le_trans upper (by decide)⟩

theorem decode_percent_encode_grpc_message (s : String) :
    decode (as_bytes (percent_encode_grpc_message s)) = as_bytes s := by
  rw [percent_encode_grpc_message_bytes]
  exact decode_encode percentSign_not_literal (as_bytes s)

theorem percent_encode_grpc_message_inj {s t : String}
    (same : percent_encode_grpc_message s = percent_encode_grpc_message t) : s = t := by
  have decoded := decode_percent_encode_grpc_message s
  rw [same, decode_percent_encode_grpc_message t] at decoded
  exact as_bytes_inj decoded.symm

/-- A message that is not empty is never dropped. -/
theorem trailersBy_message {from_str : String → Option String} (documented : HeaderValues from_str)
    (status : Int) {s : String} (nonempty : s ≠ "") :
    trailersBy from_str status s =
      [("grpc-status", toString status), ("grpc-message", percent_encode_grpc_message s)] := by
  rw [trailersBy, if_neg nonempty, documented _ (percent_encode_grpc_message_printable s)]

theorem trailers_message (status : Int) {s : String} (nonempty : s ≠ "") :
    trailers status s =
      [("grpc-status", toString status), ("grpc-message", percent_encode_grpc_message s)] :=
  trailersBy_message headerValues_header_value_from_str status nonempty

/-- What is documented of the constructor of header values settles the trailers. -/
theorem trailersBy_eq {from_str : String → Option String} (documented : HeaderValues from_str)
    (status : Int) (message : String) : trailersBy from_str status message =
      trailers status message := by
  by_cases empty : message = ""
  · rw [trailers, trailersBy, trailersBy, if_pos empty, if_pos empty]
  · rw [trailers_message status empty, trailersBy_message documented status empty]

/-- A status message survives the trailers. -/
theorem status_message_survives (status : Int) (s : String) :
    (∀ b ∈ as_bytes (percent_encode_grpc_message s), 0x20 ≤ b ∧ b ≤ 0x7e) ∧
      (s ≠ "" → ("grpc-message", percent_encode_grpc_message s) ∈ trailers status s) ∧
      (∀ from_str, HeaderValues from_str → trailersBy from_str status s = trailers status s) ∧
      decode (as_bytes (percent_encode_grpc_message s)) = as_bytes s ∧
      ∀ t, percent_encode_grpc_message s = percent_encode_grpc_message t → s = t := by
  constructor
  · exact percent_encode_grpc_message_printable s
  constructor
  · intro nonempty
    rw [trailers_message status nonempty]
    exact List.mem_cons_of_mem _ (List.mem_singleton_self _)
  constructor
  · intro from_str documented
    exact trailersBy_eq documented status s
  constructor
  · exact decode_percent_encode_grpc_message s
  · intro t same
    exact percent_encode_grpc_message_inj same

end Zpr.GrpcServer
