import Zpr.Foundation.MachineWord
import Zpr.GrpcServer.PumpInbound

namespace Zpr.GrpcServer

/-! # Decoding frames on a given platform

`try_decode_one` adds the header's five bytes to the length that the peer has sent, in a
`usize`. The platform decides how many bits that has and what happens when they do not
suffice. A panic is `none`. -/

/-- The platforms that the library is built for: those of armeabi-v7a have 32 bits. -/
inductive Usize
  | bits32
  | bits64
  deriving DecidableEq, Repr

def Usize.bits : Usize → Nat
  | .bits32 => 32
  | .bits64 => 64

structure Platform where
  usize : Usize
  overflow : Overflow
  /-- the capacity of what `split_to` cuts off, by its length -/
  capacity : Nat → Nat
  room : ∀ length, length ≤ capacity length

/-- `BytesMut::split_to`: what is cut off, and what stays. -/
def split_to (buf : Bytes) (count : Nat) : Option (Bytes × Bytes) :=
  if count ≤ buf.length then some (buf.take count, buf.drop count) else none

/-- `BytesMut::split_off`: what stays, and what is cut off. Only the capacity limits it. -/
def split_off (capacity : Nat) (buf : Bytes) (count : Nat) : Option (Bytes × Bytes) :=
  if count ≤ capacity then some (buf.take count, buf.drop count) else none

/-- The length that a header says its message has. -/
def lengthField : Bytes → Option Nat
  | _ :: b1 :: b2 :: b3 :: b4 :: _ => some (u32_from_be_bytes b1 b2 b3 b4)
  | _ => none

/-- What decoding is to make of a buffer: it is kept or cleared, or a message of the length
that its header says is taken off its front. -/
inductive Decoded (buf : Bytes) : Option (Option Bytes × Bytes) → Prop
  | kept : Decoded buf (some (none, buf))
  | cleared : Decoded buf (some (none, []))
  | message {msg rest : Bytes} : lengthField buf = some msg.length →
      buf.drop 5 = msg ++ rest → Decoded buf (some (some msg, rest))

/-- The header of a frame says the length of its message, as far as 32 bits can. -/
theorem lengthField_encode (msg rest : Bytes) :
    lengthField (encode_grpc_frame msg ++ rest) = some (msg.length % 2 ^ 32) := by
  have read := u32_from_be_bytes_to (Nat.mod_lt msg.length (Nat.two_pow_pos 32))
  exact congrArg some read

/-- Where five and the length add up, decoding does what it should. -/
theorem decoded_try_decode_one (buf : Bytes) : Decoded buf (some (try_decode_one buf)) := by
  cases decoded : try_decode_one buf with
  | mk msg rest =>
      cases msg with
      | some msg =>
          rcases try_decode_one_eq_some decoded with ⟨fits, equal⟩
          apply Decoded.message
          · rw [equal, lengthField_encode, Nat.mod_eq_of_lt fits]
          · rw [equal]
            rfl
      | none =>
          have incomplete : uncompressed.next buf = none := by simp [uncompressed, decoded]
          rw [try_decode_one_of_next_eq_none incomplete, cleared] at decoded
          cases decoded
          by_cases header : CompressedHeader buf
          · rw [if_pos header]
            exact .cleared
          · rw [if_neg header]
            exact .kept

namespace Platform

variable {platform : Platform} {buf : Bytes}

def word (platform : Platform) : MachineWord := ⟨platform.usize.bits, platform.overflow⟩

/-- Every length field fits in a `usize`. -/
theorem size_le (platform : Platform) : 2 ^ 32 ≤ platform.word.size := by
  apply Nat.pow_le_pow_right (Nat.zero_lt_two)
  change 32 ≤ platform.usize.bits
  cases platform.usize <;> decide

/-- What `try_decode_one` does once it knows the length. -/
def take_frame (platform : Platform) (buf : Bytes) (len : Nat) :
    Option (Option Bytes × Bytes) := do
  -- the source adds twice, which comes to the same
  let frame ← platform.word.add 5 len
  if buf.length < frame then
    some (none, buf)
  else do
    let (msg, rest) ← split_to buf frame
    let (_, payload) ← split_off (platform.capacity frame) msg 5
    some (some payload, rest)

def try_decode_one (platform : Platform) (buf : Bytes) : Option (Option Bytes × Bytes) :=
  match buf with
  | b0 :: b1 :: b2 :: b3 :: b4 :: _ =>
      if b0 ≠ 0 then some (none, []) else platform.take_frame buf (u32_from_be_bytes b1 b2 b3 b4)
  | _ => some (none, buf)

/-- The header of an uncompressed message of which the platform cannot say how long it is
with its header. -/
def OverlongHeader (platform : Platform) (buf : Bytes) : Prop :=
  platform.usize = .bits32 ∧ buf.head? = some 0 ∧
    ∃ len, lengthField buf = some len ∧ 2 ^ 32 - 5 ≤ len

theorem overlongHeader_iff {b0 b1 b2 b3 b4 : UInt8} {payload : Bytes} :
    platform.OverlongHeader (b0 :: b1 :: b2 :: b3 :: b4 :: payload) ↔
      b0 = 0 ∧ platform.word.size ≤ 5 + u32_from_be_bytes b1 b2 b3 b4 := by
  have bound := u32_from_be_bytes_lt b1 b2 b3 b4
  simp only [OverlongHeader, lengthField, List.head?_cons, Option.some.injEq, exists_eq_left',
    MachineWord.size, word]
  cases platform.usize with
  | bits32 =>
      simp only [Usize.bits, true_and]
      constructor <;> intro header <;> refine ⟨header.1, ?_⟩ <;> omega
  | bits64 =>
      simp only [Usize.bits, reduceCtorEq, false_and, false_iff]
      omega

theorem take_frame_of_fits {len : Nat} (fits : 5 + len < platform.word.size) :
    platform.take_frame buf len =
      some (if buf.length < 5 + len then (none, buf)
        else (some ((buf.take (5 + len)).drop 5), buf.drop (5 + len))) := by
  rw [take_frame, MachineWord.add_of_lt fits, Option.bind_eq_bind, Option.bind_some]
  by_cases short : buf.length < 5 + len
  · rw [if_pos short, if_pos short]
  · have room := platform.room (5 + len)
    have divided : split_to buf (5 + len) = some (buf.take (5 + len), buf.drop (5 + len)) :=
      if_pos (Nat.not_lt.mp short)
    have opened : split_off (platform.capacity (5 + len)) (buf.take (5 + len)) 5 = some (_, _) :=
      if_pos (Nat.le_trans (Nat.le_add_right 5 len) room)
    rw [if_neg short, if_neg short]
    simp only [divided, opened, Option.bind_eq_bind, Option.bind_some]

/-- What has wrapped around is too short for a header, and of its message nothing is left. -/
theorem take_frame_of_overflow {len : Nat} {result : Option Bytes × Bytes}
    (header : 5 ≤ buf.length) (bound : len < platform.word.size)
    (overflow : platform.word.size ≤ 5 + len)
    (taken : platform.take_frame buf len = some result) : result.1 = some [] := by
  rcases Option.bind_eq_some_iff.mp taken with ⟨frame, added, taken⟩
  have small : frame < 5 := MachineWord.add_lt_left bound overflow added
  rw [if_neg (Nat.not_lt.mpr (Nat.le_trans (Nat.le_of_lt small) header))] at taken
  rcases Option.bind_eq_some_iff.mp taken with ⟨cut, divided, taken⟩
  rcases Option.bind_eq_some_iff.mp taken with ⟨pieces, opened, taken⟩
  rw [split_to, if_pos (Nat.le_trans (Nat.le_of_lt small) header)] at divided
  cases divided
  have empty : (buf.take frame).drop 5 = [] := by
    rw [List.drop_eq_nil_iff, List.length_take]
    omega
  by_cases room : 5 ≤ platform.capacity frame
  · rw [split_off, if_pos room] at opened
    cases opened
    cases taken
    exact congrArg some empty
  · rw [split_off, if_neg room] at opened
    cases opened

/-- Where the sum fits, the platform makes no difference. -/
theorem try_decode_one_of_not_overlong (fits : ¬ platform.OverlongHeader buf) :
    platform.try_decode_one buf = some (GrpcServer.try_decode_one buf) := by
  match buf with
  | b0 :: b1 :: b2 :: b3 :: b4 :: payload =>
      rw [overlongHeader_iff, not_and, Nat.not_le] at fits
      by_cases flag : b0 = 0
      · rw [try_decode_one, if_neg (not_not.mpr flag), take_frame_of_fits (fits flag),
          GrpcServer.try_decode_one, if_neg (not_not.mpr flag)]
      · rw [try_decode_one, if_pos flag, GrpcServer.try_decode_one, if_pos flag]
  | [] | [_] | [_, _] | [_, _, _] | [_, _, _, _] => rfl

/-- Where it does not, there is no good result. -/
theorem not_decoded_of_overlong (overlong : platform.OverlongHeader buf) :
    ¬ Decoded buf (platform.try_decode_one buf) := by
  match buf with
  | b0 :: b1 :: b2 :: b3 :: b4 :: payload =>
      rcases overlongHeader_iff.mp overlong with ⟨flag, overflow⟩
      have bound : u32_from_be_bytes b1 b2 b3 b4 < platform.word.size :=
        Nat.lt_of_lt_of_le (u32_from_be_bytes_lt b1 b2 b3 b4) platform.size_le
      rw [try_decode_one, if_neg (not_not.mpr flag)]
      intro decoded
      cases taken : platform.take_frame (b0 :: b1 :: b2 :: b3 :: b4 :: payload)
          (u32_from_be_bytes b1 b2 b3 b4) with
      | none =>
          rw [taken] at decoded
          cases decoded
      | some result =>
          have nothing := take_frame_of_overflow (by simp) bound overflow taken
          rw [taken] at decoded
          cases decoded with
          | kept => cases nothing
          | cleared => cases nothing
          | message length _ =>
              cases nothing
              rw [lengthField, Option.some.injEq, List.length_nil] at length
              rw [length] at overflow
              exact absurd (Nat.le_trans platform.size_le overflow) (by decide)
  | [] | [_] | [_, _] | [_, _, _] | [_, _, _, _] =>
      rcases overlong with ⟨_, _, len, header, _⟩
      cases header

end Platform

/-- On every platform and for every buffer: decoding ends, with what it should, exactly if
a `usize` can say how long the message is with its header. -/
theorem frame_decoding_safe_iff (platform : Platform) (buf : Bytes) :
    Decoded buf (platform.try_decode_one buf) ↔ ¬ platform.OverlongHeader buf := by
  constructor
  · intro decoded overlong
    exact Platform.not_decoded_of_overlong overlong decoded
  · intro fits
    rw [Platform.try_decode_one_of_not_overlong fits]
    exact decoded_try_decode_one buf

/-- A 32-bit platform on which `split_to` leaves no room behind what it cuts off. -/
def Platform.armeabi_v7a (overflow : Overflow) : Platform :=
  ⟨.bits32, overflow, id, fun length => Nat.le_refl length⟩

/-- A header is all that it takes, however the library has been built. -/
theorem overlong_header_panics :
    (Platform.armeabi_v7a .wraps).try_decode_one [0, 255, 255, 255, 251] = none ∧
      (Platform.armeabi_v7a .panics).try_decode_one [0, 255, 255, 255, 251] = none ∧
      ¬ Decoded [0, 255, 255, 255, 251]
        ((Platform.armeabi_v7a .wraps).try_decode_one [0, 255, 255, 255, 251]) := by
  have panics : (Platform.armeabi_v7a .wraps).try_decode_one [0, 255, 255, 255, 251] = none := by
    decide
  refine ⟨panics, by decide, ?_⟩
  rw [panics]
  intro decoded
  cases decoded

/-! ## The pump -/

/-- The decode loop: what it sends, and the buffer that it ends with. -/
inductive Platform.DecodeLoop (platform : Platform) : Bytes → Option (List Bytes × Bytes) → Prop
  | panics {buf : Bytes} : platform.try_decode_one buf = none → DecodeLoop platform buf none
  | ends {buf rest : Bytes} : platform.try_decode_one buf = some (none, rest) →
      DecodeLoop platform buf (some ([], rest))
  | sends {buf msg rest : Bytes} {result : Option (List Bytes × Bytes)} :
      platform.try_decode_one buf = some (some msg, rest) → DecodeLoop platform rest result →
      DecodeLoop platform buf (result.map fun later => (msg :: later.1, later.2))

/-- The outer loop, from a given buffer. -/
inductive Platform.Pump (platform : Platform) :
    Bytes → List BodyFrame → Option (List (List Bytes) × Bytes) → Prop
  | ends {buf : Bytes} : Pump platform buf [] (some ([], buf))
  | other {buf : Bytes} {frames : List BodyFrame} {result : Option (List (List Bytes) × Bytes)} :
      Pump platform buf frames result →
      Pump platform buf (.other :: frames) (result.map fun later => ([] :: later.1, later.2))
  | panics {buf chunk : Bytes} {frames : List BodyFrame} :
      platform.DecodeLoop (buf ++ chunk) none → Pump platform buf (.data chunk :: frames) none
  | data {buf chunk rest : Bytes} {sent : List Bytes} {frames : List BodyFrame}
      {result : Option (List (List Bytes) × Bytes)} :
      platform.DecodeLoop (buf ++ chunk) (some (sent, rest)) → Pump platform rest frames result →
      Pump platform buf (.data chunk :: frames)
        (result.map fun later => (sent :: later.1, later.2))

namespace Platform

variable {platform : Platform} {buf : Bytes}

theorem OverlongHeader.append (overlong : platform.OverlongHeader buf) (more : Bytes) :
    platform.OverlongHeader (buf ++ more) := by
  match buf with
  | b0 :: b1 :: b2 :: b3 :: b4 :: payload =>
      exact overlongHeader_iff.mpr (overlongHeader_iff.mp overlong)
  | [] | [_] | [_, _] | [_, _, _] | [_, _, _, _] =>
      rcases overlong with ⟨_, _, len, header, _⟩
      cases header

theorem decodeLoop_of_not_overlong (fits : ∀ part, part <:+ buf → ¬ platform.OverlongHeader part) :
    platform.DecodeLoop buf (some (decode_loop buf)) := by
  induction buf using decode_loop.induct with
  | case1 buf rest decoded =>
      have now := try_decode_one_of_not_overlong (fits buf (List.suffix_refl buf))
      rw [decoded] at now
      rw [decode_loop_of_none decoded]
      exact .ends now
  | case2 buf msg rest decoded _ induction =>
      have now := try_decode_one_of_not_overlong (fits buf (List.suffix_refl buf))
      have shorter : rest <:+ buf := ⟨_, (try_decode_one_eq_some decoded).2.symm⟩
      rw [decoded] at now
      rw [decode_loop_of_some decoded]
      exact .sends now (induction fun part ends => fits part (ends.trans shorter))

theorem decode_loop_suffix (buf : Bytes) : (decode_loop buf).2 <:+ buf := by
  rw [decode_loop_eq, cleared]
  split_ifs
  · exact List.nil_suffix
  · exact ⟨_, (uncompressed.decode_spec buf).2.1.symm⟩

/-- A body in which no overlong header can be found, wherever one looks, is pumped as on a
platform of 64 bits. -/
theorem pump_of_not_overlong {frames : List BodyFrame}
    (fits : ∀ part, part <:+ buf ++ received frames → ¬ platform.OverlongHeader part) :
    platform.Pump buf frames (some (pump_frames buf frames)) := by
  induction frames generalizing buf with
  | nil => exact .ends
  | cons frame frames induction =>
      cases frame with
      | other => exact .other (induction fits)
      | data chunk =>
          rw [received, ← List.append_assoc] at fits
          have now : platform.DecodeLoop (buf ++ chunk) (some (decode_loop (buf ++ chunk))) := by
            apply decodeLoop_of_not_overlong
            intro part ends overlong
            rcases ends with ⟨before, equal⟩
            apply fits (part ++ received frames) ⟨before, ?_⟩ (overlong.append _)
            rw [← List.append_assoc, equal]
          have later : platform.Pump (decode_loop (buf ++ chunk)).2 frames
              (some (pump_frames (decode_loop (buf ++ chunk)).2 frames)) := by
            apply induction
            intro part ends
            rcases decode_loop_suffix (buf ++ chunk) with ⟨before, equal⟩
            apply fits part (ends.trans ⟨before, ?_⟩)
            rw [← List.append_assoc, equal]
          exact .data now later

/-- On a platform of 64 bits that is every body. -/
theorem pump_of_bits64 (wide : platform.usize = .bits64) (frames : List BodyFrame) :
    platform.Pump [] frames (some (pump_inbound frames)) := by
  apply pump_of_not_overlong
  intro part _ overlong
  rw [OverlongHeader, wide] at overlong
  cases overlong.1

end Platform

end Zpr.GrpcServer
