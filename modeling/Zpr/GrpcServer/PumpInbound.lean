import Zpr.GrpcServer.MessageFrame

namespace Zpr.GrpcServer

/-! # The inbound pump on a whole request body

`pump_inbound` for a channel whose receiver stays alive, so that every send
succeeds. The body arrives as a list of HTTP/2 frames; where it is cut into
DATA frames is up to the client and the network. -/

/-- One frame of a request body. `other` stands for every frame whose
`into_data` is `Err`. -/
inductive BodyFrame
  | data (chunk : Bytes)
  | other
  deriving DecidableEq, Repr

/-- All the bytes that a list of body frames carries. -/
def received : List BodyFrame → Bytes
  | [] => []
  | .data chunk :: frames => chunk ++ received frames
  | .other :: frames => received frames

@[simp] theorem received_append (left right : List BodyFrame) :
    received (left ++ right) = received left ++ received right := by
  induction left with
  | nil => rfl
  | cons frame frames induction =>
      cases frame with
      | data chunk => simp [received, induction]
      | other => simpa [received] using induction

/-- One turn of the outer loop: the messages sent, and the buffer left. -/
def pump_frame (buf : Bytes) : BodyFrame → List Bytes × Bytes
  | .data chunk => decode_loop (buf ++ chunk)
  | .other => ([], buf)

/-- The outer loop from a given buffer: for every body frame the messages it
made the pump send, and the buffer when the body ends. -/
def pump_frames (buf : Bytes) : List BodyFrame → List (List Bytes) × Bytes
  | [] => ([], buf)
  | frame :: frames =>
      let now := pump_frame buf frame
      let later := pump_frames now.2 frames
      (now.1 :: later.1, later.2)

def pump_inbound (frames : List BodyFrame) : List (List Bytes) × Bytes :=
  pump_frames [] frames

theorem pump_frames_append (buf : Bytes) (left right : List BodyFrame) :
    pump_frames buf (left ++ right) =
      ((pump_frames buf left).1 ++ (pump_frames (pump_frames buf left).2 right).1,
        (pump_frames (pump_frames buf left).2 right).2) := by
  induction left generalizing buf with
  | nil => rfl
  | cons frame frames induction => simp [pump_frames, induction]

@[simp] theorem pump_frames_length (buf : Bytes) (frames : List BodyFrame) :
    (pump_frames buf frames).1.length = frames.length := by
  induction frames generalizing buf with
  | nil => rfl
  | cons frame frames induction => simp [pump_frames, induction]

/-- What the pump has sent after some of the frames does not depend on the
frames still to come. -/
theorem pump_inbound_take (frames : List BodyFrame) (count : Nat) :
    (pump_inbound frames).1.take count = (pump_inbound (frames.take count)).1 := by
  have split := pump_frames_append [] (frames.take count) (frames.drop count)
  rw [List.take_append_drop] at split
  rw [pump_inbound, split]
  by_cases within : count ≤ frames.length
  · exact List.take_left' (by simp [within])
  · have beyond : frames.length ≤ count := by omega
    simp [pump_inbound, pump_frames, List.take_of_length_le beyond,
      List.drop_of_length_le beyond, beyond]

/-! ## Streams without a compressed message -/

/-- As long as the part of the stream that is still buffered never starts with
a compressed header, the chunk boundaries do not matter. -/
theorem pump_frames_eq_decode {buf : Bytes} {frames : List BodyFrame}
    (incomplete : uncompressed.next buf = none)
    (uncleared : ∀ part, part <+: received frames →
      ¬ CompressedHeader (uncompressed.decode (buf ++ part)).2) :
    (pump_frames buf frames).1.flatten = (uncompressed.decode (buf ++ received frames)).1 ∧
      (pump_frames buf frames).2 = (uncompressed.decode (buf ++ received frames)).2 := by
  induction frames generalizing buf with
  | nil => simp [pump_frames, received, uncompressed.decode_of_next_eq_none incomplete]
  | cons frame frames induction =>
      cases frame with
      | other => simpa [pump_frames, pump_frame, received] using induction incomplete uncleared
      | data chunk =>
          have kept := uncleared chunk (List.prefix_append _ _)
          have now : decode_loop (buf ++ chunk) = uncompressed.decode (buf ++ chunk) := by
            rw [decode_loop_eq, cleared, if_neg kept]
          have later := induction (uncompressed.decode_spec (buf ++ chunk)).2.2 (by
            intro part isPrefix
            have whole := uncleared (chunk ++ part)
              ((List.prefix_append_right_inj chunk).mpr isPrefix)
            rwa [← List.append_assoc, uncompressed.decode_append] at whole)
          simp only [pump_frames, pump_frame, received, now, List.flatten_cons]
          rw [← List.append_assoc, uncompressed.decode_append (buf ++ chunk), later.1, later.2]
          exact ⟨rfl, rfl⟩

/-- A non-empty start of an encoded message starts with the flag 0. -/
theorem not_compressedHeader_of_isPrefix {msg part : Bytes}
    (isPrefix : part <+: encode_grpc_frame msg) : ¬ CompressedHeader part := by
  rcases isPrefix with ⟨more, equal⟩
  rintro ⟨long, flag⟩
  cases part with
  | nil => simp at long
  | cons first others =>
      simp only [encode_grpc_frame, List.cons_append, List.cons.injEq] at equal
      simp [equal.1] at flag

/-- On any part of a stream of messages the pump does what decoding that part
at once does. -/
theorem pump_inbound_eq_decode {messages : List Bytes} {msg tail : Bytes}
    (short : ∀ message ∈ messages, message.length < 2 ^ 32)
    (incomplete : uncompressed.next tail = none) (isPrefix : tail <+: encode_grpc_frame msg)
    {frames : List BodyFrame} (part : received frames <+: uncompressed.encodeAll messages ++ tail) :
    (pump_inbound frames).1.flatten = (uncompressed.decode (received frames)).1 ∧
      (pump_inbound frames).2 = (uncompressed.decode (received frames)).2 := by
  refine pump_frames_eq_decode uncompressed.next_nil ?_
  intro beginning beginningPrefix
  rw [List.nil_append]
  rcases beginningPrefix.trans part with ⟨more, equal⟩
  rcases uncompressed.decode_part_cases short equal with
    ⟨extra, rfl, remaining⟩ | ⟨_, item, _, left, _, result, _, leftPrefix, _⟩
  · have extraPrefix : extra <+: tail := ⟨more, remaining⟩
    have extraIncomplete := uncompressed.next_eq_none_of_isPrefix extraPrefix incomplete
    rw [uncompressed.decode_eq_iff.mpr ⟨short, rfl, extraIncomplete⟩]
    exact not_compressedHeader_of_isPrefix (extraPrefix.trans isPrefix)
  · rw [result]
    exact not_compressedHeader_of_isPrefix leftPrefix

/-- The loop takes at least a header off the buffer for every message. -/
theorem decode_loop_length (buf : Bytes) : 5 * (decode_loop buf).1.length ≤ buf.length := by
  induction buf using decode_loop.induct with
  | case1 buf rest decoded => simp [decode_loop_of_none decoded]
  | case2 buf msg rest decoded _ induction =>
      rcases try_decode_one_eq_some decoded with ⟨_, rfl⟩
      rw [decode_loop_of_some decoded]
      simp only [List.length_cons, List.length_append, encode_grpc_frame_length]
      omega

/-- Inbound framing undoes outbound framing however the stream is cut: the
pump sends the messages, each with the body frame that completes it, and keeps
the rest. The decode loop ends on every buffer. -/
theorem pump_inbound_recovers_messages {messages : List Bytes} {msg tail : Bytes}
    (short : ∀ message ∈ messages, message.length < 2 ^ 32) (nextShort : msg.length < 2 ^ 32)
    (isPrefix : tail <+: encode_grpc_frame msg) (strict : tail ≠ encode_grpc_frame msg)
    {frames : List BodyFrame}
    (cut : received frames = messages.flatMap encode_grpc_frame ++ tail) :
    (pump_inbound frames).1.flatten = messages ∧ (pump_inbound frames).2 = tail ∧
      (∀ arrived count, count ≤ messages.length →
        (count ≤ ((pump_inbound frames).1.take arrived).flatten.length ↔
          ((messages.take count).flatMap encode_grpc_frame).length ≤
            (received (frames.take arrived)).length)) ∧
      ∀ buf, 5 * (decode_loop buf).1.length ≤ buf.length := by
  have incomplete : uncompressed.next tail = none :=
    uncompressed.next_eq_none_of_strictPrefix nextShort isPrefix strict
  have decoded : uncompressed.decode (received frames) = (messages, tail) :=
    uncompressed.decode_eq_iff.mpr ⟨short, cut, incomplete⟩
  have whole := pump_inbound_eq_decode short incomplete isPrefix
    (show received frames <+: uncompressed.encodeAll messages ++ tail from
      cut ▸ List.prefix_refl _)
  rw [decoded] at whole
  refine ⟨whole.1, whole.2, ?_, decode_loop_length⟩
  intro arrived count bound
  have partPrefix : received (frames.take arrived) <+:
      uncompressed.encodeAll messages ++ tail := by
    refine ⟨received (frames.drop arrived), ?_⟩
    rw [← received_append, List.take_append_drop]
    exact cut
  rw [pump_inbound_take, (pump_inbound_eq_decode short incomplete isPrefix partPrefix).1]
  exact uncompressed.take_prefix_decode_iff short incomplete partPrefix bound

/-- Two messages and the start of a third, cut inside a header and inside a
payload. -/
theorem pump_inbound_recovers_two_messages :
    (pump_inbound [.data [0, 0, 0], .other, .data [0, 2, 7], .data [], .data [8, 0, 0, 0, 0, 0, 0],
      .data [0, 0]]).1.flatten = [[7, 8], []] ∧
    (pump_inbound [.data [0, 0, 0], .other, .data [0, 2, 7], .data [], .data [8, 0, 0, 0, 0, 0, 0],
      .data [0, 0]]).2 = [0, 0, 0] :=
  have recovered := @pump_inbound_recovers_messages [[7, 8], []] [9] [0, 0, 0]
    (by decide) (by decide) (by decide) (by decide)
    [.data [0, 0, 0], .other, .data [0, 2, 7], .data [],
      .data [8, 0, 0, 0, 0, 0, 0], .data [0, 0]] (by decide)
  ⟨recovered.1, recovered.2.1⟩

end Zpr.GrpcServer
