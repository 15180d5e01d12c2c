import Zpr.GrpcServer.PumpInbound

namespace Zpr.GrpcServer

/-! # Compressed messages

`try_decode_one` clears the buffer when it meets a compressed message, and the
pump goes on reading. Decoding then starts afresh at the next body frame, in
the middle of whatever the client was sending. -/

/-- The body frames after the one that brings the number of received bytes to
`count`. -/
def framesAfter : Nat → List BodyFrame → List BodyFrame
  | _, [] => []
  | count, .other :: frames => framesAfter count frames
  | count, .data chunk :: frames =>
      if count ≤ chunk.length then frames else framesAfter (count - chunk.length) frames

theorem framesAfter_length_le (count : Nat) (frames : List BodyFrame) :
    (framesAfter count frames).length ≤ frames.length := by
  induction frames generalizing count with
  | nil => simp [framesAfter]
  | cons frame frames induction =>
      cases frame with
      | other => exact Nat.le_succ_of_le (induction count)
      | data chunk =>
          unfold framesAfter
          split_ifs
          · exact Nat.le_succ _
          · exact Nat.le_succ_of_le (induction _)

theorem framesAfter_shorter (count : Nat) {frames : List BodyFrame} (received : frames ≠ []) :
    (framesAfter count frames).length < frames.length := by
  cases frames with
  | nil => exact absurd rfl received
  | cons frame frames =>
      cases frame with
      | other => exact Nat.lt_succ_of_le (framesAfter_length_le count frames)
      | data chunk =>
          unfold framesAfter
          split_ifs
          · exact Nat.lt_succ_self _
          · exact Nat.lt_succ_of_le (framesAfter_length_le _ frames)

/-- The body frames hold a message that the client did not frame: where
decoding starts afresh, the bytes form a complete uncompressed message. As long
as they start with another compression flag, decoding starts afresh once more,
after the body frame that completes that header. -/
inductive ForgesMessage : List BodyFrame → Prop
  | message {frames : List BodyFrame} {msg rest : Bytes} : msg.length < 2 ^ 32 →
      received frames = encode_grpc_frame msg ++ rest → ForgesMessage frames
  | restart {frames : List BodyFrame} {flag : UInt8} {rest : Bytes} : flag ≠ 0 →
      received frames = flag :: rest → ForgesMessage (framesAfter 5 frames) →
      ForgesMessage frames

theorem next_eq_none_of_flag {flag : UInt8} (compressed : flag ≠ 0) (rest : Bytes) :
    uncompressed.next (flag :: rest) = none := by
  cases found : uncompressed.next (flag :: rest) with
  | none => rfl
  | some frame =>
      have equal := (uncompressed.next_eq_some_iff.mp found).2
      simp only [uncompressed, encode_grpc_frame, List.cons_append, List.cons.injEq] at equal
      exact absurd equal.1 compressed

/-- While the whole messages at the front of the stream are coming in, a body
frame leaves the buffer inside one of them. -/
theorem pump_frame_inside {items : List Bytes} {buf chunk more rest : Bytes}
    (short : ∀ item ∈ items, item.length < 2 ^ 32)
    (equal : buf ++ chunk ++ more = uncompressed.encodeAll items ++ rest) :
    (∃ extra, buf ++ chunk = uncompressed.encodeAll items ++ extra ∧ extra ++ more = rest) ∨
      ∃ decoded item later left, items = decoded ++ item :: later ∧
        pump_frame buf (.data chunk) = (decoded, left) ∧
        buf ++ chunk = uncompressed.encodeAll decoded ++ left ∧
        uncompressed.next left = none ∧ left.length < (uncompressed.encode item).length := by
  rcases uncompressed.decode_part_cases short equal with
    inside | ⟨decoded, item, later, left, split, result, whole, isPrefix, strict⟩
  · exact .inl inside
  · refine .inr ⟨decoded, item, later, left, split, ?_, whole, ?_, ?_⟩
    · rw [pump_frame, decode_loop_eq, result, cleared,
        if_neg (not_compressedHeader_of_isPrefix isPrefix)]
    · exact uncompressed.next_eq_none_of_strictPrefix (short item (by simp [split]))
        isPrefix strict
    · exact Nat.lt_of_le_of_ne isPrefix.length_le fun same =>
        strict (isPrefix.eq_of_length same)

/-- Whatever follows them, the whole messages at the front of a stream are
sent first. -/
theorem prefix_pump_frames {items : List Bytes} {buf rest : Bytes} {frames : List BodyFrame}
    (short : ∀ item ∈ items, item.length < 2 ^ 32) (incomplete : uncompressed.next buf = none)
    (equal : buf ++ received frames = uncompressed.encodeAll items ++ rest) :
    items <+: (pump_frames buf frames).1.flatten := by
  induction frames generalizing buf items with
  | nil =>
      rw [received, List.append_nil] at equal
      rw [equal] at incomplete
      rw [uncompressed.eq_nil_of_next_eq_none short incomplete]
      exact List.nil_prefix
  | cons frame frames induction =>
      cases frame with
      | other => simpa [pump_frames, pump_frame] using induction short incomplete equal
      | data chunk =>
          rw [received, ← List.append_assoc] at equal
          simp only [pump_frames, List.flatten_cons]
          rcases pump_frame_inside short equal with
            ⟨extra, whole, _⟩ |
            ⟨decoded, item, later, left, rfl, result, whole, leftIncomplete, _⟩
          · rw [pump_frame, decode_loop_eq, whole, uncompressed.decode_encodeAll_append short]
            simp [List.append_assoc]
          · rw [result]
            refine (List.prefix_append_right_inj decoded).mpr (induction ?_ leftIncomplete ?_)
            · exact fun other member => short other (List.mem_append_right decoded member)
            · rw [whole, Framing.encodeAll_append, List.append_assoc, List.append_assoc] at equal
              exact List.append_cancel_left equal

/-- The body frame that completes the messages before a compressed header sends the last
of them. It leaves what it brings of the header, unless that is all of it. -/
theorem pump_frame_of_compressed {items : List Bytes} {flag : UInt8}
    {buf chunk extra more rest : Bytes} (short : ∀ item ∈ items, item.length < 2 ^ 32)
    (compressed : flag ≠ 0) (whole : buf ++ chunk = uncompressed.encodeAll items ++ extra)
    (remaining : extra ++ more = flag :: rest) :
    uncompressed.next extra = none ∧
      pump_frame buf (.data chunk) = (items, if 5 ≤ extra.length then [] else extra) := by
  have incomplete : uncompressed.next extra = none :=
    uncompressed.next_eq_none_of_isPrefix ⟨_, remaining⟩ (next_eq_none_of_flag compressed rest)
  have header : CompressedHeader extra ↔ 5 ≤ extra.length := by
    refine ⟨fun header => header.1, fun complete => ⟨complete, ?_⟩⟩
    cases extra with
    | nil => simp at complete
    | cons first others =>
        simp only [List.cons_append, List.cons.injEq] at remaining
        simpa [remaining.1] using compressed
  refine ⟨incomplete, ?_⟩
  rw [pump_frame, decode_loop_eq, uncompressed.decode_eq_iff.mpr ⟨short, whole, incomplete⟩,
    cleared, if_congr header rfl rfl]

/-- Up to the compressed header the pump sends the messages before it. With the
body frame that completes the header it starts afresh; a header that stays incomplete
stays in the buffer. -/
theorem pump_frames_of_compressed {items : List Bytes} {flag : UInt8} {buf rest : Bytes}
    {frames : List BodyFrame} (short : ∀ item ∈ items, item.length < 2 ^ 32)
    (compressed : flag ≠ 0) (incomplete : uncompressed.next buf = none)
    (early : buf.length < (uncompressed.encodeAll items).length + 5)
    (equal : buf ++ received frames = uncompressed.encodeAll items ++ flag :: rest) :
    (pump_frames buf frames).1.flatten = items ++
        (pump_inbound (framesAfter ((uncompressed.encodeAll items).length + 5 - buf.length)
          frames)).1.flatten ∧
      (4 ≤ rest.length → (pump_frames buf frames).2 =
        (pump_inbound (framesAfter ((uncompressed.encodeAll items).length + 5 - buf.length)
          frames)).2) := by
  induction frames generalizing buf items with
  | nil =>
      rw [received, List.append_nil] at equal
      constructor
      · rw [equal] at incomplete
        rw [uncompressed.eq_nil_of_next_eq_none short incomplete]
        simp [pump_inbound, pump_frames, framesAfter]
      · intro complete
        rw [equal, List.length_append, List.length_cons] at early
        omega
  | cons frame frames induction =>
      cases frame with
      | other =>
          simpa [pump_frames, pump_frame, framesAfter] using
            induction short incomplete early equal
      | data chunk =>
          rw [received, ← List.append_assoc] at equal
          simp only [pump_frames, List.flatten_cons]
          rcases pump_frame_inside short equal with
            ⟨extra, whole, remaining⟩ |
            ⟨decoded, item, later, left, rfl, result, whole, leftIncomplete, inside⟩
          · have lengths := congrArg List.length whole
            simp only [List.length_append] at lengths
            rcases pump_frame_of_compressed short compressed whole remaining with
              ⟨extraIncomplete, now⟩
            rw [now]
            by_cases complete : 5 ≤ extra.length
            · -- this body frame completes the compressed header
              rw [if_pos complete, framesAfter, if_pos (by omega)]
              exact ⟨rfl, fun _ => rfl⟩
            · have early : extra.length < (uncompressed.encodeAll []).length + 5 := by
                simp only [Framing.encodeAll_nil, List.length_nil]
                omega
              have count : (uncompressed.encodeAll items).length + 5 - buf.length -
                  chunk.length = (uncompressed.encodeAll []).length + 5 - extra.length := by
                simp only [Framing.encodeAll_nil, List.length_nil]
                omega
              have later := induction (by simp) extraIncomplete early remaining
              rw [if_neg complete, framesAfter, if_neg (by omega), count, later.1, List.nil_append]
              exact ⟨rfl, later.2⟩
          · have lengths := congrArg List.length whole
            simp only [List.length_append] at lengths
            rw [whole, Framing.encodeAll_append, List.append_assoc, List.append_assoc] at equal
            have laterEarly : left.length <
                (uncompressed.encodeAll (item :: later)).length + 5 := by
              simp only [Framing.encodeAll_cons, List.length_append]
              omega
            have others := induction
              (fun other member => short other (List.mem_append_right decoded member))
              leftIncomplete laterEarly (List.append_cancel_left equal)
            have count : (uncompressed.encodeAll (decoded ++ item :: later)).length + 5 -
                buf.length - chunk.length =
                (uncompressed.encodeAll (item :: later)).length + 5 - left.length := by
              simp only [Framing.encodeAll_append, List.length_append]
              omega
            rw [result, others.1, framesAfter, if_neg (by omega), count, List.append_assoc]
            exact ⟨rfl, others.2⟩

theorem pump_inbound_of_flag {flag : UInt8} {rest : Bytes} {frames : List BodyFrame}
    (compressed : flag ≠ 0) (cut : received frames = flag :: rest) :
    (pump_inbound frames).1.flatten = (pump_inbound (framesAfter 5 frames)).1.flatten :=
  (pump_frames_of_compressed (fun _ member => absurd member List.not_mem_nil) compressed
    uncompressed.next_nil (Nat.zero_lt_succ _) cut).1

/-- Neither an empty stream nor a message that never completes sends anything. -/
theorem pump_inbound_of_incomplete {frames : List BodyFrame}
    (incomplete : uncompressed.next (received frames) = none)
    (flag : ∀ first ∈ (received frames).head?, first = 0) :
    (pump_inbound frames).1.flatten = [] := by
  have uncleared : ∀ part, part <+: received frames →
      ¬ CompressedHeader (uncompressed.decode ([] ++ part)).2 := by
    intro part isPrefix
    have partIncomplete := uncompressed.next_eq_none_of_isPrefix isPrefix incomplete
    rw [List.nil_append, uncompressed.decode_of_next_eq_none partIncomplete]
    rintro ⟨long, header⟩
    cases part with
    | nil => simp at long
    | cons first others =>
        rcases isPrefix with ⟨more, equal⟩
        rw [← equal] at flag
        exact header (congrArg some (flag first rfl))
  have whole := (pump_frames_eq_decode uncompressed.next_nil uncleared).1
  rw [List.nil_append, uncompressed.decode_of_next_eq_none incomplete] at whole
  exact whole

/-- From an empty buffer the pump sends something exactly when it is shown
something that looks like a message. -/
theorem pump_inbound_ne_nil_iff (frames : List BodyFrame) :
    (pump_inbound frames).1.flatten ≠ [] ↔ ForgesMessage frames := by
  constructor
  · induction length : frames.length using Nat.strongRecOn generalizing frames with
    | ind _ induction =>
        intro sent
        cases found : uncompressed.next (received frames) with
        | some frame =>
            rcases uncompressed.next_eq_some_iff.mp found with ⟨short, equal⟩
            exact .message short equal
        | none =>
            by_cases flag : ∀ first ∈ (received frames).head?, first = 0
            · exact absurd (pump_inbound_of_incomplete found flag) sent
            · simp only [not_forall] at flag
              rcases flag with ⟨first, isHead, compressed⟩
              rcases List.head?_eq_some_iff.mp isHead with ⟨rest, equal⟩
              have arrived : frames ≠ [] := by
                rintro rfl
                simp [received] at equal
              rw [pump_inbound_of_flag compressed equal] at sent
              exact .restart compressed equal
                (induction _ (length ▸ framesAfter_shorter 5 arrived) _ rfl sent)
  · intro forges
    induction forges with
    | @message frames msg rest short equal =>
        have whole : [] ++ received frames = uncompressed.encodeAll [msg] ++ rest := by
          simpa [uncompressed, Framing.encodeAll] using equal
        have first : [msg] <+: (pump_inbound frames).1.flatten :=
          prefix_pump_frames (by simpa using short) uncompressed.next_nil whole
        intro nothing
        rw [nothing] at first
        simp at first
    | restart compressed equal _ induction =>
        rw [pump_inbound_of_flag compressed equal]
        exact induction

/-- The pump forwards just the messages before the compressed one exactly when
the bytes after it, read afresh at the following body frame, never look like a
message. -/
theorem pump_inbound_before_compressed_iff {messages : List Bytes} {flag : UInt8} {rest : Bytes}
    {frames : List BodyFrame} (short : ∀ message ∈ messages, message.length < 2 ^ 32)
    (compressed : flag ≠ 0)
    (cut : received frames = messages.flatMap encode_grpc_frame ++ flag :: rest) :
    (pump_inbound frames).1.flatten = messages ↔
      ¬ ForgesMessage
        (framesAfter ((messages.flatMap encode_grpc_frame).length + 5) frames) := by
  have sent : (pump_inbound frames).1.flatten = messages ++
      (pump_inbound (framesAfter ((messages.flatMap encode_grpc_frame).length + 5)
        frames)).1.flatten :=
    (pump_frames_of_compressed short compressed uncompressed.next_nil (by simp) cut).1
  rw [sent, List.append_right_eq_self, ← pump_inbound_ne_nil_iff, not_not]

/-- A compressed message of one body frame is dropped whole. -/
theorem pump_inbound_before_compressed_whole :
    (pump_inbound [.data (encode_grpc_frame [9] ++ [1, 0, 0, 0, 6, 0, 0, 0, 0, 1, 7])]).1.flatten =
      [[9]] :=
  (@pump_inbound_before_compressed_iff [[9]] 1 [0, 0, 0, 6, 0, 0, 0, 0, 1, 7]
    [.data (encode_grpc_frame [9] ++ [1, 0, 0, 0, 6, 0, 0, 0, 0, 1, 7])]
    (by decide) (by decide) (by decide)).mpr (by
      rw [← pump_inbound_ne_nil_iff]
      simp [framesAfter, pump_inbound, pump_frames, encode_grpc_frame, u32_to_be_bytes])

/-- The payload of a compressed message that arrives in a body frame of its own
is forwarded as a message that the client never framed. In one body frame with
its header it is not. -/
theorem pump_inbound_forwards_compressed_payload :
    received [.data [1, 0, 0, 0, 6], .data [0, 0, 0, 0, 1, 7]] =
        [].flatMap encode_grpc_frame ++ 1 :: [0, 0, 0, 6, 0, 0, 0, 0, 1, 7] ∧
      received [.data [1, 0, 0, 0, 6, 0, 0, 0, 0, 1, 7]] =
        [].flatMap encode_grpc_frame ++ 1 :: [0, 0, 0, 6, 0, 0, 0, 0, 1, 7] ∧
      (pump_inbound [.data [1, 0, 0, 0, 6], .data [0, 0, 0, 0, 1, 7]]).1.flatten = [[7]] ∧
      (pump_inbound [.data [1, 0, 0, 0, 6, 0, 0, 0, 0, 1, 7]]).1.flatten = [] := by
  refine ⟨by decide, by decide, ?_, ?_⟩ <;>
    simp [pump_inbound, pump_frames, pump_frame, decode_loop, try_decode_one, u32_from_be_bytes]

/-! ## What stays in the buffer -/

/-- Decoding comes to its end between two frames: the bytes are whole uncompressed
messages to the end, or up to a compressed header; decoding then starts afresh after the
body frame that completes the header, and comes to its end between two frames from there. -/
inductive DecodesWhole : List BodyFrame → Prop
  | messages {frames : List BodyFrame} {items : List Bytes} :
      (∀ item ∈ items, item.length < 2 ^ 32) →
      received frames = items.flatMap encode_grpc_frame → DecodesWhole frames
  | restart {frames : List BodyFrame} {items : List Bytes} {flag : UInt8} {rest : Bytes} :
      (∀ item ∈ items, item.length < 2 ^ 32) → flag ≠ 0 → 4 ≤ rest.length →
      received frames = items.flatMap encode_grpc_frame ++ flag :: rest →
      DecodesWhole (framesAfter ((items.flatMap encode_grpc_frame).length + 5) frames) →
      DecodesWhole frames

/-- What comes after whole messages stays in the buffer unless it brings a compressed
header. -/
theorem pump_inbound_left {items : List Bytes} {tail : Bytes} {frames : List BodyFrame}
    (short : ∀ item ∈ items, item.length < 2 ^ 32) (incomplete : uncompressed.next tail = none)
    (plain : ¬ CompressedHeader tail)
    (cut : received frames = uncompressed.encodeAll items ++ tail) :
    (pump_inbound frames).2 = tail := by
  have uncleared : ∀ part, part <+: received frames →
      ¬ CompressedHeader (uncompressed.decode ([] ++ part)).2 := by
    intro part isPrefix
    rcases isPrefix with ⟨more, equal⟩
    rw [cut] at equal
    rw [List.nil_append]
    rcases uncompressed.decode_part_cases short equal with
      ⟨extra, rfl, remaining⟩ | ⟨_, item, _, left, _, result, _, leftPrefix, _⟩
    · have extraIncomplete := uncompressed.next_eq_none_of_isPrefix ⟨more, remaining⟩ incomplete
      rw [uncompressed.decode_eq_iff.mpr ⟨short, rfl, extraIncomplete⟩]
      show ¬ CompressedHeader extra
      rintro ⟨long, flag⟩
      apply plain
      rw [← remaining]
      refine ⟨by simp only [List.length_append]; omega, ?_⟩
      cases extra with
      | nil => simp at long
      | cons first others => exact flag
    · rw [result]
      exact not_compressedHeader_of_isPrefix leftPrefix
  have whole := (pump_frames_eq_decode uncompressed.next_nil uncleared).2
  rw [List.nil_append, uncompressed.decode_eq_iff.mpr ⟨short, cut, incomplete⟩] at whole
  exact whole

theorem pump_inbound_left_of_restart {items : List Bytes} {flag : UInt8} {rest : Bytes}
    {frames : List BodyFrame} (short : ∀ item ∈ items, item.length < 2 ^ 32)
    (compressed : flag ≠ 0) (complete : 4 ≤ rest.length)
    (cut : received frames = uncompressed.encodeAll items ++ flag :: rest) :
    (pump_inbound frames).2 =
      (pump_inbound (framesAfter ((uncompressed.encodeAll items).length + 5) frames)).2 :=
  (pump_frames_of_compressed short compressed uncompressed.next_nil (by simp) cut).2 complete

/-- The pump ends with an empty buffer exactly when decoding comes to its end between two
frames. -/
theorem pump_inbound_left_eq_nil_iff (frames : List BodyFrame) :
    (pump_inbound frames).2 = [] ↔ DecodesWhole frames := by
  constructor
  · induction length : frames.length using Nat.strongRecOn generalizing frames with
    | ind _ induction =>
        intro nothing
        rcases uncompressed.decode_spec (received frames) with ⟨short, cut, incomplete⟩
        generalize (uncompressed.decode (received frames)).1 = items at short cut
        generalize (uncompressed.decode (received frames)).2 = tail at cut incomplete
        by_cases header : CompressedHeader tail
        · rcases header with ⟨long, flag⟩
          cases tail with
          | nil => simp at long
          | cons first rest =>
              have compressed : first ≠ 0 := by simpa using flag
              have complete : 4 ≤ rest.length := by simpa using long
              have arrived : frames ≠ [] := by
                rintro rfl
                simp [received] at cut
              rw [pump_inbound_left_of_restart short compressed complete cut] at nothing
              exact .restart short compressed complete cut
                (induction _ (length ▸ framesAfter_shorter _ arrived) _ rfl nothing)
        · rw [pump_inbound_left short incomplete header cut] at nothing
          rw [nothing, List.append_nil] at cut
          exact .messages short cut
  · intro whole
    induction whole with
    | messages short cut =>
        apply pump_inbound_left short uncompressed.next_nil (by simp [CompressedHeader])
        rw [List.append_nil]
        exact cut
    | restart short compressed complete cut _ induction =>
        rw [pump_inbound_left_of_restart short compressed complete cut]
        exact induction

end Zpr.GrpcServer
