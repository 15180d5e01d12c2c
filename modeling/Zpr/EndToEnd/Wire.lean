import Mathlib.Data.List.TakeWhile
import Zpr.GrpcServer.MessageFrame

namespace Zpr.EndToEnd

open Ffi GrpcServer

/-! # What the client's codec and tonic make of messages

`BytesCodec` passes bytes through; tonic puts them into length-prefixed messages and takes
them out again. tonic comes from the outside, and what is relied on is the wire format that
it documents and its limit on the size of a message that it decodes. -/

namespace BytesCodec

/-- `Encoder::encode`: `put_slice` at the end of the buffer. -/
def encode (item dst : Bytes) : Bytes := dst ++ item

/-- `Decoder::decode`: all that remains of the payload, which is used up. -/
def decode (src : Bytes) : Option Bytes × Bytes := (some src, [])

end BytesCodec

structure Tonic where
  /-- what goes out for an item, given how the codec writes it to a buffer -/
  encode_item : (Bytes → Bytes) → Bytes
  /-- the items that `message` answers from these bytes of a response body, given how the
  codec reads a payload -/
  decode_body : (Bytes → Option Bytes × Bytes) → Bytes → List Bytes

/-- A message of the gRPC wire format that is not compressed: a flag, the length in four
bytes, most significant first, and the payload. -/
def lengthPrefixed (payload : Bytes) : Bytes := 0 :: u32_to_be_bytes payload.length ++ payload

/-- The start of a message that is not all there. -/
def Unfinished (rest : Bytes) : Prop :=
  ∃ payload : Bytes, payload.length < 2 ^ 32 ∧ rest <+: lengthPrefixed payload ∧
    rest ≠ lengthPrefixed payload

/-- What tonic documents, with its limit for `max_decoding_message_size`. -/
structure Tonic.Documented (tonic : Tonic) (limit : Nat) : Prop where
  small : limit < 2 ^ 32
  encodes : ∀ (encode : Bytes → Bytes) (payload : Bytes), (∀ dst, encode dst = dst ++ payload) →
    payload.length < 2 ^ 32 → tonic.encode_item encode = lengthPrefixed payload
  decodes : ∀ (decode : Bytes → Option Bytes × Bytes) (payloads : List Bytes) (rest : Bytes),
    (∀ payload ∈ payloads, payload.length ≤ limit) → Unfinished rest →
    tonic.decode_body decode (payloads.flatMap lengthPrefixed ++ rest) =
      payloads.filterMap fun payload => (decode payload).1
  stops : ∀ (decode : Bytes → Option Bytes × Bytes) (payloads : List Bytes) (large rest : Bytes),
    (∀ payload ∈ payloads, payload.length ≤ limit) → limit < large.length →
    large.length < 2 ^ 32 →
    tonic.decode_body decode (payloads.flatMap lengthPrefixed ++ (lengthPrefixed large ++ rest)) =
      payloads.filterMap fun payload => (decode payload).1

namespace Tonic

/-- The bytes of a request body whose stream has yielded these items. -/
def request_body (tonic : Tonic) (items : List Bytes) : Bytes :=
  items.flatMap fun item => tonic.encode_item (BytesCodec.encode item)

/-- The messages that the client gets from these bytes of a response body. -/
def response_messages (tonic : Tonic) (body : Bytes) : List Bytes :=
  tonic.decode_body BytesCodec.decode body

end Tonic

/-- The four bytes of a length are those of its low 32 bits. -/
theorem u32_to_be_bytes_mod (value : Nat) :
    u32_to_be_bytes (value % 2 ^ 32) = u32_to_be_bytes value := by
  simp only [u32_to_be_bytes, List.cons.injEq, and_true]
  refine ⟨?_, ?_, ?_, ?_⟩ <;> apply UInt8.toNat_inj.mp <;> simp only [UInt8.toNat_ofNat'] <;> omega

/-- The frames that the server writes are messages of the wire format. -/
theorem lengthPrefixed_eq (payload : Bytes) :
    lengthPrefixed payload = encode_grpc_frame payload := by
  rw [encode_grpc_frame, u32_to_be_bytes_mod]
  rfl

theorem flatMap_lengthPrefixed (payloads : List Bytes) :
    payloads.flatMap lengthPrefixed = uncompressed.encodeAll payloads := by
  rw [funext lengthPrefixed_eq]
  rfl

theorem unfinished_nil : Unfinished [] :=
  ⟨[], by decide, List.nil_prefix, by decide⟩

namespace Tonic.Documented

variable {tonic : Tonic} {limit : Nat}

/-- The server's framing is the client's. -/
theorem request_body_eq (documented : tonic.Documented limit) {items : List Bytes}
    (short : ∀ item ∈ items, item.length < 2 ^ 32) :
    tonic.request_body items = uncompressed.encodeAll items := by
  induction items with
  | nil => rfl
  | cons item items induction =>
      have first := documented.encodes (BytesCodec.encode item) item (fun _ => rfl)
        (short item List.mem_cons_self)
      have others := induction fun other member => short other (List.mem_cons_of_mem item member)
      rw [request_body, List.flatMap_cons, first, lengthPrefixed_eq]
      rw [request_body] at others
      rw [others]
      rfl

/-- Whatever the codec is handed, it keeps. -/
theorem filterMap_decode (payloads : List Bytes) :
    (payloads.filterMap fun payload => (BytesCodec.decode payload).1) = payloads := by
  simp [BytesCodec.decode]

/-- The messages up to the first that is too large. -/
theorem response_messages_eq (documented : tonic.Documented limit) {payloads : List Bytes}
    {rest : Bytes} (short : ∀ payload ∈ payloads, payload.length < 2 ^ 32)
    (unfinished : Unfinished rest) :
    tonic.response_messages (uncompressed.encodeAll payloads ++ rest) =
      payloads.takeWhile fun payload => payload.length ≤ limit := by
  have allowed : ∀ payload ∈ payloads.takeWhile fun payload : Bytes => payload.length ≤ limit,
      payload.length ≤ limit := by
    intro payload member
    simpa using List.mem_takeWhile_imp member
  have split : (payloads.takeWhile fun payload : Bytes => payload.length ≤ limit) ++
      (payloads.dropWhile fun payload : Bytes => payload.length ≤ limit) = payloads :=
    List.takeWhile_append_dropWhile
  cases dropped : payloads.dropWhile fun payload : Bytes => payload.length ≤ limit with
  | nil =>
      rw [dropped, List.append_nil] at split
      rw [split] at allowed ⊢
      rw [response_messages, ← flatMap_lengthPrefixed, documented.decodes _ _ _ allowed unfinished]
      exact filterMap_decode payloads
  | cons large others =>
      have tooLarge : limit < large.length := by
        have some : (payloads.dropWhile fun payload : Bytes => payload.length ≤ limit) ≠ [] := by
          rw [dropped]
          exact List.cons_ne_nil _ _
        have stopped := List.head_dropWhile_not _ some
        simpa [dropped] using stopped
      rw [dropped] at split
      have shortLarge : large.length < 2 ^ 32 := by
        apply short
        rw [← split]
        exact List.mem_append_right _ List.mem_cons_self
      have whole : uncompressed.encodeAll payloads ++ rest =
          (payloads.takeWhile fun payload : Bytes => payload.length ≤ limit).flatMap
            lengthPrefixed ++ (lengthPrefixed large ++ (uncompressed.encodeAll others ++ rest)) := by
        conv_lhs => rw [← split]
        rw [uncompressed.encodeAll_append, uncompressed.encodeAll_cons, flatMap_lengthPrefixed]
        rw [lengthPrefixed_eq]
        simp only [List.append_assoc]
        rfl
      rw [response_messages, whole, documented.stops _ _ _ _ allowed tooLarge shortLarge]
      exact filterMap_decode _

/-- From any part of a stream of messages, the client gets messages at its beginning. -/
theorem response_messages_prefix (documented : tonic.Documented limit) {messages : List Bytes}
    {part : Bytes} (short : ∀ msg ∈ messages, msg.length < 2 ^ 32)
    (isPrefix : part <+: uncompressed.encodeAll messages) :
    tonic.response_messages part <+: messages := by
  rcases isPrefix with ⟨more, equal⟩
  have whole : part ++ more = uncompressed.encodeAll messages ++ [] := by
    rw [List.append_nil, equal]
  rcases uncompressed.decode_part_cases short whole with
    ⟨extra, rfl, remaining⟩ | ⟨decoded, item, later, left, rfl, _, rfl, leftPrefix, strict⟩
  · rcases List.append_eq_nil_iff.mp remaining with ⟨rfl, _⟩
    rw [documented.response_messages_eq short unfinished_nil]
    exact List.takeWhile_prefix _
  · have shortDecoded : ∀ msg ∈ decoded, msg.length < 2 ^ 32 := by
      intro msg member
      exact short msg (List.mem_append_left _ member)
    have shortItem : item.length < 2 ^ 32 := by
      apply short
      exact List.mem_append_right _ List.mem_cons_self
    have unfinished : Unfinished left := by
      refine ⟨item, shortItem, ?_, ?_⟩
      · rw [lengthPrefixed_eq]
        exact leftPrefix
      · rw [lengthPrefixed_eq]
        exact strict
    rw [documented.response_messages_eq shortDecoded unfinished]
    exact (List.takeWhile_prefix _).trans (List.prefix_append _ _)

/-- All of them, if the whole stream is there and no message is too large. -/
theorem response_messages_all (documented : tonic.Documented limit) {messages : List Bytes}
    (allowed : ∀ msg ∈ messages, msg.length ≤ limit) :
    tonic.response_messages (uncompressed.encodeAll messages) = messages := by
  have short : ∀ msg ∈ messages, msg.length < 2 ^ 32 := by
    intro msg member
    exact Nat.lt_of_le_of_lt (allowed msg member) documented.small
  have all := documented.response_messages_eq short unfinished_nil
  rw [List.append_nil] at all
  rw [all]
  apply List.takeWhile_eq_self_iff.mpr
  simpa using allowed

end Tonic.Documented

/-- tonic with a limit, for as far as it is documented. -/
def Tonic.withLimit (limit : Nat) : Tonic where
  encode_item encode := lengthPrefixed (encode [])
  decode_body decode body :=
    ((uncompressed.decode body).1.takeWhile fun payload => payload.length ≤ limit).filterMap
      fun payload => (decode payload).1

theorem Unfinished.next_eq_none (unfinished : Unfinished rest) : uncompressed.next rest = none := by
  rcases unfinished with ⟨payload, short, isPrefix, strict⟩
  rw [lengthPrefixed_eq] at isPrefix strict
  exact uncompressed.next_eq_none_of_strictPrefix short isPrefix strict

theorem Tonic.withLimit_encode_item (limit : Nat) (encode : Bytes → Bytes) :
    (Tonic.withLimit limit).encode_item encode = lengthPrefixed (encode []) := rfl

theorem Tonic.withLimit_decode_body (limit : Nat) (decode : Bytes → Option Bytes × Bytes)
    (body : Bytes) : (Tonic.withLimit limit).decode_body decode body =
      ((uncompressed.decode body).1.takeWhile fun payload => payload.length ≤ limit).filterMap
        fun payload => (decode payload).1 := rfl

theorem Tonic.withLimit_documented (small : limit < 2 ^ 32) :
    (Tonic.withLimit limit).Documented limit := by
  have shorter : ∀ payloads : List Bytes, (∀ payload ∈ payloads, payload.length ≤ limit) →
      ∀ payload ∈ payloads, payload.length < 2 ^ 32 := by
    intro payloads allowed payload member
    exact Nat.lt_of_le_of_lt (allowed payload member) small
  constructor
  · exact small
  · intro encode payload writes _
    rw [withLimit_encode_item, writes [], List.nil_append]
  · intro decode payloads rest allowed unfinished
    have decoded := uncompressed.decode_encodeAll_append (shorter payloads allowed) rest
    rw [uncompressed.decode_of_next_eq_none unfinished.next_eq_none, List.append_nil] at decoded
    have all : payloads.takeWhile (fun payload : Bytes => payload.length ≤ limit) = payloads := by
      apply List.takeWhile_eq_self_iff.mpr
      simpa using allowed
    rw [withLimit_decode_body, flatMap_lengthPrefixed, decoded, all]
  · intro decode payloads large rest allowed tooLarge short
    have first := uncompressed.decode_encode_append short rest
    have decoded := uncompressed.decode_encodeAll_append (shorter payloads allowed)
      (uncompressed.encode large ++ rest)
    have stops : (payloads ++ large :: (uncompressed.decode rest).1).takeWhile
        (fun payload : Bytes => payload.length ≤ limit) = payloads := by
      rw [List.takeWhile_append_of_pos (by simpa using allowed)]
      have stopped : ¬ large.length ≤ limit := by omega
      rw [List.takeWhile_cons, decide_eq_false stopped, if_neg Bool.false_ne_true, List.append_nil]
    rw [first] at decoded
    have frame : lengthPrefixed large = uncompressed.encode large := lengthPrefixed_eq large
    rw [withLimit_decode_body, flatMap_lengthPrefixed, frame, decoded, stops]

end Zpr.EndToEnd
