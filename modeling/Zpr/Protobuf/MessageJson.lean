import Zpr.Json

namespace Zpr.Protobuf

open Ffi Json

/-! # Messages as JSON

Two ways lead from the bytes of a message to its JSON tree: through a text that is parsed
again, and directly. prost-reflect and serde_json come from the outside. -/

/-- The option that is set here. The others have their defaults on both ways. -/
structure SerializeOptions where
  stringify_64_bit_integers : Bool

def SerializeOptions.new : SerializeOptions where
  stringify_64_bit_integers := true

/-- What prost-reflect shows of a message. The options decide about the 64-bit integers, and
the serializers of serde_json differ about the 32-bit floats, which are given by their bits.
Any other leaf is shown in one way. -/
inductive Rendering
  | plain (value : Value)
  | integer64 (n : Int)
  | float32 (bits : UInt32)
  | array (elements : List Rendering)
  | object (fields : List (String × Rendering))

/-- What becomes of a finite 32-bit float. -/
structure Float32s where
  /-- `f as f64`, which the serializer of values takes -/
  widened : UInt32 → UInt64
  /-- the double that is read from its shortest digits, which the serializer of text writes -/
  reread : UInt32 → UInt64

mutual

/-- The tree, where `double` stands for a 32-bit float. -/
def Rendering.serialize (opts : SerializeOptions) (double : UInt32 → UInt64) : Rendering → Value
  | .plain value => value
  | .integer64 n =>
      if opts.stringify_64_bit_integers then .String (toString n) else .Number (.ofInt n)
  | .float32 bits => .Number (.Float (double bits))
  | .array elements => .Array (serializeElements opts double elements)
  | .object fields => .Object (serializeFields opts double fields)

def serializeElements (opts : SerializeOptions) (double : UInt32 → UInt64) :
    List Rendering → List Value
  | [] => []
  | element :: elements =>
      element.serialize opts double :: serializeElements opts double elements

def serializeFields (opts : SerializeOptions) (double : UInt32 → UInt64) :
    List (String × Rendering) → List (String × Value)
  | [] => []
  | (name, field) :: fields =>
      (name, field.serialize opts double) :: serializeFields opts double fields

end

mutual

/-- Somewhere in it, at any depth, there is a 64-bit integer, or a 32-bit float whose digits
are read as another double. -/
def Rendering.differs (floats : Float32s) : Rendering → Bool
  | .plain _ => false
  | .integer64 _ => true
  | .float32 bits => floats.reread bits != floats.widened bits
  | .array elements => elementsDiffer floats elements
  | .object fields => fieldsDiffer floats fields

def elementsDiffer (floats : Float32s) : List Rendering → Bool
  | [] => false
  | element :: elements => element.differs floats || elementsDiffer floats elements

def fieldsDiffer (floats : Float32s) : List (String × Rendering) → Bool
  | [] => false
  | (_, field) :: fields => field.differs floats || fieldsDiffer floats fields

end

/-- The two libraries, as far as they are used. -/
structure Libraries (Pool Descriptor Message : Type u) where
  get_message_by_name : Pool → String → Option Descriptor
  /-- `DynamicMessage::decode` -/
  decode : Descriptor → Bytes → Except String Message
  render : Message → Except String Rendering
  floats : Float32s
  /-- the text that serde_json writes of what is shown -/
  write : SerializeOptions → Rendering → String
  /-- `Value::to_string` -/
  to_string : Value → String
  /-- `serde_json::from_str` -/
  from_str : String → Except String Value
  /-- a text as `{:?}` formats it -/
  debug : String → String

variable {Pool Descriptor Message : Type u}

/-- The handle or `NULL`, with the error that is stored. A null `data` is no bytes. -/
def zpr_protobuf_binary_to_json_value (lib : Libraries Pool Descriptor Message)
    (pool : Option Pool) (message_type data : Option Bytes) : Except String Value :=
  match pool with
  | none => .error "null descriptor pool handle"
  | some pool =>
      match cstr_to_str message_type with
      | .error e => .error e
      | .ok type_name =>
          match lib.get_message_by_name pool type_name with
          | none => .error s!"no message type {lib.debug type_name} in the descriptor set"
          | some desc =>
              match lib.decode desc (data.getD []) with
              | .error e => .error s!"bytes are not a valid {type_name}: {e}"
              | .ok msg =>
                  match lib.render msg with
                  | .error e => .error s!"could not build a JSON value from {type_name}: {e}"
                  | .ok rendering =>
                      .ok (rendering.serialize { stringify_64_bit_integers := false }
                        lib.floats.widened)

/-- The text or `NULL`, with the error that is stored. -/
def zpr_protobuf_binary_to_json (lib : Libraries Pool Descriptor Message)
    (pool : Option Pool) (message_type data : Option Bytes) : Except String String :=
  match pool with
  | none => .error "null descriptor pool handle"
  | some pool =>
      match cstr_to_str message_type with
      | .error e => .error e
      | .ok message_type =>
          match lib.get_message_by_name pool message_type with
          | none => .error s!"unknown message type {lib.debug message_type} in descriptor pool"
          | some descriptor =>
              match lib.decode descriptor (data.getD []) with
              | .error e => .error s!"failed to decode {lib.debug message_type}: {e}"
              | .ok dynamic =>
                  match lib.render dynamic with
                  | .error e => .error s!"failed to render {lib.debug message_type} as JSON: {e}"
                  | .ok rendering =>
                      -- `DynamicMessage` serializes itself with the default options
                      .ok (string_to_cstring_ptr (lib.write .new rendering))

mutual

/-- The two trees are one exactly where nothing differs. -/
theorem Rendering.serialize_eq_iff (floats : Float32s) (rendering : Rendering) :
    rendering.serialize .new floats.reread =
        rendering.serialize { stringify_64_bit_integers := false } floats.widened ↔
      rendering.differs floats = false := by
  cases rendering with
  | plain value => simp [Rendering.serialize, Rendering.differs]
  | integer64 n => simp [Rendering.serialize, Rendering.differs, SerializeOptions.new]
  | float32 bits => simp [Rendering.serialize, Rendering.differs]
  | array elements =>
      simp only [Rendering.serialize, Rendering.differs, Value.Array.injEq]
      exact serializeElements_eq_iff floats elements
  | object fields =>
      simp only [Rendering.serialize, Rendering.differs, Value.Object.injEq]
      exact serializeFields_eq_iff floats fields

theorem serializeElements_eq_iff (floats : Float32s) (elements : List Rendering) :
    serializeElements .new floats.reread elements =
        serializeElements { stringify_64_bit_integers := false } floats.widened elements ↔
      elementsDiffer floats elements = false := by
  cases elements with
  | nil => simp [serializeElements, elementsDiffer]
  | cons element elements =>
      simp only [serializeElements, elementsDiffer, List.cons.injEq, Bool.or_eq_false_iff]
      exact and_congr (element.serialize_eq_iff floats)
        (serializeElements_eq_iff floats elements)

theorem serializeFields_eq_iff (floats : Float32s) (fields : List (String × Rendering)) :
    serializeFields .new floats.reread fields =
        serializeFields { stringify_64_bit_integers := false } floats.widened fields ↔
      fieldsDiffer floats fields = false := by
  cases fields with
  | nil => simp [serializeFields, fieldsDiffer]
  | cons field fields =>
      simp only [serializeFields, fieldsDiffer, List.cons.injEq, Prod.mk.injEq, true_and,
        Bool.or_eq_false_iff]
      exact and_congr (field.2.serialize_eq_iff floats) (serializeFields_eq_iff floats fields)

end

/-- What prost-reflect shows of the bytes, where they are a message that can be shown. -/
def shown (lib : Libraries Pool Descriptor Message) (pool : Option Pool)
    (message_type data : Option Bytes) : Option Rendering :=
  match pool, cstr_to_str message_type with
  | some pool, .ok name =>
      match lib.get_message_by_name pool name with
      | none => none
      | some descriptor =>
          match lib.decode descriptor (data.getD []) with
          | .error _ => none
          | .ok message => (lib.render message).toOption
  | _, _ => none

section

variable {lib : Libraries Pool Descriptor Message} {pool : Option Pool}
  {message_type data : Option Bytes}

theorem binary_to_json_value_iff {value : Value} :
    zpr_protobuf_binary_to_json_value lib pool message_type data = .ok value ↔
      ∃ rendering, shown lib pool message_type data = some rendering ∧
        value = rendering.serialize { stringify_64_bit_integers := false }
          lib.floats.widened := by
  cases pool with
  | none => simp [zpr_protobuf_binary_to_json_value, shown]
  | some pool =>
      cases named : cstr_to_str message_type with
      | error e => simp [zpr_protobuf_binary_to_json_value, shown, named]
      | ok name =>
          cases found : lib.get_message_by_name pool name with
          | none => simp [zpr_protobuf_binary_to_json_value, shown, named, found]
          | some descriptor =>
              cases decoded : lib.decode descriptor (data.getD []) with
              | error e => simp [zpr_protobuf_binary_to_json_value, shown, named, found, decoded]
              | ok message =>
                  cases rendered : lib.render message with
                  | error e =>
                      simp [zpr_protobuf_binary_to_json_value, shown, named, found, decoded,
                        rendered, Except.toOption]
                  | ok rendering =>
                      simp [zpr_protobuf_binary_to_json_value, shown, named, found, decoded,
                        rendered, Except.toOption, eq_comm]

theorem binary_to_json_iff {text : String} :
    zpr_protobuf_binary_to_json lib pool message_type data = .ok text ↔
      ∃ rendering, shown lib pool message_type data = some rendering ∧
        text = string_to_cstring_ptr (lib.write .new rendering) := by
  cases pool with
  | none => simp [zpr_protobuf_binary_to_json, shown]
  | some pool =>
      cases named : cstr_to_str message_type with
      | error e => simp [zpr_protobuf_binary_to_json, shown, named]
      | ok name =>
          cases found : lib.get_message_by_name pool name with
          | none => simp [zpr_protobuf_binary_to_json, shown, named, found]
          | some descriptor =>
              cases decoded : lib.decode descriptor (data.getD []) with
              | error e => simp [zpr_protobuf_binary_to_json, shown, named, found, decoded]
              | ok message =>
                  cases rendered : lib.render message with
                  | error e =>
                      simp [zpr_protobuf_binary_to_json, shown, named, found, decoded,
                        rendered, Except.toOption]
                  | ok rendering =>
                      simp [zpr_protobuf_binary_to_json, shown, named, found, decoded,
                        rendered, Except.toOption, eq_comm]

end

/-- Both ways succeed or none does, and the text is read as the tree that is built. -/
def PathsAgree (lib : Libraries Pool Descriptor Message) (pool : Option Pool)
    (message_type data : Option Bytes) : Prop :=
  ((∃ value, zpr_protobuf_binary_to_json_value lib pool message_type data = .ok value) ↔
    ∃ text, zpr_protobuf_binary_to_json lib pool message_type data = .ok text) ∧
  ∀ value text, zpr_protobuf_binary_to_json_value lib pool message_type data = .ok value →
    zpr_protobuf_binary_to_json lib pool message_type data = .ok text →
    zpr_json_parse lib.from_str (some (cstr text)) = .ok value

/-- What serde_json writes of the message that is shown has no NUL, and is read as the same
tree, with the doubles that the digits of its 32-bit floats stand for. -/
def ReadsBack (lib : Libraries Pool Descriptor Message) (pool : Option Pool)
    (message_type data : Option Bytes) : Prop :=
  ∀ rendering, shown lib pool message_type data = some rendering →
    '\x00' ∉ (lib.write .new rendering).toList ∧
      lib.from_str (lib.write .new rendering) =
        .ok (rendering.serialize .new lib.floats.reread)

theorem paths_agree_iff (lib : Libraries Pool Descriptor Message) (pool : Option Pool)
    (message_type data : Option Bytes) (readsBack : ReadsBack lib pool message_type data) :
    PathsAgree lib pool message_type data ↔
      ∀ rendering, shown lib pool message_type data = some rendering →
        rendering.differs lib.floats = false := by
  have parsed : ∀ rendering, shown lib pool message_type data = some rendering →
      zpr_json_parse lib.from_str (some (cstr
        (string_to_cstring_ptr (lib.write .new rendering)))) =
        .ok (rendering.serialize .new lib.floats.reread) := by
    intro rendering isShown
    rcases readsBack rendering isShown with ⟨noNul, read⟩
    rw [string_to_cstring_ptr_eq noNul]
    exact zpr_json_parse_cstr read
  constructor
  · intro agree rendering isShown
    rw [← rendering.serialize_eq_iff]
    have same := agree.2 _ _ (binary_to_json_value_iff.mpr ⟨rendering, isShown, rfl⟩)
      (binary_to_json_iff.mpr ⟨rendering, isShown, rfl⟩)
    rw [parsed rendering isShown] at same
    exact Except.ok.inj same
  · intro alike
    constructor
    · constructor
      · rintro ⟨value, built⟩
        rcases binary_to_json_value_iff.mp built with ⟨rendering, isShown, _⟩
        exact ⟨_, binary_to_json_iff.mpr ⟨rendering, isShown, rfl⟩⟩
      · rintro ⟨text, written⟩
        rcases binary_to_json_iff.mp written with ⟨rendering, isShown, _⟩
        exact ⟨_, binary_to_json_value_iff.mpr ⟨rendering, isShown, rfl⟩⟩
    · intro value text built written
      rcases binary_to_json_value_iff.mp built with ⟨rendering, isShown, rfl⟩
      rcases binary_to_json_iff.mp written with ⟨other, otherShown, rfl⟩
      cases Option.some.inj (isShown.symm.trans otherShown)
      rw [parsed rendering isShown,
        (rendering.serialize_eq_iff lib.floats).mpr (alike rendering isShown)]

/-- The floats 0.0 and 0.5, whose digits are read as what they are. -/
def halves : Float32s where
  widened := fun bits => if bits = 0 then 0 else 0x3FE0000000000000
  reread := fun bits => if bits = 0 then 0 else 0x3FE0000000000000

/-- A pool with one message type, `sapphire.v1.Counter`, which has one field `int64 id = 1`. -/
def counters : Libraries Unit Unit Nat where
  get_message_by_name := fun _ name => if name = "sapphire.v1.Counter" then some () else none
  decode := fun _ bytes =>
    match bytes with
    | [] => .ok 0
    | [8, n] => if n < 128 then .ok n.toNat else .error "invalid varint"
    | _ => .error "buffer underflow"
  render := fun id => .ok (.object (if id = 0 then [] else [("id", .integer64 id)]))
  floats := halves
  write := fun opts rendering =>
    match rendering with
    | .object [("id", .integer64 id)] =>
        if opts.stringify_64_bit_integers then "\x7b\"id\":\"" ++ toString id ++ "\"\x7d"
        else "\x7b\"id\":" ++ toString id ++ "\x7d"
    | _ => "{}"
  to_string := fun _ => "{}"
  from_str := fun text =>
    if text = "{}" then .ok (.Object [])
    else if text = "\x7b\"id\":\"5\"\x7d" then .ok (.Object [("id", .String "5")])
    else .error "expected value at line 1 column 1"
  debug := String.quote

theorem counters_shows_five :
    shown counters (some ()) (some (cstr "sapphire.v1.Counter")) (some [8, 5]) =
      some (.object [("id", .integer64 5)]) := by
  simp only [shown, cstr_to_str_cstr]
  rfl

theorem paths_agree_iff_for_five :
    PathsAgree counters (some ()) (some (cstr "sapphire.v1.Counter")) (some [8, 5]) ↔
      ∀ rendering, shown counters (some ()) (some (cstr "sapphire.v1.Counter")) (some [8, 5]) =
        some rendering → rendering.differs halves = false := by
  apply paths_agree_iff
  intro rendering isShown
  cases Option.some.inj (counters_shows_five.symm.trans isShown)
  constructor
  · decide
  · rfl

/-- One way shows the string `"5"`, the other one the number. -/
theorem integer64_differs :
    ¬ PathsAgree counters (some ()) (some (cstr "sapphire.v1.Counter")) (some [8, 5]) := by
  intro agree
  have same := agree.2 _ _ (binary_to_json_value_iff.mpr ⟨_, counters_shows_five, rfl⟩)
    (binary_to_json_iff.mpr ⟨_, counters_shows_five, rfl⟩)
  have read : counters.from_str "\x7b\"id\":\"5\"\x7d" = .ok (.Object [("id", .String "5")]) := rfl
  have parsed := (zpr_json_parse_cstr read).symm.trans same
  simp [Rendering.serialize, serializeFields] at parsed

end Zpr.Protobuf
