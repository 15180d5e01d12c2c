import Zpr.Protobuf.MessageJson

namespace Zpr.Protobuf

open Ffi

/-! # Messages from JSON text

prost-reflect takes one value off the text; what stands after it is asked for
separately. -/

/-- A deserializer is text that is partly read. -/
structure Reader (Descriptor Message Deserializer : Type u) where
  /-- `serde_json::Deserializer::from_str` -/
  from_str : String → Deserializer
  /-- `DynamicMessage::deserialize`, with what is left -/
  deserialize : Descriptor → Deserializer → Except String (Message × Deserializer)
  /-- `Deserializer::end` -/
  end_ : Deserializer → Except String Unit
  encode_to_vec : Message → Bytes

variable {Pool Descriptor Message Deserializer : Type u}

/-- What a call answers that encodes a message. `out` is what stands in the caller's
buffer, where there is one. -/
structure Encoded where
  rc : Int
  out : Option Bytes
  last_error : Option String
  deriving DecidableEq, Repr

/-- The failures leave the buffer empty. -/
def Encoded.failed (out : Pointer) (error : String) : Encoded where
  rc := ZPR_ERR
  out := out.store []
  last_error := some error

def zpr_protobuf_json_to_binary (lib : Libraries Pool Descriptor Message)
    (reader : Reader Descriptor Message Deserializer) (pool : Option Pool)
    (message_type json : Option Bytes) (out : Pointer) : Encoded :=
  match pool with
  | none => .failed out "null descriptor pool handle"
  | some pool =>
      match cstr_to_str message_type with
      | .error e => .failed out e
      | .ok message_type =>
          match cstr_to_str json with
          | .error e => .failed out e
          | .ok json =>
              match lib.get_message_by_name pool message_type with
              | none =>
                  .failed out s!"unknown message type {lib.debug message_type} in descriptor pool"
              | some descriptor =>
                  match reader.deserialize descriptor (reader.from_str json) with
                  | .error e =>
                      .failed out s!"failed to encode {lib.debug message_type} from JSON: {e}"
                  | .ok (dynamic, de) =>
                      match reader.end_ de with
                      | .error e =>
                          .failed out s!"trailing data after JSON for {lib.debug message_type}: {e}"
                      | .ok () =>
                          { rc := ZPR_OK, out := out.store (reader.encode_to_vec dynamic)
                            last_error := none }

section

variable {lib : Libraries Pool Descriptor Message}
  {reader : Reader Descriptor Message Deserializer} {pool : Pool} {name text : String}
  {descriptor : Descriptor}

/-- The type is known: what is left decides about a text that begins with a message. -/
theorem json_to_binary_of_known (known : lib.get_message_by_name pool name = some descriptor)
    (out : Pointer) :
    zpr_protobuf_json_to_binary lib reader (some pool) (some (cstr name)) (some (cstr text))
        out =
      match reader.deserialize descriptor (reader.from_str text) with
      | .error e => .failed out s!"failed to encode {lib.debug name} from JSON: {e}"
      | .ok (message, rest) =>
          match reader.end_ rest with
          | .error e => .failed out s!"trailing data after JSON for {lib.debug name}: {e}"
          | .ok () =>
              { rc := ZPR_OK, out := out.store (reader.encode_to_vec message)
                last_error := none } := by
  simp only [zpr_protobuf_json_to_binary, cstr_to_str_cstr, known]

/-- A text is encoded exactly if it is one value, and that value a message. -/
theorem json_to_binary_iff (known : lib.get_message_by_name pool name = some descriptor)
    {bytes : Bytes} :
    zpr_protobuf_json_to_binary lib reader (some pool) (some (cstr name)) (some (cstr text))
        .valid = { rc := ZPR_OK, out := some bytes, last_error := none } ↔
      ∃ message rest,
        reader.deserialize descriptor (reader.from_str text) = .ok (message, rest) ∧
          reader.end_ rest = .ok () ∧ reader.encode_to_vec message = bytes := by
  rw [json_to_binary_of_known known]
  cases read : reader.deserialize descriptor (reader.from_str text) with
  | error e => simp [Encoded.failed]
  | ok found =>
      rcases found with ⟨message, rest⟩
      cases ended : reader.end_ rest with
      | error e => simp [Encoded.failed, ended]
      | ok => simp [Pointer.store, ended]

end

end Zpr.Protobuf
