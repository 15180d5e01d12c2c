import Zpr.Ffi

namespace Zpr.Json

open Ffi

/-! # JSON trees

A tree is a `serde_json::Value`; a float is given by its bits. Text is read and written
by serde_json, which comes from the outside. -/

inductive Number
  | PosInt (n : Nat)
  | NegInt (n : Int)
  | Float (bits : UInt64)
  deriving DecidableEq, Repr

def Number.ofInt : Int → Number
  | .ofNat n => .PosInt n
  | .negSucc n => .NegInt (.negSucc n)

inductive Value
  | Null
  | Bool (b : Bool)
  | Number (n : Number)
  | String (s : String)
  | Array (elements : List Value)
  /-- the fields in the order of their names -/
  | Object (fields : List (String × Value))
  deriving Repr

/-- `zpr_json_parse`, which answers with a handle or stores an error. -/
def zpr_json_parse (from_str : String → Except String Value) (text : Option Bytes) :
    Except String Value :=
  match cstr_to_str text with
  | .error e => .error e
  | .ok text =>
      match from_str text with
      | .ok v => .ok v
      | .error e => .error s!"json parse error: {e}"

theorem zpr_json_parse_cstr {from_str : String → Except String Value} {text : String}
    {tree : Value} (read : from_str text = .ok tree) :
    zpr_json_parse from_str (some (cstr text)) = .ok tree := by
  rw [zpr_json_parse, cstr_to_str_cstr]
  simp only [read]

end Zpr.Json
