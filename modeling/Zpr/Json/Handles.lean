import Zpr.Json

namespace Zpr.Json

open Ffi

/-! # JSON handles

A handle names a box on the heap, or is null. Every entry point is given the heap that it
finds. What it makes of a box that has been freed is undefined. -/

/-- The boxes in the order in which they were made: `none` stands where one was freed. -/
abbrev Heap := List (Option Value)

abbrev Handle := Option Nat

inductive Fault
  /-- a freed box is read or written -/
  | touched (box : Nat)
  /-- a freed box is freed again -/
  | freedAgain (box : Nat)
  deriving DecidableEq, Repr

/-- What an entry point leaves behind, with the message that it stored. -/
structure Answer (Result : Type) where
  heap : Heap
  result : Result
  last_error : Option String

def Heap.read (heap : Heap) (box : Nat) : Except Fault Value :=
  match heap[box]? with
  | some (some v) => .ok v
  | _ => .error (.touched box)

/-- `Box::into_raw` of a new box. -/
def Heap.into_raw (heap : Heap) (v : Value) : Answer Handle where
  heap := heap ++ [some v]
  result := some heap.length
  last_error := none

/-- `Box::from_raw`, which takes the value out of the box and frees it. -/
def Heap.from_raw (heap : Heap) (box : Nat) : Except Fault (Value × Heap) :=
  match heap[box]? with
  | some (some v) => .ok (v, heap.set box none)
  | _ => .error (.freedAgain box)

/-- A result that leaves the boxes alone and stores nothing. -/
def Heap.silent (heap : Heap) (result : Result) : Answer Result where
  heap := heap
  result := result
  last_error := none

def Heap.failed (heap : Heap) (result : Result) (error : String) : Answer Result where
  heap := heap
  result := result
  last_error := some error

/-- A copy in a new box, or null. -/
def Heap.cloned (heap : Heap) : Option Value → Answer Handle
  | some v => heap.into_raw v
  | none => heap.silent none

def handle_ref (heap : Heap) (h : Handle) : Except Fault (Option Value) :=
  match h with
  | none => .ok none
  | some box => (heap.read box).map some

/-! ## What a value is -/

def as_bool : Value → Option Bool
  | .Bool b => some b
  | _ => none

/-- An `f64`, by its bits. -/
abbrev F64 := UInt64

def isFinite (n : F64) : Bool := (n >>> 52) &&& 0x7FF != 0x7FF

def toFloat : Number → F64
  | .PosInt n => (Float.ofNat n).toBits
  | .NegInt n => (Float.ofInt n).toBits
  | .Float bits => bits

def as_f64 : Value → Option F64
  | .Number n => some (toFloat n)
  | _ => none

def as_str : Value → Option String
  | .String s => some s
  | _ => none

def as_array : Value → Option (List Value)
  | .Array elements => some elements
  | _ => none

def as_object : Value → Option (List (String × Value))
  | .Object fields => some fields
  | _ => none

/-- `JsonKind` -/
def kind : Value → Int
  | .Null => 0
  | .Bool _ => 1
  | .Number _ => 2
  | .String _ => 3
  | .Array _ => 4
  | .Object _ => 5

/-- `Map::insert`, which keeps the fields in the order of their names. -/
def insertField (key : String) (value : Value) : List (String × Value) → List (String × Value)
  | [] => [(key, value)]
  | (name, field) :: fields =>
      if key = name then (key, value) :: fields
      else if key < name then (key, value) :: (name, field) :: fields
      else (name, field) :: insertField key value fields

/-- `Number::from_f64`, which has none for what is not finite. -/
def from_f64 (n : F64) : Value :=
  if isFinite n then .Number (.Float n) else .Null

/-! ## The entry points -/

/-- How serde_json reads and writes. -/
structure Serde where
  from_str : String → Except String Value
  to_string : Value → Except String String
  to_string_pretty : Value → Except String String

section

variable (serde : Serde) (heap : Heap)

/-- `zpr_json_parse`, with the box of the value. -/
def zpr_json_parse_handle (text : Option Bytes) : Answer Handle :=
  match zpr_json_parse serde.from_str text with
  | .ok v => heap.into_raw v
  | .error e => heap.failed none e

def zpr_json_free (handle : Handle) : Except Fault (Answer Unit) :=
  match handle with
  | none => .ok (heap.silent ())
  | some box => (heap.from_raw box).map fun (_, heap) => heap.silent ()

def zpr_json_stringify (handle : Handle) (pretty : Int) :
    Except Fault (Answer (Option String)) :=
  (handle_ref heap handle).map fun v =>
    match v with
    | none => heap.failed none "null handle passed to zpr_json_stringify"
    | some v =>
        match if pretty ≠ 0 then serde.to_string_pretty v else serde.to_string v with
        | .ok s => heap.silent (some (string_to_cstring_ptr s))
        | .error e => heap.failed none s!"json stringify error: {e}"

def zpr_json_kind (handle : Handle) : Except Fault (Answer Int) :=
  (handle_ref heap handle).map fun v =>
    match v with
    | none => heap.silent (-1)
    | some v => heap.silent (kind v)

/-- The code, and what is stored through `out`. -/
def zpr_json_as_bool (handle : Handle) (out : Pointer) :
    Except Fault (Answer (Int × Option UInt8)) :=
  (handle_ref heap handle).map fun v =>
    match v.bind as_bool with
    | some b => heap.silent (ZPR_OK, out.store (if b then 1 else 0))
    | none => heap.silent (ZPR_ERR, none)

def zpr_json_as_f64 (handle : Handle) (out : Pointer) :
    Except Fault (Answer (Int × Option F64)) :=
  (handle_ref heap handle).map fun v =>
    match v.bind as_f64 with
    | some n => heap.silent (ZPR_OK, out.store n)
    | none => heap.silent (ZPR_ERR, none)

def zpr_json_as_string (handle : Handle) : Except Fault (Answer (Option String)) :=
  (handle_ref heap handle).map fun v =>
    heap.silent ((v.bind as_str).map string_to_cstring_ptr)

def zpr_json_array_len (handle : Handle) : Except Fault (Answer Int) :=
  (handle_ref heap handle).map fun v =>
    match v.bind as_array with
    | some a => heap.silent a.length
    | none => heap.silent (-1)

def zpr_json_array_get (handle : Handle) (index : Nat) : Except Fault (Answer Handle) :=
  (handle_ref heap handle).map fun v =>
    heap.cloned ((v.bind as_array).bind fun a => a[index]?)

def zpr_json_object_get (handle : Handle) (key : Option Bytes) : Except Fault (Answer Handle) :=
  match cstr_to_str key with
  | .error e => .ok (heap.failed none e)
  | .ok key =>
      (handle_ref heap handle).map fun v =>
        heap.cloned ((v.bind as_object).bind fun o => o.lookup key)

def zpr_json_object_keys (handle : Handle) : Except Fault (Answer (Option String)) :=
  (handle_ref heap handle).map fun v =>
    match v.bind as_object with
    | none => heap.silent none
    | some o =>
        match serde.to_string (.Array (o.map fun field => .String field.1)) with
        | .ok s => heap.silent (some (string_to_cstring_ptr s))
        | .error _ => heap.silent (some (string_to_cstring_ptr "[]"))

def zpr_json_new_null : Answer Handle := heap.into_raw .Null

def zpr_json_new_bool (b : UInt8) : Answer Handle := heap.into_raw (.Bool (b ≠ 0))

def zpr_json_new_f64 (n : F64) : Answer Handle := heap.into_raw (from_f64 n)

def zpr_json_new_string (s : Option Bytes) : Answer Handle :=
  match cstr_to_str s with
  | .ok s => heap.into_raw (.String s)
  | .error e => heap.failed none e

def zpr_json_new_array : Answer Handle := heap.into_raw (.Array [])

def zpr_json_new_object : Answer Handle := heap.into_raw (.Object [])

/-- The value is taken out of its box before the container is looked at. -/
def consume (container value : Nat) (put : Value → Value → Option Value) :
    Except Fault (Answer Int) :=
  match heap.from_raw value with
  | .error fault => .error fault
  | .ok (v, heap) =>
      (heap.read container).map fun c =>
        match put c v with
        | some c => { heap := heap.set container (some c), result := ZPR_OK, last_error := none }
        | none => heap.silent ZPR_ERR

def pushElement (array v : Value) : Option Value :=
  (as_array array).map fun a => .Array (a ++ [v])

def zpr_json_array_push (array value : Handle) : Except Fault (Answer Int) :=
  match array, value with
  | some array, some value => consume heap array value pushElement
  | _, _ => .ok (heap.silent ZPR_ERR)

def setField (key : String) (object v : Value) : Option Value :=
  (as_object object).map fun o => .Object (insertField key v o)

def zpr_json_object_set (object : Handle) (key : Option Bytes) (value : Handle) :
    Except Fault (Answer Int) :=
  match object, value with
  | some object, some value =>
      match cstr_to_str key with
      | .error e => .ok (heap.failed ZPR_ERR e)
      | .ok key => consume heap object value (setField key)
  | _, _ => .ok (heap.silent ZPR_ERR)

end

end Zpr.Json
