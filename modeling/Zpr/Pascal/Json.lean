import Zpr.Foundation.Execution
import Zpr.Json.Handles

namespace Zpr.Pascal.Json

open Ffi Zpr.Json

/-! # JSON values in Object Pascal

An instance of `TZprJson` wraps a handle and says whether it owns it. A program makes
instances, uses them and frees them. Every exception is caught by the program. -/

structure TZprJson where
  FHandle : Handle
  FOwnsHandle : Bool
  deriving DecidableEq, Repr

/-- What a program works on. -/
structure Memory where
  heap : Heap
  LAST_ERROR : Option String
  /-- in the order in which they were made: `none` stands where one was freed -/
  instances : List (Option TZprJson)
  /-- what has been done that has no defined meaning -/
  fault : Option Fault

def Memory.start : Memory where
  heap := []
  LAST_ERROR := none
  instances := []
  fault := none

/-- How an operation ends. -/
inductive Outcome
  | created (id : Nat)
  | done
  | text (S : Bytes)
  /-- an exception with its message -/
  | raised (message : String)
  | undefined (fault : Fault)
  deriving DecidableEq, Repr

/-- An instance is named by the number of instances made before it. -/
inductive Operation
  | Parse (AJson : Bytes)
  | NewNull
  | NewBool (AValue : Bool)
  | NewFloat (AValue : F64)
  | NewString (AValue : Bytes)
  | NewArray
  | NewObject
  | GetItem (self : Nat) (AIndex : Nat)
  | GetField (self : Nat) (AKey : Bytes)
  | Push (self AValue : Nat)
  | SetField (self : Nat) (AKey : Bytes) (AValue : Nat)
  | ToJson (self : Nat) (APretty : Bool)
  | Free (self : Nat)

/-- A C string ends at the first NUL. -/
def Utf8Ptr (S : Bytes) : Option Bytes := some (S.takeWhile (· ≠ 0))

/-- `UTF8String(AnsiString(P))` of the bytes of a C string: what the run-time library makes
of them depends on the default system code page. -/
abbrev FromAnsi := Bytes → Bytes

def TakeString (fromAnsi : FromAnsi) (P : Option String) : Bytes :=
  match P with
  | none => []
  | some s => fromAnsi (cstr s)

namespace Memory

variable (serde : Serde) (fromAnsi : FromAnsi) (memory : Memory)

def find (id : Nat) : Option TZprJson := (memory.instances[id]?).join

/-- What the library leaves behind. -/
def called (answer : Answer Result) : Memory :=
  { memory with heap := answer.heap, LAST_ERROR := answer.last_error.or memory.LAST_ERROR }

def LastError : String := memory.LAST_ERROR.getD ""

/-- `CreateFromHandle(H, True)` -/
def create (H : Handle) : Memory × Outcome :=
  ({ memory with instances := memory.instances ++ [some ⟨H, true⟩] },
    .created memory.instances.length)

def Parse (AJson : Bytes) : Memory × Outcome :=
  let answer := zpr_json_parse_handle serde memory.heap (Utf8Ptr AJson)
  let memory := memory.called answer
  match answer.result with
  | none => (memory, .raised memory.LastError)
  | some H => memory.create (some H)

/-- The constructors that wrap whatever handle they are given. -/
def New (answer : Answer Handle) : Memory × Outcome :=
  (memory.called answer).create answer.result

def NewNull : Memory × Outcome := memory.New (zpr_json_new_null memory.heap)

def NewBool (AValue : Bool) : Memory × Outcome :=
  memory.New (zpr_json_new_bool memory.heap (if AValue then 1 else 0))

def NewFloat (AValue : F64) : Memory × Outcome :=
  memory.New (zpr_json_new_f64 memory.heap AValue)

def NewString (AValue : Bytes) : Memory × Outcome :=
  memory.New (zpr_json_new_string memory.heap (Utf8Ptr AValue))

def NewArray : Memory × Outcome := memory.New (zpr_json_new_array memory.heap)

def NewObject : Memory × Outcome := memory.New (zpr_json_new_object memory.heap)

/-- The getters that raise a message of their own instead of a null handle. -/
def Get (error : String) (answer : Answer Handle) : Memory × Outcome :=
  match answer.result with
  | none => (memory.called answer, .raised error)
  | some H => (memory.called answer).create (some H)

/-- A UTF-8 string as the text of a message. -/
def textOf (S : Bytes) : String := (String.fromUTF8? ⟨S.toArray⟩).getD ""

def GetItem (self : TZprJson) (AIndex : Nat) : Except Fault (Memory × Outcome) :=
  (zpr_json_array_get memory.heap self.FHandle AIndex).map
    (memory.Get s!"zpr: no array element at index {AIndex}")

def GetField (self : TZprJson) (AKey : Bytes) : Except Fault (Memory × Outcome) :=
  (zpr_json_object_get memory.heap self.FHandle (Utf8Ptr AKey)).map
    (memory.Get s!"zpr: no object field \"{textOf AKey}\"")

/-- `Check`, and then `AValue.FOwnsHandle := False`. -/
def handOver (AValue : Nat) (value : TZprJson) (answer : Answer Int) : Memory × Outcome :=
  let memory := memory.called answer
  if answer.result ≠ ZPR_OK then
    (memory, .raised memory.LastError)
  else
    ({ memory with
        instances := memory.instances.set AValue (some { value with FOwnsHandle := false }) },
      .done)

def Push (self : TZprJson) (AValue : Nat) (value : TZprJson) : Except Fault (Memory × Outcome) :=
  (zpr_json_array_push memory.heap self.FHandle value.FHandle).map
    (memory.handOver AValue value)

def SetField (self : TZprJson) (AKey : Bytes) (AValue : Nat) (value : TZprJson) :
    Except Fault (Memory × Outcome) :=
  (zpr_json_object_set memory.heap self.FHandle (Utf8Ptr AKey) value.FHandle).map
    (memory.handOver AValue value)

def ToJson (self : TZprJson) (APretty : Bool) : Except Fault (Memory × Outcome) :=
  (zpr_json_stringify serde memory.heap self.FHandle (if APretty then 1 else 0)).map
    fun answer => (memory.called answer, .text (TakeString fromAnsi answer.result))

/-- `Destroy`, after which the instance is no more. -/
def Free (id : Nat) (self : TZprJson) : Except Fault (Memory × Outcome) :=
  let destroyed (memory : Memory) : Memory × Outcome :=
    ({ memory with instances := memory.instances.set id none }, .done)
  if self.FOwnsHandle ∧ self.FHandle ≠ none then
    (zpr_json_free memory.heap self.FHandle).map fun answer => destroyed (memory.called answer)
  else
    .ok (destroyed memory)

def finish : Except Fault (Memory × Outcome) → Memory × Outcome
  | .ok finished => finished
  | .error fault => ({ memory with fault := some fault }, .undefined fault)

end Memory

open Memory in
/-- One operation on instances that there are. Nothing is known of a program that has
done what has no defined meaning. -/
def step (serde : Serde) (fromAnsi : FromAnsi) : PartialStep Memory Operation Outcome :=
    fun memory operation =>
  if memory.fault.isSome then none
  else
    match operation with
    | .Parse AJson => some (memory.Parse serde AJson)
    | .NewNull => some memory.NewNull
    | .NewBool AValue => some (memory.NewBool AValue)
    | .NewFloat AValue => some (memory.NewFloat AValue)
    | .NewString AValue => some (memory.NewString AValue)
    | .NewArray => some memory.NewArray
    | .NewObject => some memory.NewObject
    | .GetItem id AIndex =>
        (memory.find id).map fun self => memory.finish (memory.GetItem self AIndex)
    | .GetField id AKey =>
        (memory.find id).map fun self => memory.finish (memory.GetField self AKey)
    | .Push id AValue =>
        (memory.find id).bind fun self =>
          (memory.find AValue).map fun value => memory.finish (memory.Push self AValue value)
    | .SetField id AKey AValue =>
        (memory.find id).bind fun self =>
          (memory.find AValue).map fun value =>
            memory.finish (memory.SetField self AKey AValue value)
    | .ToJson id APretty =>
        (memory.find id).map fun self => memory.finish (memory.ToJson serde fromAnsi self APretty)
    | .Free id => (memory.find id).map fun self => memory.finish (memory.Free id self)

end Zpr.Pascal.Json
