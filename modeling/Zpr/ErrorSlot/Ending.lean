import Zpr.Foundation.Execution
import Zpr.Ffi

namespace Zpr.ErrorSlot

open Ffi

/-! # The error slot of a thread

An entry point returns a result and may store a message in the slot of the thread that
calls it. A message stays there until the next one is stored. -/

/-- What an entry point returns, as far as it says whether the call has failed. -/
inductive Result
  /-- a code, of which the negative ones report a failure -/
  | code (rc : Int)
  /-- the code of an entry point that makes or opens a gRPC call, where everything but
  `GRPC_CALL_OK` reports a failure -/
  | outcome (rc : Int)
  /-- a handle or a string -/
  | pointer (p : Pointer)
  | length (n : Int)
  | void
  deriving DecidableEq, Repr

def Result.fails : Result → Bool
  | .code rc => rc < 0
  | .outcome rc => rc ≠ 0
  | .pointer p => p = .null
  | .length n => n < 0
  | .void => false

/-- How a call ends, with the message that it gave to `set_last_error`. -/
structure Ending where
  result : Result
  stored : Option String
  deriving DecidableEq, Repr

/-- Nothing is stored. -/
def returned (result : Result) : Ending where
  result := result
  stored := none

def failed (result : Result) (error : String) : Ending where
  result := result
  stored := some error

/-- What the entry points make of a result of their own. -/
def reported (failure success : Result) : Except String α → Ending
  | .error e => failed failure e
  | .ok _ => returned success

/-- Exactly the calls that fail store a message. -/
def Ending.Paired (ending : Ending) : Prop := ending.result.fails = ending.stored.isSome

theorem returned_paired {result : Result} (succeeds : result.fails = false) :
    (returned result).Paired := succeeds

theorem reported_paired {failure success : Result} (fails : failure.fails = true)
    (succeeds : success.fails = false) (body : Except String α) :
    (reported failure success body).Paired := by
  cases body with
  | error e => exact fails
  | ok value => exact succeeds

def GRPC_CALL_TRANSPORT_ERR : Int := -1

/-- The defaults that the entry points give to `guard`. -/
inductive Guarded
  | pointer
  | code
  | outcome
  deriving DecidableEq, Repr

def Guarded.default : Guarded → Result
  | .pointer => .pointer .null
  | .code => .code ZPR_ERR
  | .outcome => .outcome GRPC_CALL_TRANSPORT_ERR

/-- `guard`, where the body has panicked: the default is returned, and the payload is
stored where it is text. -/
def panicked (default : Result) (payload : Option String) : Ending :=
  failed default (payload.getD "zero: internal panic")

/-- What `set_last_error` makes of a message. -/
def set_last_error (msg : String) : String := String.ofList (msg.toList.filter (· ≠ '\x00'))

/-- The slot after a call. -/
def Ending.slot (ending : Ending) (LAST_ERROR : Option String) : Option String :=
  (ending.stored.map set_last_error).or LAST_ERROR

/-- `LastError`, which takes a null pointer for no text. -/
def LastError (LAST_ERROR : Option String) : String := LAST_ERROR.getD ""

/-- `Check`: the message of the exception, where it raises one. -/
def Check (LAST_ERROR : Option String) (AResult : Int) : Option String :=
  if AResult ≠ ZPR_OK then some (LastError LAST_ERROR) else none

end Zpr.ErrorSlot
