import Zpr.Foundation.Execution

namespace Zpr

/-! # A call between a client and a host

What a call is for, whoever serves it: a queue of messages each way and one outcome.
The state of the call determines the answer to whatever its two parties do next. Two
servers whose calls go through the same runs of this machine serve alike. -/

/-- How far the end of a call has got. -/
inductive Fate (Outcome : Type v)
  | undecided
  /-- the call is over, and its client is still to hear of it -/
  | decided (outcome : Outcome)
  /-- on its way to the client -/
  | released (outcome : Outcome)
  | told
  deriving DecidableEq, Repr

structure Dialogue (Message : Type u) (Outcome : Type v) where
  inbox : List Message
  /-- the client has nothing more to say -/
  halfClosed : Bool
  outbox : List Message
  connected : Bool
  fate : Fate Outcome
  deriving DecidableEq, Repr

/-- How much the two queues take in, and what a client sees of messages and outcomes. -/
structure DialogueRules (Message : Type u) (Outcome : Type v) (Frame : Type w) where
  inRoom : Nat
  outRoom : Nat
  data : Message → Frame
  trailers : Outcome → Frame

inductive DialogueAction (Message : Type u) (Outcome : Type v)
  /-- a message of the client's comes in -/
  | arrive (msg : Message)
  | halfClose
  | read
  | write (msg : Message)
  | finish (outcome : Outcome)
  | release
  | poll
  | hangUp
  deriving DecidableEq, Repr

inductive DialogueReply (Message : Type u) (Frame : Type w)
  | silent
  | message (msg : Message)
  /-- no message yet -/
  | nothing
  /-- no message any more -/
  | ended
  | taken
  | full
  /-- nobody is there to be answered -/
  | gone
  | shown (frame : Frame)
  | pending
  | closed
  deriving DecidableEq, Repr

namespace Dialogue

variable {Message : Type u} {Outcome : Type v} {Frame : Type w}

def opened : Dialogue Message Outcome where
  inbox := []
  halfClosed := false
  outbox := []
  connected := true
  fate := .undecided

def arrive (inRoom : Nat) (call : Dialogue Message Outcome) (msg : Message) :
    Option (Dialogue Message Outcome × DialogueReply Message Frame) :=
  match call.fate with
  | .undecided =>
      if call.halfClosed = false ∧ call.inbox.length < inRoom then
        some ({ call with inbox := call.inbox ++ [msg] }, .silent)
      else
        none
  | _ => none

def read (call : Dialogue Message Outcome) :
    Option (Dialogue Message Outcome × DialogueReply Message Frame) :=
  match call.fate with
  | .undecided =>
      match call.inbox with
      | msg :: rest => some ({ call with inbox := rest }, .message msg)
      | [] => some (call, if call.halfClosed then .ended else .nothing)
  | _ => none

def write (outRoom : Nat) (call : Dialogue Message Outcome) (msg : Message) :
    Option (Dialogue Message Outcome × DialogueReply Message Frame) :=
  match call.fate with
  | .undecided =>
      if call.connected = false then
        some (call, .gone)
      else if call.outbox.length < outRoom then
        some ({ call with outbox := call.outbox ++ [msg] }, .taken)
      else
        some (call, .full)
  | _ => none

/-- What has come in is not read any more. -/
def finish (call : Dialogue Message Outcome) (outcome : Outcome) :
    Option (Dialogue Message Outcome × DialogueReply Message Frame) :=
  match call.fate with
  | .undecided => some ({ call with inbox := [], fate := .decided outcome }, .silent)
  | _ => none

def release (call : Dialogue Message Outcome) :
    Option (Dialogue Message Outcome × DialogueReply Message Frame) :=
  match call.fate with
  | .decided outcome => some ({ call with fate := .released outcome }, .silent)
  | _ => none

/-- The client hears of the outcome when it has been shown all messages. -/
def poll (rules : DialogueRules Message Outcome Frame) (call : Dialogue Message Outcome) :
    Option (Dialogue Message Outcome × DialogueReply Message Frame) :=
  if call.connected = false then
    none
  else
    match call.outbox with
    | msg :: rest => some ({ call with outbox := rest }, .shown (rules.data msg))
    | [] =>
        match call.fate with
        | .undecided | .decided _ => some (call, .pending)
        | .released outcome => some ({ call with fate := .told }, .shown (rules.trailers outcome))
        | .told => some (call, .closed)

end Dialogue

def dialogueStep (rules : DialogueRules Message Outcome Frame) :
    PartialStep (Dialogue Message Outcome) (DialogueAction Message Outcome)
      (DialogueReply Message Frame)
  | call, .arrive msg => call.arrive rules.inRoom msg
  | call, .halfClose =>
      if call.halfClosed then none else some ({ call with halfClosed := true }, .silent)
  | call, .read => call.read
  | call, .write msg => call.write rules.outRoom msg
  | call, .finish outcome => call.finish outcome
  | call, .release => call.release
  | call, .poll => call.poll rules
  | call, .hangUp => some ({ call with connected := false, outbox := [] }, .silent)

end Zpr
