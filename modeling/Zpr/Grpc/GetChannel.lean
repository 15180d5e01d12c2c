import Mathlib.Logic.Function.Basic

namespace Zpr.Grpc

/-! # Getting a channel

Every call starts with `get_channel`. It looks into the cache, connects if there is nothing
for the endpoint, and then puts its own channel into the cache, whatever has come to be there
in between. What is told of a channel is up to who asks. -/

/-- How far a call is with `get_channel`. -/
inductive GetChannel (Channel : Type u)
  /-- before it looks into the cache -/
  | looking
  | connecting
  /-- before it puts its own channel into the cache -/
  | connected (channel : Channel)
  /-- before `ready` -/
  | holding (channel : Channel)
  deriving DecidableEq, Repr

namespace GetChannel

variable {Channel : Type u}

def channel? : GetChannel Channel → Option Channel
  | .connected channel | .holding channel => some channel
  | .looking | .connecting => none

/-- The first half, with what the cache has for the endpoint. -/
def look_up (cached : Option Channel) : GetChannel Channel → Option (GetChannel Channel)
  | .looking =>
      match cached with
      | some channel => some (.holding channel)
      | none => some .connecting
  | _ => none

/-- `connect_channel`, which may come back without a channel. -/
def connect (made : Option Channel) : GetChannel Channel → Option (Option (GetChannel Channel))
  | .connecting => some (made.map .connected)
  | _ => none

/-- The second half. -/
def insert (channels : String → Option Channel) (endpoint : String) :
    GetChannel Channel → Option ((String → Option Channel) × GetChannel Channel)
  | .connected channel =>
      some (Function.update channels endpoint (some channel), .holding channel)
  | _ => none

/-- The channel that is asked whether it is ready. -/
def ready : GetChannel Channel → Option Channel
  | .holding channel => some channel
  | _ => none

variable {stage next : GetChannel Channel}

theorem look_up_cases (taken : stage.look_up cached = some next) :
    (∃ channel, cached = some channel ∧ next = .holding channel) ∨ next = .connecting := by
  cases stage with
  | looking =>
      cases cached with
      | some channel =>
          cases taken
          exact .inl ⟨channel, rfl, rfl⟩
      | none =>
          cases taken
          exact .inr rfl
  | connecting | connected | holding => cases taken

theorem connect_cases (taken : stage.connect made = some result) :
    result = made.map .connected := by
  cases stage with
  | connecting =>
      cases taken
      rfl
  | looking | connected | holding => cases taken

theorem insert_cases {channels after : String → Option Channel} {endpoint : String}
    (taken : stage.insert channels endpoint = some (after, next)) :
    ∃ channel, stage = .connected channel ∧ next = .holding channel ∧
      after = Function.update channels endpoint (some channel) := by
  cases stage with
  | connected channel =>
      cases taken
      exact ⟨channel, rfl, rfl, rfl⟩
  | looking | connecting | holding => cases taken

theorem ready_eq_some (taken : stage.ready = some channel) : stage = .holding channel := by
  cases stage with
  | holding =>
      cases taken
      rfl
  | looking | connecting | connected => cases taken

end GetChannel

end Zpr.Grpc
