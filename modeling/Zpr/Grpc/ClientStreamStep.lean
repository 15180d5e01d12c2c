import Zpr.Grpc.ClientStream

namespace Zpr.Grpc

open Ffi

/-! # What one step does to a call

While the host keeps its handle and gives every read a place to put the message,
a call is either read off the wire, with no pump, or out of its ring. -/

/-- The answer, if any, that an event brings in. -/
def arrivedOf : Action × Reply → List Incoming
  | (.arrive incoming, _) => [incoming]
  | _ => []

/-- The message, if any, that an event gives to the host. -/
def deliveredOf : Action × Reply → List Bytes
  | (_, .read reply) => reply.delivered
  | (_, .filled reply) => deliveredInto reply
  | _ => []

/-- The message, if any, that an event puts into the ring. -/
def receivedOf : Action × Reply → List Bytes
  | (_, .pushed msg _) => [msg]
  | _ => []

/-- The message, if any, that an event throws out of the ring. -/
def discardedOf : Action × Reply → List Bytes
  | (_, .pushed _ discarded) => discarded.toList
  | _ => []

def arrived (trace : List (Action × Reply)) : List Incoming := trace.flatMap arrivedOf
def delivered (trace : List (Action × Reply)) : List Bytes := trace.flatMap deliveredOf
def received (trace : List (Action × Reply)) : List Bytes := trace.flatMap receivedOf
def discarded (trace : List (Action × Reply)) : List Bytes := trace.flatMap discardedOf

@[simp] theorem arrived_next (trace : List (Action × Reply)) (event : Action × Reply) :
    arrived (trace ++ [event]) = arrived trace ++ arrivedOf event := by
  simp [arrived]

@[simp] theorem delivered_next (trace : List (Action × Reply)) (event : Action × Reply) :
    delivered (trace ++ [event]) = delivered trace ++ deliveredOf event := by
  simp [delivered]

@[simp] theorem received_next (trace : List (Action × Reply)) (event : Action × Reply) :
    received (trace ++ [event]) = received trace ++ receivedOf event := by
  simp [received]

@[simp] theorem discarded_next (trace : List (Action × Reply)) (event : Action × Reply) :
    discarded (trace ++ [event]) = discarded trace ++ discardedOf event := by
  simp [discarded]

/-- The host keeps its handle, and gives every read a place to put the message. -/
def Reads (_ : ClientCall) : Action → Prop
  | .read _ out => out = .valid
  | .cancel stream => stream = .null
  | _ => True

/-- Nothing arrives, is delivered, or goes into or out of the ring. -/
structure Quiet (event : Action × Reply) : Prop where
  arrived : arrivedOf event = []
  delivered : deliveredOf event = []
  received : receivedOf event = []
  discarded : discardedOf event = []

/-- A call of the host that reads, or does nothing because it was given a null
handle. -/
structure HostRead (s after : GrpcClientStream) (event : Action × Reply) (off : List Bytes) :
    Prop where
  takesOff : TakesOff s.mode after.mode off
  given : deliveredOf event ++ after.pending.toList = s.pending.toList ++ off
  arrived : arrivedOf event = []
  received : receivedOf event = []
  discarded : discardedOf event = []

theorem HostRead.of_quiet (quiet : Quiet event) (s : GrpcClientStream) :
    HostRead s s event [] where
  takesOff := .nothing s.mode
  given := by rw [quiet.delivered, List.nil_append, List.append_nil]
  arrived := quiet.arrived
  received := quiet.received
  discarded := quiet.discarded

/-- A step of a call that is read off the wire. -/
inductive PullStep (inner : Streaming) (pending : Option Bytes) :
    Action × Reply → ClientCall → Prop
  | arrives (incoming : Incoming) :
      PullStep inner pending (.arrive incoming, .silent)
        ⟨some ⟨.Pull (inner.arrive incoming), pending⟩, .unspawned⟩
  | reads (event : Action × Reply) (after : GrpcClientStream) (off : List Bytes)
      (read : HostRead ⟨.Pull inner, pending⟩ after event off) :
      PullStep inner pending event ⟨some after, .unspawned⟩
  | buffers (capacity : Nat) (positive : capacity ≠ 0) :
      PullStep inner pending (.buffer .valid capacity, .returned ZPR_OK none)
        ⟨some ⟨.Ring (.new capacity), pending⟩, .receiving inner⟩

/-- A step of a call that is read out of its ring. -/
inductive RingStep (call : ClientCall) (g : RingInner) (pending : Option Bytes) :
    Action × Reply → ClientCall → Prop
  | arrives (incoming : Incoming) (pump : Pump) :
      RingStep call g pending (.arrive incoming, .silent) { call with pump := pump }
  | reads (event : Action × Reply) (after : GrpcClientStream) (off : List Bytes)
      (read : HostRead ⟨.Ring g, pending⟩ after event off) :
      RingStep call g pending event { call with stream := some after }
  | pushes (msg : Bytes) (inner : Streaming) :
      RingStep call g pending (.pump, .pushed msg (g.push msg).2)
        ⟨some ⟨.Ring (g.push msg).1, pending⟩, .checking inner⟩
  | ends (err : Option String) :
      RingStep call g pending (.pump, .silent)
        ⟨some ⟨.Ring { g with err := err, done := true }, pending⟩, .returned⟩
  | turns (pump : Pump) : RingStep call g pending (.pump, .silent) { call with pump := pump }

/-- An event that changes nothing, and shows the host nothing, takes nothing off. -/
theorem hostRead_of_unchanged {call : ClientCall} {s : GrpcClientStream}
    {event : Action × Reply} (held : call.stream = some s) (quiet : Quiet event) :
    ∃ after off, call = { call with stream := some after } ∧ HostRead s after event off :=
  ⟨s, [], by rw [← held], .of_quiet quiet s⟩

/-- The entry points on a handle, for a host that reads. -/
theorem hostRead_of_step (call : ClientCall) (s : GrpcClientStream)
    (held : call.stream = some s) (reads : Reads call action)
    (taken : clientStep call action = some (next, reply))
    (noArrival : ∀ incoming, action ≠ .arrive incoming) (noPump : action ≠ .pump)
    (noBuffer : ∀ capacity, action ≠ .buffer .valid capacity) :
    ∃ after off, next = { call with stream := some after } ∧
      HostRead s after (action, reply) off := by
  cases action with
  | arrive incoming => exact absurd rfl (noArrival incoming)
  | pump => exact absurd rfl noPump
  | read stream out =>
      cases stream with
      | null =>
          cases taken
          exact hostRead_of_unchanged held ⟨rfl, rfl, rfl, rfl⟩
      | valid =>
          simp only [clientStep, ClientCall.onHandle, held, Option.bind_some] at taken
          rcases Option.map_eq_some_iff.mp taken with ⟨⟨after, answer⟩, read, equal⟩
          cases equal
          cases reads
          rcases read_takesOff read with ⟨off, takesOff, given⟩
          exact ⟨after, off, rfl, takesOff, given, rfl, rfl, rfl⟩
  | read_into stream buffer =>
      cases stream with
      | null =>
          cases taken
          exact hostRead_of_unchanged held ⟨rfl, rfl, rfl, rfl⟩
      | valid =>
          simp only [clientStep, ClientCall.onHandle, held, Option.bind_some] at taken
          rcases Option.map_eq_some_iff.mp taken with ⟨⟨after, answer⟩, read, equal⟩
          cases equal
          rcases read_into_takesOff read with ⟨off, takesOff, given⟩
          exact ⟨after, off, rfl, takesOff, given, rfl, rfl, rfl⟩
  | buffer stream capacity =>
      cases stream with
      | null =>
          cases taken
          exact hostRead_of_unchanged held ⟨rfl, rfl, rfl, rfl⟩
      | valid => exact absurd rfl (noBuffer capacity)
  | stats stream out_depth out_dropped =>
      cases stream with
      | null =>
          cases taken
          exact hostRead_of_unchanged held ⟨rfl, rfl, rfl, rfl⟩
      | valid =>
          simp only [clientStep, ClientCall.onHandle, held, Option.bind_some,
            zpr_grpc_client_stream_stats] at taken
          split at taken <;> cases taken <;>
            exact hostRead_of_unchanged held ⟨rfl, rfl, rfl, rfl⟩
  | cancel stream =>
      cases reads
      cases taken
      exact hostRead_of_unchanged held ⟨rfl, rfl, rfl, rfl⟩

theorem clientStep_pull {inner : Streaming} {pending : Option Bytes}
    (reads : Reads ⟨some ⟨.Pull inner, pending⟩, .unspawned⟩ action)
    (taken : clientStep ⟨some ⟨.Pull inner, pending⟩, .unspawned⟩ action = some (next, reply)) :
    PullStep inner pending (action, reply) next := by
  have others := hostRead_of_step ⟨some ⟨.Pull inner, pending⟩, .unspawned⟩ ⟨.Pull inner, pending⟩
    rfl reads taken
  cases action with
  | arrive incoming =>
      cases taken
      exact .arrives incoming
  | pump => cases taken
  | buffer stream capacity =>
      cases stream with
      | null =>
          rcases others nofun nofun nofun with ⟨after, off, rfl, read⟩
          exact .reads _ after off read
      | valid =>
          simp only [clientStep, ClientCall.onHandle, Option.bind_some,
            ClientCall.zpr_grpc_client_stream_buffer] at taken
          split at taken
          · cases taken
            exact .reads _ _ [] (.of_quiet ⟨rfl, rfl, rfl, rfl⟩ _)
          · rename_i positive
            cases taken
            exact .buffers capacity positive
  | _ =>
      rcases others nofun nofun nofun with ⟨after, off, rfl, read⟩
      exact .reads _ after off read

theorem clientStep_ring {g : RingInner} {pending : Option Bytes} {pump : Pump}
    (reads : Reads ⟨some ⟨.Ring g, pending⟩, pump⟩ action)
    (taken : clientStep ⟨some ⟨.Ring g, pending⟩, pump⟩ action = some (next, reply)) :
    RingStep ⟨some ⟨.Ring g, pending⟩, pump⟩ g pending (action, reply) next := by
  have others := hostRead_of_step ⟨some ⟨.Ring g, pending⟩, pump⟩ ⟨.Ring g, pending⟩ rfl
    reads taken
  cases action with
  | arrive incoming =>
      rcases Option.map_eq_some_iff.mp taken with ⟨call, arrives, equal⟩
      cases equal
      cases pump with
      | receiving inner | checking inner =>
          cases arrives
          exact .arrives incoming _
      | unspawned | returned => cases arrives
  | pump =>
      cases pump with
      | unspawned | returned => cases taken
      | checking inner =>
          cases taken
          exact .turns _
      | receiving inner =>
          rcases Option.map_eq_some_iff.mp taken with ⟨⟨after, incoming⟩, _, equal⟩
          cases incoming with
          | message msg =>
              cases equal
              exact .pushes msg after
          | finished =>
              cases equal
              exact .ends g.err
          | failed message =>
              cases equal
              exact .ends (some message)
  | buffer stream capacity =>
      cases stream with
      | null =>
          rcases others nofun nofun nofun with ⟨after, off, rfl, read⟩
          exact .reads _ after off read
      | valid =>
          simp only [clientStep, ClientCall.onHandle, Option.bind_some,
            ClientCall.zpr_grpc_client_stream_buffer] at taken
          split at taken <;> cases taken <;>
            exact .reads _ _ [] (.of_quiet ⟨rfl, rfl, rfl, rfl⟩ _)
  | _ =>
      rcases others nofun nofun nofun with ⟨after, off, rfl, read⟩
      exact .reads _ after off read

end Zpr.Grpc
