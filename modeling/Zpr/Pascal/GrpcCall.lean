import Zpr.GrpcServer.CallInvariant
import Zpr.Pascal.TBytes

namespace Zpr.Pascal

open Ffi GrpcServer

/-! # An accepted call as an object of the host

The object has a flag for the call being over, and the library has the map `live`. `Complete`
sets the flag and does not look at what the library makes of the completion. -/

structure TZprGrpcCall where
  FId : Nat
  FMethodPath : Bytes
  FCompleted : Bool
  deriving DecidableEq, Repr

def TZprGrpcCall.Create (AId : Nat) (AMethodPath : Bytes) : TZprGrpcCall where
  FId := AId
  FMethodPath := AMethodPath
  FCompleted := false

/-- nil for the empty string; a C string ends at the first NUL -/
def Utf8PtrOrNil (S : Bytes) : Option Bytes :=
  if S = [] then none else some (S.takeWhile (· ≠ 0))

/-- The library and one of the host's objects, until that is freed. -/
structure CallHost where
  server : Server
  object : Option TZprGrpcCall

/-- What is done with the object, and what anybody else does. -/
inductive CallAction
  /-- one round of `Read` -/
  | Read (Buf : TBytes)
  | Write (AData : TBytes)
  | Complete (AStatus : Int) (AMessage : Bytes)
  | Destroy
  | other (action : Action)
  deriving DecidableEq, Repr

namespace TZprGrpcCall

def Complete (call : TZprGrpcCall) (server : Server) (AStatus : Int) (AMessage : Bytes) :
    TZprGrpcCall × Server :=
  if call.FCompleted then
    (call, server)
  else
    ({ call with FCompleted := true },
      (server.call_complete call.FId AStatus (Utf8PtrOrNil AMessage)).1)

def backstopMessage : String := "the handler ended without completing this call"

/-- The server that `Destroy` leaves behind. -/
def Destroy (call : TZprGrpcCall) (server : Server) : Server :=
  if call.FCompleted then server
  else (call.Complete server GRPC_UNAVAILABLE (cstr backstopMessage)).2

variable {call : TZprGrpcCall} {server : Server}

theorem Complete_completed (completed : call.FCompleted = true) :
    call.Complete server AStatus AMessage = (call, server) := by
  rw [Complete, if_pos completed]

theorem Complete_open (notCompleted : call.FCompleted = false) :
    call.Complete server AStatus AMessage = ({ call with FCompleted := true },
      (server.call_complete call.FId AStatus (Utf8PtrOrNil AMessage)).1) := by
  rw [Complete, if_neg (by simp [notCompleted])]

theorem Destroy_open (notCompleted : call.FCompleted = false) :
    call.Destroy server = (server.call_complete call.FId GRPC_UNAVAILABLE
      (Utf8PtrOrNil (cstr backstopMessage))).1 := by
  rw [Destroy, if_neg (by simp [notCompleted]), Complete_open notCompleted]

end TZprGrpcCall

def CallHost.onServer (host : CallHost) (action : Action) : Option (CallHost × Reply) :=
  (serverStep host.server action).map fun (server, reply) => ({ host with server := server }, reply)

/-- The object can be used until it is freed. -/
def callHostStep : PartialStep CallHost CallAction Reply
  | host, .other action => host.onServer action
  | host, .Read Buf => host.object.bind fun call => host.onServer (.read_into call.FId (outBuffer Buf))
  | host, .Write AData => host.object.bind fun call =>
      host.onServer (.write call.FId (BytesPtr AData) AData)
  | host, .Complete AStatus AMessage => host.object.map fun call =>
      let (call, server) := call.Complete host.server AStatus AMessage
      ({ server := server, object := some call }, .silent)
  | host, .Destroy => host.object.map fun call =>
      ({ server := call.Destroy host.server, object := none }, .silent)

/-- The object of a call that has just been accepted. -/
def CallHost.accepted (server : Server) (FId : Nat) (path : Bytes) : CallHost where
  server := server
  object := some (.Create FId path)

/-! ## Calls that do not come back -/

/-- A state that a call is live in, or has been. -/
def Known (FId : Nat) (state : Server) : Prop :=
  (∃ trace, Run serverStep .start trace state) ∧ ∃ index ms, state.enteredAt index = some (FId, ms)

theorem known_of_live {FId : Nat} (run : Run serverStep .start trace state)
    (held : state.queue.live.find? FId = some call) : Known FId state :=
  ⟨⟨trace, run⟩, _, ((consistent_of_run run).live FId call held).1.entered⟩

theorem known_next {FId : Nat} (known : Known FId state)
    (taken : serverStep state action = some (next, reply)) : Known FId next := by
  rcases known with ⟨⟨trace, run⟩, index, ms, entered⟩
  exact ⟨⟨_, Run.next run taken⟩, index, ms, (serverStep_calls taken).entered_stays entered⟩

/-- A call that has been taken out of `live` stays out. -/
theorem absent_next {FId : Nat} (known : Known FId state)
    (absent : state.queue.live.find? FId = none)
    (taken : serverStep state action = some (next, reply)) :
    next.queue.live.find? FId = none := by
  rcases known with ⟨⟨trace, run⟩, index, ms, entered⟩
  cases held : next.queue.live.find? FId with
  | none => rfl
  | some after =>
      rcases Server.Consistent.live_was (serverStep_calls taken) held with
        ⟨before, heldBefore, _⟩ | ⟨other, _, enters, _⟩
      · rw [absent] at heldBefore
        cases heldBefore
      · have same := (consistent_of_run run).distinct _ _ _ enters.drawn
          (Server.idAt_of_enteredAt entered)
        have outside := enters.outside
        rw [same, entered] at outside
        cases outside

/-! ## A call that is over -/

/-- Once the object says that the call is completed, or is freed, the call is not live. -/
def Over (FId : Nat) (host : CallHost) : Prop :=
  (∀ call, host.object = some call → call.FCompleted = true) →
    host.server.queue.live.find? FId = none

/-- A completion that the object lets through, of a call that is still live, has a message
that is UTF-8 up to its first NUL. -/
def EndsCall (FId : Nat) (host : CallHost) : CallAction → Prop
  | .Complete _ AMessage =>
      ∀ call, host.object = some call → call.FCompleted = false →
        host.server.queue.live.find? FId ≠ none →
        ∃ msg, Server.status_message (Utf8PtrOrNil AMessage) = .ok msg
  | _ => True

/-- What is known of the object and its call at any time. -/
structure Tracked (FId : Nat) (host : CallHost) : Prop where
  known : Known FId host.server
  own : ∀ call, host.object = some call → call.FId = FId

theorem call_complete_eq_serverStep (server : Server) (id : Nat) (status : Int)
    (message : Option Bytes) : serverStep server (.complete id status message) =
      some ((server.call_complete id status message).1, (server.call_complete id status message).2) :=
  rfl

/-- A completion takes a live call out exactly if it can make out the message. -/
theorem absent_after_complete_iff {FId : Nat} (known : Known FId server) (status : Int)
    (message : Option Bytes) :
    (server.call_complete FId status message).1.queue.live.find? FId = none ↔
      (server.queue.live.find? FId ≠ none → ∃ msg, Server.status_message message = .ok msg) := by
  have taken := call_complete_eq_serverStep server FId status message
  cases held : server.queue.live.find? FId with
  | none =>
      have stays := absent_next known held taken
      simp only [stays, ne_eq, not_true_eq_false, false_implies]
  | some call =>
      rcases Server.call_complete_cases (Option.some.inj taken) with
        ⟨error, _, same, failed | ⟨_, absent⟩⟩ | ⟨msg, other, decoded, _, _, moved⟩
      · rw [same, held, failed]
        simp
      · rw [held] at absent
        cases absent
      · rw [moved]
        constructor
        · intro _ _
          exact ⟨msg, decoded⟩
        · intro _
          have present : ∀ id ∈ [FId], ∃ call, server.queue.live.find? id = some call := by
            intro id member
            cases List.mem_singleton.mp member
            exact ⟨call, held⟩
          have left := Server.take_leavesLive server .complete (status, msg) present
          rw [left.live, if_pos (List.mem_singleton_self FId)]

theorem status_message_backstop : ∃ msg,
    Server.status_message (Utf8PtrOrNil (cstr TZprGrpcCall.backstopMessage)) = .ok msg :=
  ⟨_, rfl⟩

theorem CallHost.onServer_cases {host : CallHost} (taken : host.onServer action = some (next, reply)) :
    serverStep host.server action = some (next.server, reply) ∧ next.object = host.object := by
  rcases Option.map_eq_some_iff.mp taken with ⟨⟨server, answer⟩, stepped, equal⟩
  cases equal
  exact ⟨stepped, rfl⟩

/-- One step: either the library's, with the object left alone, or the end of the object's
life as a call. -/
inductive CallHostChange (host : CallHost) : CallAction → CallHost → Prop
  | onServer (action : CallAction) (step : Action) (next : CallHost) (reply : Reply)
      (taken : serverStep host.server step = some (next.server, reply))
      (same : next.object = host.object)
      (notComplete : ∀ AStatus AMessage, action ≠ .Complete AStatus AMessage)
      (notDestroy : action ≠ .Destroy) : CallHostChange host action next
  | completes (call : TZprGrpcCall) (held : host.object = some call) (AStatus : Int)
      (AMessage : Bytes) : CallHostChange host (.Complete AStatus AMessage)
        ⟨(call.Complete host.server AStatus AMessage).2,
          some (call.Complete host.server AStatus AMessage).1⟩
  | destroys (call : TZprGrpcCall) (held : host.object = some call) :
      CallHostChange host .Destroy ⟨call.Destroy host.server, none⟩

theorem callHostStep_change (taken : callHostStep host action = some (next, reply)) :
    CallHostChange host action next := by
  cases action with
  | other action =>
      rcases CallHost.onServer_cases taken with ⟨stepped, same⟩
      exact .onServer _ action next reply stepped same (by simp) (by simp)
  | Read Buf =>
      rcases Option.bind_eq_some_iff.mp taken with ⟨call, held, rest⟩
      rcases CallHost.onServer_cases rest with ⟨stepped, same⟩
      exact .onServer _ _ next reply stepped same (by simp) (by simp)
  | Write AData =>
      rcases Option.bind_eq_some_iff.mp taken with ⟨call, held, rest⟩
      rcases CallHost.onServer_cases rest with ⟨stepped, same⟩
      exact .onServer _ _ next reply stepped same (by simp) (by simp)
  | Complete AStatus AMessage =>
      rcases Option.map_eq_some_iff.mp taken with ⟨call, held, equal⟩
      cases equal
      exact .completes call held AStatus AMessage
  | Destroy =>
      rcases Option.map_eq_some_iff.mp taken with ⟨call, held, equal⟩
      cases equal
      exact .destroys call held

theorem known_after_complete {FId : Nat} (known : Known FId server) (status : Int)
    (message : Option Bytes) : Known FId (server.call_complete FId status message).1 :=
  known_next known (call_complete_eq_serverStep server FId status message)

theorem Tracked.step {FId : Nat} (tracked : Tracked FId host)
    (change : CallHostChange host action next) : Tracked FId next := by
  cases change with
  | onServer _ _ _ _ taken same =>
      refine ⟨known_next tracked.known taken, fun call held => ?_⟩
      rw [same] at held
      exact tracked.own call held
  | completes call held AStatus AMessage =>
      have own := tracked.own call held
      cases completed : call.FCompleted with
      | true =>
          rw [TZprGrpcCall.Complete_completed completed]
          refine ⟨tracked.known, fun other same => ?_⟩
          cases same
          exact own
      | false =>
          rw [TZprGrpcCall.Complete_open completed, own]
          refine ⟨known_after_complete tracked.known _ _, fun other same => ?_⟩
          cases same
          rfl
  | destroys call held =>
      have own := tracked.own call held
      refine ⟨?_, fun other none => by cases none⟩
      cases completed : call.FCompleted with
      | true =>
          rw [TZprGrpcCall.Destroy, if_pos completed]
          exact tracked.known
      | false =>
          rw [TZprGrpcCall.Destroy_open completed, own]
          exact known_after_complete tracked.known _ _

/-- A step keeps the property exactly if it meets the condition. -/
theorem over_next_iff {FId : Nat} (tracked : Tracked FId host) (ended : Over FId host)
    (change : CallHostChange host action next) : Over FId next ↔ EndsCall FId host action := by
  cases change with
  | onServer action _ _ _ taken same notComplete notDestroy =>
      have condition : EndsCall FId host action := by
        cases action with
        | Complete AStatus AMessage => exact absurd rfl (notComplete AStatus AMessage)
        | _ => trivial
      refine ⟨fun _ => condition, fun _ completed => ?_⟩
      rw [same] at completed
      exact absent_next tracked.known (ended completed) taken
  | completes call held AStatus AMessage =>
      have own := tracked.own call held
      cases completed : call.FCompleted with
      | true =>
          have absent := ended (by simp [held, completed])
          rw [TZprGrpcCall.Complete_completed completed]
          simp [Over, EndsCall, completed, held, absent]
      | false =>
          have ends := absent_after_complete_iff tracked.known AStatus (Utf8PtrOrNil AMessage)
          rw [TZprGrpcCall.Complete_open completed, own]
          simpa [Over, EndsCall, completed, held] using ends
  | destroys call held =>
      have own := tracked.own call held
      refine ⟨fun _ => trivial, fun _ _ => ?_⟩
      cases completed : call.FCompleted with
      | true =>
          rw [TZprGrpcCall.Destroy, if_pos completed]
          exact ended (by simp [held, completed])
      | false =>
          have ends := absent_after_complete_iff tracked.known GRPC_UNAVAILABLE
            (Utf8PtrOrNil (cstr TZprGrpcCall.backstopMessage))
          rw [TZprGrpcCall.Destroy_open completed, own]
          exact ends.mpr fun _ => status_message_backstop

/-- From the moment a call is accepted: it is over whenever its object says so, or is freed,
exactly in those runs in which the object never passes on a message that is not UTF-8 while
the call is live. -/
theorem completed_call_is_over_iff {FId : Nat} (run : Run serverStep .start trace state)
    (held : state.queue.live.find? FId = some call) (path : Bytes)
    (calls : List (CallAction × Reply)) (host : CallHost) :
    (RunWhere (fun host _ => Over FId host) callHostStep (.accepted state FId path) calls host ∧
        Over FId host) ↔
      RunWhere (EndsCall FId) callHostStep (.accepted state FId path) calls host := by
  have tracked : Tracked FId (.accepted state FId path) := by
    refine ⟨known_of_live run held, fun object same => ?_⟩
    cases same
    rfl
  have ended : Over FId (.accepted state FId path) := by
    intro completed
    cases completed _ rfl
  apply RunWhere.throughout_iff tracked (fun tracked taken =>
    tracked.step (callHostStep_change taken)) ended
  intro _ _ _ _ tracked ended taken
  exact over_next_iff tracked ended (callHostStep_change taken)

/-- The host accepts `/a`, completes the call with a message and frees the object. -/
theorem completed_call_is_over_with_message : ∃ trace state calls host,
    Run serverStep .start trace state ∧ state.queue.live.find? 1 ≠ none ∧
      calls.map Prod.fst = [.Complete 5 [0x6E, 0x6F], .Destroy] ∧
      RunWhere (fun host _ => Over 1 host) callHostStep (.accepted state 1 [0x2F, 0x61]) calls host ∧
      Over 1 host ∧ host.object = none := by
  have replayed : ∃ trace state call calls host, replay serverStep .start
        [.arrive "/a" ⟨[], false⟩, .handle_queued 0, .handle_queued 0, .handle_queued 0,
          .handle_queued 0, .handle_queued 0, .accept .valid ⟨.valid, 512, .valid⟩] =
        some (trace, state) ∧
      state.queue.live.find? 1 = some call ∧
      replay callHostStep (.accepted state 1 [0x2F, 0x61]) [.Complete 5 [0x6E, 0x6F], .Destroy] =
        some (calls, host) ∧ host.object = none :=
    ⟨_, _, _, _, _, rfl, rfl, rfl, rfl⟩
  rcases replayed with ⟨trace, state, call, calls, host, replayed, held, completed, freed⟩
  have run := run_of_replay replayed
  have ends : RunWhere (EndsCall 1) callHostStep (.accepted state 1 [0x2F, 0x61]) calls host := by
    apply runWhere_of_replay completed
    intro action member host
    simp only [List.mem_cons, List.not_mem_nil, or_false] at member
    rcases member with rfl | rfl
    · intro _ _ _ _
      exact ⟨_, rfl⟩
    · trivial
  rcases (completed_call_is_over_iff run held [0x2F, 0x61] calls host).mpr ends with
    ⟨throughout, ended⟩
  exact ⟨trace, state, calls, host, run, by simp [held], actions_of_replay completed, throughout,
    ended, freed⟩

/-- The message is a byte that UTF-8 does not have: the call is completed and freed, and it
is live. -/
theorem completed_call_is_live : ∃ trace state calls host,
    Run serverStep .start trace state ∧ state.queue.live.find? 1 ≠ none ∧
      Run callHostStep (.accepted state 1 [0x2F, 0x61]) calls host ∧
      calls.map Prod.fst = [.Complete 0 [0xFF], .Destroy] ∧
      host.object = none ∧ host.server.queue.live.find? 1 ≠ none := by
  have replayed : ∃ trace state call calls host still, replay serverStep .start
        [.arrive "/a" ⟨[], false⟩, .handle_queued 0, .handle_queued 0, .handle_queued 0,
          .handle_queued 0, .handle_queued 0, .accept .valid ⟨.valid, 512, .valid⟩] =
        some (trace, state) ∧
      state.queue.live.find? 1 = some call ∧
      replay callHostStep (.accepted state 1 [0x2F, 0x61]) [.Complete 0 [0xFF], .Destroy] =
        some (calls, host) ∧ host.object = none ∧
      host.server.queue.live.find? 1 = some still :=
    ⟨_, _, _, _, _, _, rfl, rfl, rfl, rfl, rfl⟩
  rcases replayed with
    ⟨trace, state, call, calls, host, still, replayed, held, completed, freed, live⟩
  exact ⟨trace, state, calls, host, run_of_replay replayed, by simp [held],
    run_of_replay completed, actions_of_replay completed, freed, by simp [live]⟩

end Zpr.Pascal
