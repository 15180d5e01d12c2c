import Zpr.GrpcServer.Acceptance
import Zpr.Pascal.Accept

namespace Zpr.Pascal

open Ffi GrpcServer

/-! # The objects of a queued server

`TZprGrpcQueuedServer` has two pointers, and `Stop` clears both. Every call that it has
accepted is an object with a copy of the second one, which `Stop` does not reach.

The objects have no locks. Threads of the host may use different objects at the same time,
but no two of them are in methods of the same object: a pointer that a method of the server
has found not to be nil is then what it calls the library with, and nobody finds a pointer
between the call that frees it and the nil that follows. -/

/-- What `FQueue` and its copies point to. `FQueue` itself is nil once this is not `held`. -/
inductive QueueMemory
  | held
  | freed
  /-- memory has been used that must not be: nothing is known of what follows -/
  | misused
  deriving DecidableEq, Repr

/-- An object that the host has been given, and whether it has been freed. -/
structure OwnedCall where
  object : TZprGrpcCall
  freed : Bool
  deriving DecidableEq, Repr

structure ObjectHost where
  server : Server
  /-- `FHandle` is not nil -/
  FHandle : Bool
  memory : QueueMemory
  /-- in the order in which `Accept` has returned them -/
  calls : List OwnedCall

/-- What the thread that uses one of the objects does, and what the others do. -/
inductive ObjectAction
  /-- one round of `Accept`, with what stands behind its array -/
  | Accept (locals : AcceptLocals) (following : Bytes)
  /-- one round of `Read` -/
  | Read (index : Nat) (Buf : TBytes)
  | Write (index : Nat) (AData : TBytes)
  | Complete (index : Nat) (AStatus : Int) (AMessage : Bytes)
  | Destroy (index : Nat)
  | Configure (AMaxPending ADeadlineMs : Nat)
  /-- the first half of `Stop` -/
  | StopServer
  /-- the second half -/
  | FreeQueue
  /-- clients, tasks, the clock, and calls of the library that go on -/
  | background (action : Action)

abbrev ObjectEvent := ObjectAction × Option (Action × Reply)

/-- The calls of the library that a host makes of its own accord. -/
def byHost : Action → Bool
  | .accept _ _ | .read_into _ _ | .write _ _ _ | .complete _ _ _ | .configure _ _
  | .queue_free | .server_stop => true
  | _ => false

/-- A thread of the host is inside the library. -/
def calledInto (server : Server) : Bool :=
  !server.configuring.isEmpty ||
    server.removed.entries.any fun entry => entry.2.remover == .complete

namespace ObjectHost

/-- `TZprGrpcQueuedServer.Start`. -/
def start : ObjectHost where
  server := .start
  FHandle := true
  memory := .held
  calls := []

def object? (host : ObjectHost) (index : Nat) : Option TZprGrpcCall :=
  (host.calls[index]?).bind fun held => if held.freed then none else some held.object

def misuse (host : ObjectHost) : ObjectHost × Option (Action × Reply) :=
  ({ host with memory := .misused }, none)

def library (host : ObjectHost) (action : Action) :
    Option (ObjectHost × Option (Action × Reply)) :=
  (serverStep host.server action).map fun (server, reply) =>
    ({ host with server := server }, some (action, reply))

/-- A method of the server's object: `if FQueue = nil then Exit`. -/
def guarded (host : ObjectHost) (action : Action) :
    Option (ObjectHost × Option (Action × Reply)) :=
  if host.memory = .held then host.library action else some (host, none)

/-- A method of a call's object, whose copy is never nil. -/
def throughCopy (host : ObjectHost) (action : Action) :
    Option (ObjectHost × Option (Action × Reply)) :=
  if host.memory = .held then host.library action else some host.misuse

/-- What becomes of the round of `Accept` that has called the library. -/
def accept (host : ObjectHost) (locals : AcceptLocals) (following : Bytes) :
    Option (ObjectHost × Option (Action × Reply)) :=
  let action := (TZprGrpcQueuedServer.Accept following).call locals
  (serverStep host.server action).map fun (server, reply) =>
    match (TZprGrpcQueuedServer.Accept following).judge locals reply with
    | .done (.call object) =>
        ({ host with server := server, calls := host.calls ++ [⟨object, false⟩] },
          some (action, reply))
    | .done .fault => host.misuse
    | _ => ({ host with server := server }, some (action, reply))

/-- The object says that its call is completed, and the library is told so. -/
def complete (host : ObjectHost) (index : Nat) (object : TZprGrpcCall) (freed : Bool)
    (AStatus : Int) (AMessage : Bytes) : Option (ObjectHost × Option (Action × Reply)) :=
  if host.memory = .held then
    { host with calls := host.calls.set index ⟨{ object with FCompleted := true }, freed⟩ }.library
      (.complete object.FId AStatus (Utf8PtrOrNil AMessage))
  else
    some host.misuse

def act (host : ObjectHost) : ObjectAction → Option (ObjectHost × Option (Action × Reply))
  | .Accept locals following =>
      if host.memory = .held then host.accept locals following else some (host, none)
  | .Read index Buf => (host.object? index).bind fun object =>
      host.throughCopy (.read_into object.FId (outBuffer Buf))
  | .Write index AData => (host.object? index).bind fun object =>
      host.throughCopy (.write object.FId (BytesPtr AData) AData)
  | .Complete index AStatus AMessage => (host.object? index).bind fun object =>
      if object.FCompleted then some (host, none)
      else host.complete index object false AStatus AMessage
  | .Destroy index => (host.object? index).bind fun object =>
      if object.FCompleted then
        some ({ host with calls := host.calls.set index ⟨object, true⟩ }, none)
      else
        host.complete index object true GRPC_UNAVAILABLE (cstr TZprGrpcCall.backstopMessage)
  | .Configure AMaxPending ADeadlineMs => host.guarded (.configure AMaxPending ADeadlineMs)
  | .StopServer =>
      if host.FHandle then { host with FHandle := false }.library .server_stop
      else some (host, none)
  | .FreeQueue =>
      if host.FHandle then none
      else if host.memory = .held then
        if calledInto host.server then some host.misuse
        else { host with memory := .freed }.library .queue_free
      else some (host, none)
  | .background action => if byHost action then none else host.library action

end ObjectHost

/-- An object can be used until it is freed. -/
def objectStep : PartialStep ObjectHost ObjectAction (Option (Action × Reply))
  | host, action => if host.memory = .misused then none else host.act action

/-! ## What a run has made of the library -/

/-- All calls of the library, and what the others have done. -/
def libraryTrace (trace : List ObjectEvent) : List (Action × Reply) := trace.filterMap Prod.snd

/-- The object that an action is a method of. -/
def ObjectAction.object? : ObjectAction → Option Nat
  | .Read index _ | .Write index _ | .Complete index _ _ | .Destroy index => some index
  | _ => none

/-- What one object has had the library do. -/
def callsOf (index : Nat) (trace : List ObjectEvent) : List (Action × Reply) :=
  libraryTrace (trace.filter fun event => event.1.object? == some index)

/-- The call that the host means with an action. -/
def call? : Action → Option Nat
  | .read_into call_id _ | .write call_id _ _ | .complete call_id _ _ => some call_id
  | _ => none

/-- What any of the host's threads has done with a call. -/
def aboutCall (FId : Nat) (trace : List (Action × Reply)) : List (Action × Reply) :=
  trace.filter fun event => call? event.1 == some FId

/-! ## What a step does -/

def isCompletion : Action → Bool
  | .complete _ _ _ => true
  | _ => false

/-- What a step makes of the server and of the objects. -/
inductive ObjectChange (host : ObjectHost) : ObjectAction → Option (Action × Reply) →
    ObjectHost → Prop
  | quiet (action : ObjectAction) (next : ObjectHost) (server : next.server = host.server)
      (calls : next.calls = host.calls) : ObjectChange host action none next
  | elsewhere (action : ObjectAction) (step : Action) (reply : Reply) (next : ObjectHost)
      (apart : action.object? = none) (noCall : call? step = none)
      (none : acceptedOf (step, reply) = []) (takesId : TakesId step)
      (taken : serverStep host.server step = some (next.server, reply))
      (calls : next.calls = host.calls) : ObjectChange host action (some (step, reply)) next
  | accepts (action : ObjectAction) (buffer : Buffer) (reply : Reply) (next : ObjectHost)
      (object : TZprGrpcCall) (apart : action.object? = none)
      (handed : acceptedOf (.accept .valid buffer, reply) = [object.FId])
      (isOpen : object.FCompleted = false)
      (taken : serverStep host.server (.accept .valid buffer) = some (next.server, reply))
      (calls : next.calls = host.calls ++ [⟨object, false⟩]) :
      ObjectChange host action (some (.accept .valid buffer, reply)) next
  | uses (action : ObjectAction) (index : Nat) (object : TZprGrpcCall) (step : Action)
      (reply : Reply) (next : ObjectHost) (own : action.object? = some index)
      (held : host.calls[index]? = some ⟨object, false⟩) (about : call? step = some object.FId)
      (notCompletion : isCompletion step = false)
      (taken : serverStep host.server step = some (next.server, reply))
      (calls : next.calls = host.calls) : ObjectChange host action (some (step, reply)) next
  | completes (action : ObjectAction) (index : Nat) (object : TZprGrpcCall) (freed : Bool)
      (AStatus : Int) (AMessage : Bytes) (reply : Reply) (next : ObjectHost)
      (how : action = .Complete index AStatus AMessage ∨
        action = .Destroy index ∧ AMessage = cstr TZprGrpcCall.backstopMessage)
      (held : host.calls[index]? = some ⟨object, false⟩)
      (isOpen : object.FCompleted = false)
      (taken : serverStep host.server (.complete object.FId AStatus (Utf8PtrOrNil AMessage)) =
        some (next.server, reply))
      (calls : next.calls = host.calls.set index ⟨{ object with FCompleted := true }, freed⟩) :
      ObjectChange host action
        (some (.complete object.FId AStatus (Utf8PtrOrNil AMessage), reply)) next
  | frees (action : ObjectAction) (index : Nat) (object : TZprGrpcCall) (next : ObjectHost)
      (own : action.object? = some index) (held : host.calls[index]? = some ⟨object, false⟩)
      (completed : object.FCompleted = true) (server : next.server = host.server)
      (calls : next.calls = host.calls.set index ⟨object, true⟩) : ObjectChange host action none next

variable {host next : ObjectHost}

namespace ObjectHost

theorem library_eq (taken : host.library action = some (next, event)) :
    ∃ server reply, serverStep host.server action = some (server, reply) ∧
      next = { host with server := server } ∧ event = some (action, reply) := by
  rcases Option.map_eq_some_iff.mp taken with ⟨⟨server, reply⟩, stepped, equal⟩
  cases equal
  exact ⟨server, reply, stepped, rfl, rfl⟩

theorem object?_eq_some (found : host.object? index = some object) :
    host.calls[index]? = some ⟨object, false⟩ := by
  rcases Option.bind_eq_some_iff.mp found with ⟨⟨held, freed⟩, known, same⟩
  cases freed with
  | true => simp at same
  | false =>
      simp only [Bool.false_eq_true, if_false, Option.some.injEq] at same
      rw [known, same]

/-- A step of the server that has nothing to do with any object. -/
theorem elsewhere_of_library (taken : host.library step = some (next, event))
    (apart : action.object? = none) (noCall : call? step = none)
    (quiet : ∀ reply, acceptedOf (step, reply) = []) (takesId : TakesId step) :
    ObjectChange host action event next := by
  rcases library_eq taken with ⟨server, reply, stepped, rfl, rfl⟩
  exact .elsewhere action step reply _ apart noCall (quiet reply) takesId stepped rfl

theorem uses_of_throughCopy (taken : host.throughCopy step = some (next, event))
    (own : action.object? = some index) (held : host.object? index = some object)
    (about : call? step = some object.FId) (notCompletion : isCompletion step = false) :
    ObjectChange host action event next := by
  rw [throughCopy] at taken
  split at taken
  · rcases library_eq taken with ⟨server, reply, stepped, rfl, rfl⟩
    exact .uses action index object step reply _ own (object?_eq_some held) about notCompletion
      stepped rfl
  · cases taken
    exact .quiet action _ rfl rfl

theorem completes_of_complete
    (taken : host.complete index object freed AStatus AMessage = some (next, event))
    (how : action = .Complete index AStatus AMessage ∨
      action = .Destroy index ∧ AMessage = cstr TZprGrpcCall.backstopMessage)
    (held : host.object? index = some object) (isOpen : object.FCompleted = false) :
    ObjectChange host action event next := by
  rw [complete] at taken
  split at taken
  · rcases library_eq taken with ⟨server, reply, stepped, rfl, rfl⟩
    exact .completes action index object freed AStatus AMessage reply _ how
      (object?_eq_some held) isOpen stepped rfl
  · cases taken
    exact .quiet action _ rfl rfl

/-- An accept that hands out a call makes an object for it, which is open. -/
theorem change_of_accept (taken : host.accept locals following = some (next, event)) :
    ObjectChange host (.Accept locals following) event next := by
  rw [accept] at taken
  rcases Option.map_eq_some_iff.mp taken with ⟨⟨server, reply⟩, stepped, equal⟩
  rcases serverStep_accept_cases stepped with
    ⟨rfl, answer, rfl, failed⟩ | ⟨id, path, pending, answer, waiting, rfl, rfl, handed, given⟩
  · have quiet : acceptedOf ((TZprGrpcQueuedServer.Accept following).call locals,
        .accepted answer) = [] := if_neg failed
    have noObject : ∀ object, (TZprGrpcQueuedServer.Accept following).judge locals
        (.accepted answer) ≠ .done (.call object) ∧
        (TZprGrpcQueuedServer.Accept following).judge locals (.accepted answer) ≠
          .done .fault := by
      intro object
      have notHanded : answer.rc ≠ 1 := failed
      simp only [TZprGrpcQueuedServer.Accept, judgeAccept, if_pos notHanded]
      split <;> simp
    dsimp only at equal
    split at equal
    · rename_i object judged
      exact absurd judged (noObject object).1
    · rename_i judged
      exact absurd judged (noObject (.Create 0 [])).2
    · cases equal
      exact .elsewhere _ _ _ _ rfl rfl quiet rfl stepped rfl
  · have isHanded : acceptedOf ((TZprGrpcQueuedServer.Accept following).call locals,
        .accepted answer) = [id] := by
      rw [TZprGrpcQueuedServer.Accept, acceptedOf, if_pos handed, given]
      rfl
    have judged : (TZprGrpcQueuedServer.Accept following).judge locals (.accepted answer) =
        .done (acceptedCall following id (SetLength (overwrite locals.Method answer.written)
          (answer.out_len.getD locals.MethodLen))) := by
      simp only [TZprGrpcQueuedServer.Accept, judgeAccept, handed, ZPR_CALL_MESSAGE, given,
        Pointer.store, Option.getD_some]
      rfl
    simp only [judged, acceptedCall] at equal
    cases found : methodPath following (SetLength (overwrite locals.Method answer.written)
        (answer.out_len.getD locals.MethodLen)) with
    | none =>
        simp only [found] at equal
        cases equal
        exact .quiet _ _ rfl rfl
    | some method =>
        simp only [found] at equal
        cases equal
        exact .accepts _ _ _ _ (.Create id method) rfl isHanded rfl stepped rfl

end ObjectHost

theorem objectStep_change (taken : objectStep host action = some (next, event)) :
    ObjectChange host action event next := by
  rw [objectStep] at taken
  split at taken
  · cases taken
  cases action with
  | Accept locals following =>
      rw [ObjectHost.act] at taken
      split at taken
      · exact ObjectHost.change_of_accept taken
      · cases taken
        exact .quiet _ _ rfl rfl
  | Read index Buf =>
      rcases Option.bind_eq_some_iff.mp taken with ⟨object, held, used⟩
      exact ObjectHost.uses_of_throughCopy used rfl held rfl rfl
  | Write index AData =>
      rcases Option.bind_eq_some_iff.mp taken with ⟨object, held, used⟩
      exact ObjectHost.uses_of_throughCopy used rfl held rfl rfl
  | Complete index AStatus AMessage =>
      rcases Option.bind_eq_some_iff.mp taken with ⟨object, held, used⟩
      cases completed : object.FCompleted with
      | true =>
          rw [if_pos completed] at used
          cases used
          exact .quiet _ _ rfl rfl
      | false =>
          rw [if_neg (by simp [completed])] at used
          exact ObjectHost.completes_of_complete used (.inl rfl) held completed
  | Destroy index =>
      rcases Option.bind_eq_some_iff.mp taken with ⟨object, held, used⟩
      cases completed : object.FCompleted with
      | true =>
          rw [if_pos completed] at used
          cases used
          exact .frees _ index object _ rfl (ObjectHost.object?_eq_some held) completed rfl rfl
      | false =>
          rw [if_neg (by simp [completed])] at used
          exact ObjectHost.completes_of_complete used (.inr ⟨rfl, rfl⟩) held completed
  | Configure AMaxPending ADeadlineMs =>
      rw [ObjectHost.act, ObjectHost.guarded] at taken
      split at taken
      · exact ObjectHost.elsewhere_of_library taken rfl rfl (fun _ => rfl) trivial
      · cases taken
        exact .quiet _ _ rfl rfl
  | StopServer =>
      rw [ObjectHost.act] at taken
      split at taken
      · rcases ObjectHost.library_eq taken with ⟨server, reply, stepped, rfl, rfl⟩
        exact .elsewhere _ _ _ _ rfl rfl rfl trivial stepped rfl
      · cases taken
        exact .quiet _ _ rfl rfl
  | FreeQueue =>
      rw [ObjectHost.act] at taken
      split at taken
      · cases taken
      split at taken
      · split at taken
        · cases taken
          exact .quiet _ _ rfl rfl
        · rcases ObjectHost.library_eq taken with ⟨server, reply, stepped, rfl, rfl⟩
          exact .elsewhere _ _ _ _ rfl rfl rfl trivial stepped rfl
      · cases taken
        exact .quiet _ _ rfl rfl
  | background step =>
      rw [ObjectHost.act] at taken
      split at taken
      · cases taken
      · rename_i notHost
        refine ObjectHost.elsewhere_of_library taken rfl ?_ (fun reply => ?_) ?_
        all_goals cases step <;> first | rfl | trivial

@[simp] theorem libraryTrace_next (trace : List ObjectEvent) (event : ObjectEvent) :
    libraryTrace (trace ++ [event]) = libraryTrace trace ++ event.2.toList := by
  rw [libraryTrace, List.filterMap_append]
  cases called : event.2 <;> simp [libraryTrace, called]

theorem callsOf_next (index : Nat) (trace : List ObjectEvent) (event : ObjectEvent) :
    callsOf index (trace ++ [event]) = callsOf index trace ++
      if event.1.object? = some index then event.2.toList else [] := by
  rw [callsOf, List.filter_append]
  by_cases own : event.1.object? = some index
  · rw [List.filter_cons_of_pos (by simp [own]), List.filter_nil, libraryTrace_next, if_pos own]
    rfl
  · rw [List.filter_cons_of_neg (by simp [own]), List.filter_nil, if_neg own, List.append_nil,
      List.append_nil]
    rfl

/-- Whatever is done with the objects, the library makes a run of it. -/
theorem library_run (run : RunWhere condition objectStep .start trace host) :
    RunWhere (fun _ action => TakesId action) serverStep .start (libraryTrace trace)
      host.server := by
  induction run with
  | start => exact .start
  | @next trace before action after event _ _ taken induction =>
      rw [libraryTrace_next]
      cases objectStep_change taken with
      | quiet _ server _ =>
          rw [server]
          simpa using induction
      | frees _ _ _ _ _ _ server =>
          rw [server]
          simpa using induction
      | elsewhere step reply _ _ _ _ takesId stepped => exact .next induction takesId stepped
      | accepts buffer reply _ object _ _ _ stepped => exact .next induction rfl stepped
      | uses _ _ step reply _ _ _ about _ stepped =>
          refine .next induction ?_ stepped
          cases step <;> trivial
      | completes _ _ _ _ _ _ _ _ _ _ stepped => exact .next induction trivial stepped

/-! ## Memory that must not be used -/

/-- A step keeps to the memory that it may use: a path is read up to a NUL, nothing is read
or written through an object once the queue is freed, and no call is completed then; and
nobody is inside the library when it is freed. -/
def Careful (host : ObjectHost) : ObjectAction → Prop
  | .Accept locals following => host.memory = .held →
      ∀ id path rest, host.server.queue.pending = (id, path) :: rest →
        (as_bytes path).length ≤ locals.Method.length → path = "" ∨ 0 ∈ as_bytes path ++ following
  | .Read _ _ | .Write _ _ => host.memory = .held
  | .Complete index _ _ | .Destroy index => host.memory = .held ∨
      ∀ object, host.object? index = some object → object.FCompleted = true
  | .FreeQueue => host.memory = .held → calledInto host.server = false
  | _ => True

theorem acceptedCall_fault_iff {id : Nat} {path : String} :
    acceptedCall following id (as_bytes path) = .fault ↔
      ¬ (path = "" ∨ 0 ∈ as_bytes path ++ following) := by
  by_cases empty : as_bytes path = []
  · rw [empty]
    exact iff_of_false nofun (not_not.mpr (.inl (as_bytes_eq_nil.mp empty)))
  · have notEmpty : path ≠ "" := fun same => empty (as_bytes_eq_nil.mpr same)
    have nonzero : ¬ (as_bytes path).length = 0 := by
      intro zero
      exact empty (List.length_eq_zero_iff.mp zero)
    rw [or_iff_right notEmpty, acceptedCall, methodPath]
    simp only [BytesPtr, nonzero, if_false, cstringAt]
    by_cases ends : 0 ∈ as_bytes path ++ following
    · simp [ends]
    · simp [ends]

namespace ObjectHost

theorem memory_of_library (taken : host.library action = some (next, event)) :
    next.memory = host.memory := by
  rcases library_eq taken with ⟨server, reply, stepped, rfl, rfl⟩
  rfl

theorem throughCopy_memory (usable : host.memory ≠ .misused)
    (taken : host.throughCopy action = some (next, event)) :
    next.memory ≠ .misused ↔ host.memory = .held := by
  rw [throughCopy] at taken
  split at taken
  · rename_i held
    rw [memory_of_library taken]
    exact iff_of_true usable held
  · rename_i notHeld
    cases taken
    exact iff_of_false (not_not.mpr rfl) notHeld

/-- `Complete` and `Destroy` look whether the call is completed, and leave the library alone
where it is. -/
theorem ending_memory {already : ObjectHost} (usable : host.memory ≠ .misused)
    (found : host.object? index = some object)
    (taken : (if object.FCompleted then some (already, none)
      else host.complete index object freed AStatus AMessage) = some (next, event))
    (unchanged : already.memory = host.memory) :
    next.memory ≠ .misused ↔ host.memory = .held ∨
      ∀ object, host.object? index = some object → object.FCompleted = true := by
  split at taken
  · rename_i completed
    cases taken
    rw [unchanged]
    refine iff_of_true usable (.inr fun other same => ?_)
    cases found.symm.trans same
    exact completed
  · rename_i isOpen
    have notAll : ¬ ∀ object, host.object? index = some object → object.FCompleted = true := by
      intro all
      exact isOpen (all object found)
    rw [or_iff_left notAll]
    rw [complete] at taken
    split at taken
    · rename_i held
      rw [memory_of_library taken]
      exact iff_of_true usable held
    · rename_i notHeld
      cases taken
      exact iff_of_false (not_not.mpr rfl) notHeld

theorem accept_memory (held : host.memory = .held)
    (taken : host.accept locals following = some (next, event)) :
    next.memory ≠ .misused ↔ ∀ id path rest, host.server.queue.pending = (id, path) :: rest →
      (as_bytes path).length ≤ locals.Method.length →
        path = "" ∨ 0 ∈ as_bytes path ++ following := by
  rw [accept] at taken
  rcases Option.map_eq_some_iff.mp taken with ⟨⟨server, reply⟩, stepped, equal⟩
  cases waiting : host.server.queue.pending with
  | nil =>
      simp only [TZprGrpcQueuedServer.judge_of_empty following waiting stepped] at equal
      cases equal
      exact iff_of_true (by simp [held]) nofun
  | cons first rest =>
      rcases first with ⟨id, path⟩
      rcases TZprGrpcQueuedServer.judge_of_waiting following waiting stepped with
        ⟨fits, done⟩ | ⟨short, _, larger, again, _⟩
      · have reads : (∀ other text more, (id, path) :: rest = (other, text) :: more →
            (as_bytes text).length ≤ locals.Method.length →
              text = "" ∨ 0 ∈ as_bytes text ++ following) ↔
            path = "" ∨ 0 ∈ as_bytes path ++ following := by
          constructor
          · intro all
            exact all id path rest rfl fits
          · intro ends other text more same _
            cases same
            exact ends
        have fault : acceptedCall following id (as_bytes path) = .fault ↔
            ¬ (path = "" ∨ 0 ∈ as_bytes path ++ following) := acceptedCall_fault_iff
        rw [reads, ← not_iff_not, not_not, ← fault]
        simp only [done] at equal
        cases result : acceptedCall following id (as_bytes path) with
        | nothing | call =>
            simp only [result] at equal
            cases equal
            exact iff_of_false (by simp [held]) nofun
        | fault =>
            simp only [result] at equal
            cases equal
            exact iff_of_true rfl rfl
      · simp only [again] at equal
        cases equal
        refine iff_of_true (by simp [held]) fun other text more same fits => ?_
        cases same
        omega

end ObjectHost

theorem memory_next_iff (taken : objectStep host action = some (next, event)) :
    next.memory ≠ .misused ↔ Careful host action := by
  rw [objectStep] at taken
  split at taken
  · cases taken
  rename_i usable
  cases action with
  | Accept locals following =>
      rw [ObjectHost.act] at taken
      split at taken
      · rename_i held
        rw [ObjectHost.accept_memory held taken, Careful, forall_prop_of_true held]
      · rename_i notHeld
        cases taken
        exact iff_of_true usable fun held => absurd held notHeld
  | Read index Buf | Write index Buf =>
      rcases Option.bind_eq_some_iff.mp taken with ⟨object, held, used⟩
      exact ObjectHost.throughCopy_memory usable used
  | Complete index AStatus AMessage | Destroy index =>
      rcases Option.bind_eq_some_iff.mp taken with ⟨object, found, used⟩
      exact ObjectHost.ending_memory usable found used rfl
  | Configure AMaxPending ADeadlineMs =>
      rw [ObjectHost.act, ObjectHost.guarded] at taken
      split at taken
      · rw [ObjectHost.memory_of_library taken]
        exact iff_of_true usable trivial
      · cases taken
        exact iff_of_true usable trivial
  | StopServer =>
      rw [ObjectHost.act] at taken
      split at taken
      · rw [ObjectHost.memory_of_library taken]
        exact iff_of_true usable trivial
      · cases taken
        exact iff_of_true usable trivial
  | FreeQueue =>
      rw [ObjectHost.act] at taken
      split at taken
      · cases taken
      split at taken
      · rename_i held
        split at taken
        · rename_i inside
          cases taken
          refine iff_of_false (not_not.mpr rfl) fun careful => ?_
          rw [careful held] at inside
          cases inside
        · rename_i outside
          rw [ObjectHost.memory_of_library taken]
          exact iff_of_true nofun fun _ => eq_false_of_ne_true outside
      · rename_i notHeld
        cases taken
        exact iff_of_true usable fun held => absurd held notHeld
  | background step =>
      rw [ObjectHost.act] at taken
      split at taken
      · cases taken
      · rw [ObjectHost.memory_of_library taken]
        exact iff_of_true usable trivial

/-- The runs that use no memory that they must not are those whose every step is careful. -/
theorem careful_run_iff (run : Run objectStep .start trace host) :
    host.memory ≠ .misused ↔ RunWhere Careful objectStep .start trace host := by
  constructor
  · intro usable
    induction run with
    | start => exact .start
    | @next trace before action after event _ _ taken induction =>
        have usableBefore : before.memory ≠ .misused := by
          intro misused
          rw [objectStep, if_pos misused] at taken
          cases taken
        exact .next (induction usableBefore) ((memory_next_iff taken).mp usable) taken
  · intro careful
    cases careful with
    | start => exact nofun
    | next _ met taken => exact (memory_next_iff taken).mpr met

end Zpr.Pascal
