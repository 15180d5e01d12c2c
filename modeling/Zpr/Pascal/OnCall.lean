import Zpr.GrpcServer.CallbackHistory
import Zpr.Pascal.TrampolineMemory

namespace Zpr.Pascal

open Ffi GrpcServer

/-! # What a client sees of `OnCall`

A method of the host is a program in its own right: it reads, writes, returns a status or
lets an exception escape. A `Write` that fails raises an exception into the method, which
may go on after it. Through the trampoline the method is a host program of the library, for
every call by itself and however the threads take turns. -/

/-- What the method does next. -/
inductive OnCallStep
  | Read
  | Write (AData : TBytes)
  | returns (Status : Int) (Msg : String)
  /-- An exception escapes. -/
  | raises (Message : String)
  deriving DecidableEq, Repr

abbrev OnCall := List HostEvent → OnCallStep

/-- What the library makes of the method, or of none. -/
def hostProgram (assigned : Bool) (FOnCall : OnCall) : HostProgram := fun history =>
  if assigned then
    match FOnCall history with
    | .Read => .read
    | .Write AData => .write AData
    | .returns Status Msg => .finish Status Msg
    | .raises Message => .finish 13 Message
  else .finish 12 ""

/-! ## The events of one call -/

abbrev CallbackHostTrace := List (CallbackHostAction × CallbackHostReply)

/-- What an event of the host is to the library. -/
def callbackPart : CallbackHostAction × CallbackHostReply → CallbackTrace
  | (.task _ action, .callback reply) => [(action, reply)]
  | (.Read _ _, .callback reply) => [(.read .valid, reply)]
  | (.Write _ AData, .callback reply) => [(.write (BytesPtr AData) AData, reply)]
  | (.take_message _, .took out_status out_msg) => [(.returns out_status out_msg, .silent)]
  | _ => []

/-- What the method gets to see of an event. -/
def methodPart : CallbackHostAction × CallbackHostReply → List HostEvent
  | (.Read _ _, .callback (.read reply)) => if reply.rc = 0 then [.client_done] else []
  | (.BufferToBytes _, .bytes AData) => [.read AData]
  | (.Write _ AData, .callback (.returned rc _)) =>
      if rc = ZPR_OK then [.wrote AData] else [.refused AData]
  | _ => []

/-- The events of one party, as some part of each. -/
def ofParty (part : CallbackHostAction × CallbackHostReply → List Item) (index : Nat)
    (trace : CallbackHostTrace) : List Item :=
  trace.flatMap fun event => if event.1.index = some index then part event else []

def callbackTraceOf (index : Nat) (trace : CallbackHostTrace) : CallbackTrace :=
  ofParty callbackPart index trace

def methodEvents (index : Nat) (trace : CallbackHostTrace) : List HostEvent :=
  ofParty methodPart index trace

/-- What came with each party: a request, or nothing for a thread of the host's own. -/
def arrivalPart : CallbackHostAction × CallbackHostReply → List (Option (String × RequestBody))
  | (.arrive path body, .silent) => [some (path, body)]
  | (.start_thread, _) => [none]
  | _ => []

def arrivals (trace : CallbackHostTrace) : List (Option (String × RequestBody)) :=
  trace.flatMap arrivalPart

@[simp] theorem arrivals_next (trace : CallbackHostTrace)
    (event : CallbackHostAction × CallbackHostReply) :
    arrivals (trace ++ [event]) = arrivals trace ++ arrivalPart event := by
  simp [arrivals]

section

variable {part : CallbackHostAction × CallbackHostReply → List Item} {index : Nat}
  {trace : CallbackHostTrace} {event : CallbackHostAction × CallbackHostReply}

theorem ofParty_next_own (own : event.1.index = some index) :
    ofParty part index (trace ++ [event]) = ofParty part index trace ++ part event := by
  simp [ofParty, own]

theorem ofParty_next_other (other : event.1.index ≠ some index) :
    ofParty part index (trace ++ [event]) = ofParty part index trace := by
  simp [ofParty, other]

theorem ofParty_eq_nil (none : ∀ event ∈ trace, event.1.index ≠ some index) :
    ofParty part index trace = [] := by
  rw [ofParty, List.flatMap_eq_nil_iff]
  intro event member
  exact if_neg (none event member)

end

/-- The handler of a call does what the method says. -/
def RunsOnCall (FOnCall : OnCall) (index : Nat) (trace : CallbackHostTrace) :
    CallbackHostAction → Prop
  | .Read other _ => other = index → FOnCall (methodEvents index trace) = .Read
  | .Write other AData => other = index → FOnCall (methodEvents index trace) = .Write AData
  | .returns other Status Msg =>
      other = index → ∃ text, FOnCall (methodEvents index trace) = .returns Status text ∧
        Msg = cstr text
  | .raises other Message => other = index → FOnCall (methodEvents index trace) = .raises Message
  | _ => True

/-! ## One call among the others -/

/-- Where the thread is, against what the method has seen and what the library has. -/
def HandlerThread.Agrees (program : HostProgram) (assigned : Bool) (memory : Memory)
    (seen history : List HostEvent) : HandlerThread → Prop
  | .entering => history = seen
  | .FOnCall => history = seen ∧ assigned = true
  | .reading Buf => ∃ msg, Buf.Holds memory msg ∧ history = seen ++ [.read msg] ∧ assigned = true
  | .returned out_status out_msg out_msg_len =>
      history = seen ∧ ∃ message, program history = .finish out_status message ∧
        MessageHolds memory out_msg (cstr message) ∧ (cstr message).length = out_msg_len
  | .left => history = seen

theorem HandlerThread.Agrees.elsewhere {program : HostProgram} {memory after : Memory}
    {thread : HandlerThread} (agrees : thread.Agrees program assigned memory seen history)
    (same : ∀ id ∈ thread.blocks, after.lent.find? id = memory.lent.find? id) :
    thread.Agrees program assigned after seen history := by
  cases thread with
  | entering => exact agrees
  | FOnCall => exact agrees
  | reading Buf =>
      rcases agrees with ⟨msg, holds, rest⟩
      exact ⟨msg, holds.elsewhere same, rest⟩
  | returned out_status out_msg out_msg_len =>
      rcases agrees with ⟨seen, message, finishes, holds, whole⟩
      exact ⟨seen, message, finishes, holds.imp_right fun honours => honours.elsewhere same, whole⟩
  | left => exact agrees

/-- What the method has seen is the start of the call's history. -/
theorem HandlerThread.Agrees.seen_isPrefix {program : HostProgram} {memory : Memory}
    {thread : HandlerThread} (agrees : thread.Agrees program assigned memory seen history) :
    seen <+: history := by
  cases thread with
  | entering => exact agrees ▸ List.prefix_refl _
  | FOnCall => exact agrees.1 ▸ List.prefix_refl _
  | reading Buf =>
      rcases agrees with ⟨msg, _, rfl, _⟩
      exact List.prefix_append _ _
  | returned => exact agrees.1 ▸ List.prefix_refl _
  | left => exact agrees ▸ List.prefix_refl _

/-- What the party at an index is to the library. -/
structure CallFollows (FOnCall : OnCall) (assigned : Bool) (index : Nat) (start : CallbackCall)
    (trace : CallbackHostTrace) (host : CallbackHost) (rpc : CallbackCall)
    (thread : HandlerThread) : Prop where
  at_ : host.parties[index]? = some (.call rpc thread)
  run : GuidedRun (RunsProgram (hostProgram assigned FOnCall)) callbackStep start
    (callbackTraceOf index trace) rpc
  agrees : thread.Agrees (hostProgram assigned FOnCall) assigned host.memory
    (methodEvents index trace) (callbackEvents (callbackTraceOf index trace))

namespace CallFollows

variable {FOnCall : OnCall} {assigned : Bool} {index : Nat} {start rpc : CallbackCall}
  {trace : CallbackHostTrace} {host next : CallbackHost} {thread : HandlerThread}
  {action : CallbackHostAction} {reply : CallbackHostReply}

/-- A step of another party. -/
theorem step_other (follows : CallFollows FOnCall assigned index start trace host rpc thread)
    (sound : host.Sound) (effect : CallbackHostEffect host action.index next)
    (other : action.index ≠ some index) :
    CallFollows FOnCall assigned index start (trace ++ [(action, reply)]) next rpc thread := by
  rcases effect.frame sound follows.at_ other with ⟨at_, same⟩
  refine ⟨at_, ?_, ?_⟩
  · rw [callbackTraceOf, ofParty_next_other other]
    exact follows.run
  · rw [callbackTraceOf, methodEvents, ofParty_next_other other, ofParty_next_other other]
    exact follows.agrees.elsewhere same

theorem at_update {party : Party} (after : Party) (memory : Memory)
    (at_ : host.parties[index]? = some party) :
    (host.update index after memory).parties[index]? = some after := by
  rw [CallbackHost.update, List.getElem?_set_self', at_]
  rfl

/-- A step of the call's own that the library has no part in. -/
theorem step_silent {after : HandlerThread} {memory : Memory}
    (follows : CallFollows FOnCall assigned index start trace host rpc thread)
    (own : action.index = some index) (quiet : callbackPart (action, reply) = [])
    (agrees : after.Agrees (hostProgram assigned FOnCall) assigned memory
      (methodEvents index trace ++ methodPart (action, reply))
      (callbackEvents (callbackTraceOf index trace))) :
    CallFollows FOnCall assigned index start (trace ++ [(action, reply)])
      (host.update index (.call rpc after) memory) rpc after := by
  refine ⟨at_update _ memory follows.at_, ?_, ?_⟩
  · rw [callbackTraceOf, ofParty_next_own own, quiet, List.append_nil]
    exact follows.run
  · rw [callbackTraceOf, methodEvents, ofParty_next_own own, ofParty_next_own own, quiet,
      List.append_nil]
    exact agrees

/-- A step that the library takes for the call. -/
theorem step_taken {after : CallbackCall} {later : HandlerThread} {memory : Memory}
    {step : CallbackAction} {answer : CallbackReply}
    (follows : CallFollows FOnCall assigned index start trace host rpc thread)
    (own : action.index = some index) (part : callbackPart (action, reply) = [(step, answer)])
    (runs : RunsProgram (hostProgram assigned FOnCall) (callbackTraceOf index trace) step)
    (stepped : callbackStep rpc step = some (after, answer))
    (agrees : later.Agrees (hostProgram assigned FOnCall) assigned memory
      (methodEvents index trace ++ methodPart (action, reply))
      (callbackEvents (callbackTraceOf index trace) ++ callbackEventOf (step, answer))) :
    CallFollows FOnCall assigned index start (trace ++ [(action, reply)])
      (host.update index (.call after later) memory) after later := by
  refine ⟨at_update _ memory follows.at_, ?_, ?_⟩
  · rw [callbackTraceOf, ofParty_next_own own, part]
    exact follows.run.next runs stepped
  · rw [callbackTraceOf, methodEvents, ofParty_next_own own, ofParty_next_own own, part,
      callbackEvents_next]
    exact agrees

variable {fromAnsi : Json.FromAnsi}

theorem hostProgram_assigned {history : List HostEvent} {does : OnCallStep} {made : HostAction}
    (isAssigned : assigned = true) (decides : FOnCall history = does)
    (makes : hostProgram true (fun _ => does) history = made) :
    hostProgram assigned FOnCall history = made := by
  subst isAssigned
  rw [← makes, hostProgram, hostProgram, if_pos rfl, if_pos rfl, decides]

/-- How the method ends is what the host program finishes with. -/
theorem finish_of_ends {before : HandlerThread} {Status : Int} {Msg : Bytes}
    (ending : EndsWith assigned index action before Status Msg)
    (runs : RunsOnCall FOnCall index trace action)
    (agrees : before.Agrees (hostProgram assigned FOnCall) assigned memory
      (methodEvents index trace) history) :
    history = methodEvents index trace ∧ ∃ message,
      hostProgram assigned FOnCall history = .finish Status message ∧ Msg = cstr message := by
  cases ending with
  | unassigned isNot =>
      subst isNot
      exact ⟨agrees, "", rfl, rfl⟩
  | returned Status Msg =>
      rcases agrees with ⟨rfl, isAssigned⟩
      rcases runs rfl with ⟨text, returns, rfl⟩
      exact ⟨rfl, text, hostProgram_assigned isAssigned returns rfl, rfl⟩
  | raised Message =>
      rcases agrees with ⟨rfl, isAssigned⟩
      exact ⟨rfl, Message, hostProgram_assigned isAssigned (runs rfl) rfl, rfl⟩

/-- A step of the call itself: nothing to the library, or what the host program does. -/
theorem step_own (follows : CallFollows FOnCall assigned index start trace host rpc thread)
    (sound : host.Sound) (same : host.assigned = assigned)
    (runs : RunsOnCall FOnCall index trace action)
    (change : CallbackHostChange fromAnsi host action next reply)
    (own : action.index = some index) :
    ∃ after later, CallFollows FOnCall assigned index start (trace ++ [(action, reply)]) next
      after later := by
  have agrees := follows.agrees
  cases change with
  | refused => cases own
  | arrives => cases own
  | thread_starts => cases own
  | task at_ allowed stepped =>
      cases own
      cases at_.symm.trans follows.at_
      rename_i step after answer
      refine ⟨after, thread, follows.step_taken rfl rfl ?_ stepped ?_⟩
      · cases step <;> trivial
      · have quiet : callbackEventOf (step, answer) = [] := by
          cases step <;> first | rfl | cases allowed
        rw [quiet, List.append_nil]
        simpa [methodPart] using agrees
  | enters at_ isAssigned =>
      cases own
      cases at_.symm.trans follows.at_
      have assignedTrue : assigned = true := same ▸ isAssigned
      refine ⟨rpc, .FOnCall, follows.step_silent rfl rfl ⟨?_, assignedTrue⟩⟩
      rw [show methodPart (.enter index, .silent) = [] from rfl, List.append_nil]
      exact agrees
  | reads at_ received v items =>
      cases own
      cases at_.symm.trans follows.at_
      rename_i spare after msg
      rcases agrees with ⟨history, isAssigned⟩
      have running := (sound.parties _ _ at_).2 (by simp)
      refine ⟨after, .reading (ZprBuffer.from_vec host.memory v).1,
        follows.step_taken rfl rfl ⟨?_, rfl⟩ ?_ ?_⟩
      · rw [history]
        exact hostProgram_assigned isAssigned (runs rfl) rfl
      · rw [callbackStep, if_pos running]
        exact received
      · refine ⟨msg, ?_, ?_, isAssigned⟩
        · rw [← items]
          exact ZprBuffer.holds_from_vec host.memory v
        · rw [history]
          simp [methodPart, callbackEventOf]
  | reads_end at_ received =>
      cases own
      cases at_.symm.trans follows.at_
      rename_i spare after
      rcases agrees with ⟨history, isAssigned⟩
      have running := (sound.parties _ _ at_).2 (by simp)
      refine ⟨after, .FOnCall, follows.step_taken rfl rfl ⟨?_, rfl⟩ ?_ ⟨?_, isAssigned⟩⟩
      · rw [history]
        exact hostProgram_assigned isAssigned (runs rfl) rfl
      · rw [callbackStep, if_pos running]
        exact received
      · rw [history]
        simp [methodPart, callbackEventOf]
  | copies at_ copied =>
      cases own
      cases at_.symm.trans follows.at_
      rcases agrees with ⟨msg, holds, history, isAssigned⟩
      rcases BufferToBytes_of_holds holds with ⟨rest, result, _⟩
      cases result.symm.trans copied
      exact ⟨rpc, .FOnCall, follows.step_silent rfl rfl ⟨history, isAssigned⟩⟩
  | writes at_ written =>
      cases own
      cases at_.symm.trans follows.at_
      rename_i AData after answer
      rcases agrees with ⟨history, isAssigned⟩
      have running := (sound.parties _ _ at_).2 (by simp)
      refine ⟨after, .FOnCall, follows.step_taken rfl rfl ⟨?_, ?_⟩ ?_ ⟨?_, isAssigned⟩⟩
      · rw [history]
        exact hostProgram_assigned isAssigned (runs rfl) rfl
      · intro nonempty
        rw [BytesPtr, if_neg fun none => nonempty (List.length_eq_zero_iff.mp none)]
      · rw [callbackStep, if_pos running]
        exact written
      · rw [history]
        cases answer <;> rfl
  | ends at_ ending ended =>
      rename_i other rpc before Status Msg OutMessage memory
      have isSame : other = index := by cases ending <;> exact Option.some.inj own
      have quiet : callbackPart (action, .silent) = [] ∧ methodPart (action, .silent) = [] := by
        cases ending <;> exact ⟨rfl, rfl⟩
      subst isSame
      cases at_.symm.trans follows.at_
      rw [same] at ending
      rcases finish_of_ends ending runs agrees with ⟨history, message, finishes, rfl⟩
      rcases trampolineEnd_spec host.memory Status (cstr message) with ⟨_, _, result, holds, _⟩
      cases result.symm.trans ended
      refine ⟨rpc, _, follows.step_silent own quiet.1 ⟨?_, message, finishes, holds, rfl⟩⟩
      rw [quiet.2, List.append_nil]
      exact history
  | message_taken at_ taken running =>
      cases own
      cases at_.symm.trans follows.at_
      rcases agrees with ⟨history, message, finishes, holds, rfl⟩
      rcases takeMessage_of_holds holds with ⟨bytes, rest, result, told, _⟩
      cases result.symm.trans taken
      refine ⟨_, .left, follows.step_taken rfl rfl ⟨message, finishes, ?_⟩ ?_ ?_⟩
      · refine told.imp (fun whole => whole) fun none => ⟨?_, none.2⟩
        exact cstr_inj none.1
      · rw [callbackStep, if_pos running]
      · simpa [HandlerThread.Agrees, methodPart, callbackEventOf] using history
  | hands handed at_ =>
      cases own
      cases at_.symm.trans follows.at_
  | takes at_ =>
      cases own
      cases at_.symm.trans follows.at_

end CallFollows

/-! ## Runs -/

section

variable {FOnCall : OnCall} {assigned : Bool} {index : Nat} {fromAnsi : Json.FromAnsi}
  {trace : CallbackHostTrace} {host next : CallbackHost} {action : CallbackHostAction}
  {reply : CallbackHostReply}

/-- A party has come before anything is done by it. -/
theorem present_of_change (change : CallbackHostChange fromAnsi host action next reply) :
    (∀ other, action.index = some other → other < host.parties.length) ∧
      next.assigned = host.assigned ∧
      next.parties.length = host.parties.length + (arrivalPart (action, reply)).length := by
  have inside : ∀ {other : Nat} {party : Party}, host.parties[other]? = some party →
      ∀ another, some other = some another → another < host.parties.length := by
    intro other party at_ another equal
    cases equal
    exact (List.getElem?_eq_some_iff.mp at_).1
  cases change with
  | refused => exact ⟨(fun _ none => nomatch none), rfl, rfl⟩
  | arrives => exact ⟨(fun _ none => nomatch none), rfl, List.length_append⟩
  | thread_starts => exact ⟨(fun _ none => nomatch none), rfl, List.length_append⟩
  | ends at_ ending =>
      cases ending <;> exact ⟨inside at_, rfl, List.length_set⟩
  | task at_ | enters at_ | reads at_ | reads_end at_ | copies at_ | writes at_
  | message_taken at_ | hands _ at_ | takes at_ => exact ⟨inside at_, rfl, List.length_set⟩

structure HostFollows (FOnCall : OnCall) (assigned : Bool) (index : Nat)
    (trace : CallbackHostTrace) (host : CallbackHost) : Prop where
  sound : host.Sound
  same : host.assigned = assigned
  arrived : (arrivals trace).length = host.parties.length
  present : ∀ event ∈ trace, ∀ other, event.1.index = some other → other < host.parties.length
  calls : ∀ path body, (arrivals trace)[index]? = some (some (path, body)) →
    ∃ start rpc thread, handle path body = .ok start ∧
      CallFollows FOnCall assigned index start trace host rpc thread

theorem HostFollows.step (follows : HostFollows FOnCall assigned index trace host)
    (runs : RunsOnCall FOnCall index trace action)
    (change : CallbackHostChange fromAnsi host action next reply) :
    HostFollows FOnCall assigned index (trace ++ [(action, reply)]) next := by
  have effect := effect_of_change follows.sound change
  rcases present_of_change change with ⟨inside, sameAssigned, longer⟩
  refine ⟨effect.sound follows.sound, sameAssigned.trans follows.same, ?_, ?_, ?_⟩
  · rw [arrivals_next, List.length_append, follows.arrived, longer]
  · intro event member other at_
    have before : other < host.parties.length := by
      rcases List.mem_append.mp member with earlier | last
      · exact follows.present event earlier other at_
      · cases List.mem_singleton.mp last
        exact inside other at_
    omega
  · intro path body brought
    rw [arrivals_next] at brought
    by_cases known : index < (arrivals trace).length
    · rw [List.getElem?_append_left known] at brought
      rcases follows.calls path body brought with ⟨start, rpc, thread, opened, call⟩
      by_cases own : action.index = some index
      · rcases call.step_own follows.sound follows.same runs change own with ⟨after, later, holds⟩
        exact ⟨start, after, later, opened, holds⟩
      · exact ⟨start, rpc, thread, opened, call.step_other follows.sound effect own⟩
    · -- the call has come with this very step
      rw [List.getElem?_append_right (Nat.le_of_not_lt known)] at brought
      cases change with
      | arrives opened =>
          rename_i path' body' rpc
          rcases List.getElem?_eq_some_iff.mp brought with ⟨bound, same⟩
          have atEnd : index = host.parties.length := by
            have small : index - (arrivals trace).length < 1 := bound
            rw [follows.arrived] at known small
            omega
          have first : index - (arrivals trace).length = 0 := by
            rw [follows.arrived]
            omega
          simp only [first, arrivalPart, List.getElem_singleton] at same
          cases same
          have fresh : ∀ {Item : Type}
              (part : CallbackHostAction × CallbackHostReply → List Item),
              ofParty part index (trace ++ [(.arrive path body, .silent)]) = [] := by
            intro Item part
            rw [ofParty_next_other (by simp [CallbackHostAction.index])]
            apply ofParty_eq_nil
            intro event member at_
            have before := follows.present event member index at_
            omega
          refine ⟨rpc, rpc, .entering, opened, ?_, ?_, ?_⟩
          · rw [atEnd]
            exact List.getElem?_concat_length
          · rw [callbackTraceOf, fresh]
            exact .start
          · rw [callbackTraceOf, methodEvents, fresh, fresh]
            rfl
      | thread_starts =>
          rcases List.getElem?_eq_some_iff.mp brought with ⟨bound, same⟩
          simp [arrivalPart] at same
      | ends _ ending => cases ending <;> simp [arrivalPart] at brought
      | _ => simp [arrivalPart] at brought

/-- Let every thread, task and client move in any order, and let the handler of one call do
what the method `OnCall` says. That call is then one of the library in callback mode whose
host program is the method's, where an exception is the status 13 with its message and a
method that is not assigned is the status 12. The messages that the method has read are the
first of the request. Until one of its writes has failed it has seen a part of what the
program sees, unchanged. If the client stays connected then none has failed, and the client
has been shown a part of what the program shows it. -/
theorem client_is_shown_what_OnCall_does
    (run : GuidedRun (RunsOnCall FOnCall index) (callbackHostStep fromAnsi) (.start assigned)
      trace host) (brought : (arrivals trace)[index]? = some (some (path, body))) :
    ∃ start rpc thread, handle path body = .ok start ∧
      host.parties[index]? = some (.call rpc thread) ∧
      GuidedRun (RunsProgram (hostProgram assigned FOnCall)) callbackStep start
        (callbackTraceOf index trace) rpc ∧
      messagesRead (methodEvents index trace) <+: body.messages ∧
      (∃ stage, beforeRefusal (methodEvents index trace) <+:
        historyAt (hostProgram assigned FOnCall) body.messages stage) ∧
      (rpc.connected = true → Unrefused (methodEvents index trace) ∧
        Shows (hostProgram assigned FOnCall) body.messages
          (callbackFrames (callbackTraceOf index trace))) := by
  have follows : HostFollows FOnCall assigned index trace host := by
    refine run.invariant (HostFollows FOnCall assigned index) ?_ ?_
    · refine ⟨sound_start assigned, rfl, rfl, ?_, ?_⟩
      · exact fun event member => absurd member List.not_mem_nil
      · intro path body brought
        cases brought
    · intro trace state action next reply _ known runs taken
      exact known.step runs (change_of_step known.sound taken)
  rcases follows.calls path body brought with ⟨start, rpc, thread, opened, call⟩
  have explained := callbackExplained_of_run opened call.run
  have seen := call.agrees.seen_isPrefix
  refine ⟨start, rpc, thread, opened, call.at_, call.run, ?_, ?_, fun connected => ⟨?_, ?_⟩⟩
  · exact (seen.flatMap _).trans explained.inOrder
  · rcases explained.reached with ⟨stage, reached⟩
    refine ⟨stage, ?_⟩
    rw [reached]
    exact beforeRefusal_isPrefix seen
  · intro event member
    exact explained.unrefused connected event (seen.subset member)
  · exact explained.shows connected

end

/-- Reads a message, writes it back and fails. -/
def echoAndRaise : OnCall
  | [] => .Read
  | [.read msg] => .Write msg
  | _ => .raises "no"

/-- One message of one byte. -/
def oneByte : RequestBody := ⟨[.data [0, 0, 0, 0, 1, 7]], false⟩

/-- A thread of the host comes first, and the client stays until the end. -/
theorem client_is_shown_what_OnCall_does_for_echo : ∃ trace host start rpc thread,
    GuidedRun (RunsOnCall echoAndRaise 1) (callbackHostStep id) (.start true) trace host ∧
      handle "/a" oneByte = .ok start ∧
      host.parties[1]? = some (.call rpc thread) ∧ rpc.connected = true ∧
      callbackFrames (callbackTraceOf 1 trace) = [shown [7],
        some (.trailers [("grpc-status", "13"), ("grpc-message", "no")]), none] ∧
      GuidedRun (RunsProgram (hostProgram true echoAndRaise)) callbackStep start
        (callbackTraceOf 1 trace) rpc ∧
      messagesRead (methodEvents 1 trace) <+: oneByte.messages ∧
      (∃ stage, beforeRefusal (methodEvents 1 trace) <+:
        historyAt (hostProgram true echoAndRaise) oneByte.messages stage) ∧
      (rpc.connected = true → Unrefused (methodEvents 1 trace) ∧
        Shows (hostProgram true echoAndRaise) oneByte.messages
          (callbackFrames (callbackTraceOf 1 trace))) := by
  have replayed : ∃ trace host rpc thread, replay (callbackHostStep id) (.start true)
        [.start_thread, .arrive "/a" oneByte, .task 1 .pump_inbound,
          .task 1 .pump_inbound, .enter 1, .Read 1 0, .hand 0 .no_text, .BufferToBytes 1,
          .Write 1 [7], .raises 1 "no", .task 1 .poll_frame, .take_message 1, .task 1 .reclaim,
          .take 0, .task 1 .send_status, .task 1 .poll_frame, .task 1 .poll_frame] =
        some (trace, host) ∧
      AllowedAfter (RunsOnCall echoAndRaise 1) [] trace ∧
      (arrivals trace)[1]? = some (some ("/a", oneByte)) ∧
      host.parties[1]? = some (.call rpc thread) ∧ rpc.connected = true ∧
      callbackFrames (callbackTraceOf 1 trace) = [shown [7],
        some (.trailers [("grpc-status", "13"), ("grpc-message", "no")]), none] := by
    refine ⟨_, _, _, _, rfl, ?_, rfl, rfl, rfl, rfl⟩
    exact ⟨trivial, trivial, trivial, trivial, trivial, fun _ => rfl, trivial, trivial,
      fun _ => rfl, fun _ => rfl, trivial, trivial, trivial, trivial, trivial, trivial, trivial,
      trivial⟩
  rcases replayed with
    ⟨trace, host, rpc, thread, replayed, runs, brought, at_, connected, shownFrames⟩
  have run := guidedRun_of_run (run_of_replay replayed) runs
  rcases client_is_shown_what_OnCall_does run brought with
    ⟨start, found, there, opened, same, called, inOrder, seen, shows⟩
  cases at_.symm.trans same
  exact ⟨trace, host, start, rpc, thread, run, opened, at_, connected, shownFrames, called, inOrder,
    seen, shows⟩

end Zpr.Pascal
