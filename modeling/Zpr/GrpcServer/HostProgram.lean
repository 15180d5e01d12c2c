import Mathlib.Data.List.TakeWhile
import Zpr.Foundation.GuidedRun
import Zpr.GrpcServer.ResponseHistory

namespace Zpr.GrpcServer

/-! # What a host does with a call

A host decides from what it has seen of a call what it does next with it: read, write a
message or finish with a status. That and the messages of the request determine what the
client is to be shown, however the host and the connection are scheduled. -/

/-- What a host has seen of a call: a message that it has read, the end of the request,
or a message of its own that has been taken or, with the client gone, refused. -/
inductive HostEvent
  | read (msg : Bytes)
  | client_done
  | wrote (msg : Bytes)
  | refused (msg : Bytes)
  deriving DecidableEq, Repr

inductive HostAction
  | read
  | write (msg : Bytes)
  | finish (status : Int) (message : String)
  deriving DecidableEq, Repr

abbrev HostProgram := List HostEvent → HostAction

namespace HostEvent

def messageRead : HostEvent → List Bytes
  | .read msg => [msg]
  | _ => []

def messageWritten : HostEvent → List Bytes
  | .wrote msg => [msg]
  | _ => []

def isRefusal : HostEvent → Bool
  | .refused _ => true
  | _ => false

end HostEvent

def messagesRead (history : List HostEvent) : List Bytes := history.flatMap HostEvent.messageRead

def messagesWritten (history : List HostEvent) : List Bytes :=
  history.flatMap HostEvent.messageWritten

/-- The host has not been told that its client is gone. -/
def Unrefused (history : List HostEvent) : Prop := ∀ event ∈ history, event.isRefusal = false

/-- What a host has seen before it was told that its client is gone. -/
def beforeRefusal (history : List HostEvent) : List HostEvent :=
  history.takeWhile fun event => !event.isRefusal

@[simp] theorem messagesWritten_append (history more : List HostEvent) :
    messagesWritten (history ++ more) = messagesWritten history ++ messagesWritten more := by
  simp [messagesWritten]

/-- The outcome that a call finishes with. -/
def HostAction.outcome : HostAction → List (Int × String)
  | .finish status message => [(status, message)]
  | _ => []

/-- What a host sees next of a call whose request consists of `messages`. -/
def nextEvent (program : HostProgram) (messages : List Bytes) (history : List HostEvent) :
    Option HostEvent :=
  match program history with
  | .read => some ((messages[(messagesRead history).length]?).elim .client_done .read)
  | .write msg => some (.wrote msg)
  | .finish _ _ => none

section Response

variable {program : HostProgram} {messages : List Bytes} {history : List HostEvent}

theorem nextEvent_of_read (reads : program history = .read)
    (arrived : messages[(messagesRead history).length]? = some msg) :
    nextEvent program messages history = some (.read msg) := by
  simp [nextEvent, reads, arrived]

theorem nextEvent_of_done (reads : program history = .read)
    (all : messagesRead history = messages) :
    nextEvent program messages history = some .client_done := by
  simp [nextEvent, reads, all]

theorem nextEvent_of_write (writes : program history = .write msg) :
    nextEvent program messages history = some (.wrote msg) := by
  simp [nextEvent, writes]

theorem nextEvent_cases (program : HostProgram) (messages : List Bytes)
    (history : List HostEvent) :
    (∃ event, nextEvent program messages history = some event ∧
      (program history).outcome = []) ∨
    ∃ status message, program history = .finish status message ∧
      nextEvent program messages history = none := by
  cases decided : program history with
  | read =>
      refine .inl ⟨(messages[(messagesRead history).length]?).elim .client_done .read, ?_, rfl⟩
      simp only [nextEvent, decided]
  | write msg => exact .inl ⟨_, nextEvent_of_write decided, rfl⟩
  | finish status message => exact .inr ⟨status, message, rfl, by simp only [nextEvent, decided]⟩

/-- The history after some number of the host's turns. -/
def historyAt (program : HostProgram) (messages : List Bytes) (stage : Nat) : List HostEvent :=
  unfold (nextEvent program messages) stage

theorem reached_next (reached : ∃ stage, historyAt program messages stage = history)
    (event : nextEvent program messages history = some next) :
    ∃ stage, historyAt program messages stage = history ++ [next] := by
  rcases reached with ⟨stage, rfl⟩
  exact ⟨stage + 1, unfold_of_next event⟩

/-- What the client has been shown when the host has had some number of turns, and when
the client has polled as often after the trailers. -/
def response (program : HostProgram) (messages : List Bytes) (stage : Nat) :
    List (Option Frame) :=
  expectedFrames (messagesWritten (historyAt program messages stage))
    (program (historyAt program messages stage)).outcome stage

/-! ### The client is gone -/

theorem nextEvent_isRefusal (event : nextEvent program messages history = some next) :
    next.isRefusal = false := by
  unfold nextEvent at event
  split at event
  · cases event
    cases messages[(messagesRead history).length]? <;> rfl
  · cases event
    rfl
  · cases event

theorem beforeRefusal_append_of_unrefused (unrefused : Unrefused history)
    (more : List HostEvent) : beforeRefusal (history ++ more) = history ++ beforeRefusal more := by
  rw [beforeRefusal, List.takeWhile_append_of_pos]
  · rfl
  · intro event member
    rw [unrefused event member]
    rfl

theorem beforeRefusal_of_unrefused (unrefused : Unrefused history) :
    beforeRefusal history = history := by
  have whole := beforeRefusal_append_of_unrefused unrefused []
  simpa [beforeRefusal] using whole

theorem beforeRefusal_append_of_refused (refused : ¬ Unrefused history) (more : List HostEvent) :
    beforeRefusal (history ++ more) = beforeRefusal history := by
  have stops : (beforeRefusal history).length ≠ history.length := by
    intro whole
    have same := (List.takeWhile_prefix _).eq_of_length whole
    apply refused
    intro event member
    simpa using List.takeWhile_eq_self_iff.mp same event member
  rw [beforeRefusal] at stops
  rw [beforeRefusal, List.takeWhile_append, if_neg stops]
  rfl

theorem beforeRefusal_refused (history : List HostEvent) (msg : Bytes) :
    beforeRefusal (history ++ [.refused msg]) = beforeRefusal history := by
  by_cases unrefused : Unrefused history
  · rw [beforeRefusal_append_of_unrefused unrefused, beforeRefusal_of_unrefused unrefused]
    exact List.append_nil history
  · exact beforeRefusal_append_of_refused unrefused _

theorem beforeRefusal_isPrefix {more : List HostEvent} (isPrefix : history <+: more) :
    beforeRefusal history <+: beforeRefusal more := by
  rcases isPrefix with ⟨rest, rfl⟩
  by_cases unrefused : Unrefused history
  · rw [beforeRefusal_append_of_unrefused unrefused, beforeRefusal_of_unrefused unrefused]
    exact List.prefix_append _ _
  · rw [beforeRefusal_append_of_refused unrefused]

theorem Unrefused.append (unrefused : Unrefused history) (next : event.isRefusal = false) :
    Unrefused (history ++ [event]) := by
  intro other member
  rcases List.mem_append.mp member with earlier | last
  · exact unrefused other earlier
  · cases List.mem_singleton.mp last
    exact next

/-- Until the client is gone the host has seen what the program and the request say. -/
theorem beforeRefusal_next
    (reached : ∃ stage, historyAt program messages stage = beforeRefusal history)
    (event : nextEvent program messages history = some next) :
    ∃ stage, historyAt program messages stage = beforeRefusal (history ++ [next]) := by
  by_cases unrefused : Unrefused history
  · rw [beforeRefusal_of_unrefused unrefused] at reached
    rw [beforeRefusal_of_unrefused (unrefused.append (nextEvent_isRefusal event))]
    exact reached_next reached event
  · rw [beforeRefusal_append_of_refused unrefused]
    exact reached

/-! ### The frames -/

theorem closing_isPrefix (ordered : fewer ≤ polls) (outcome : Int × String) :
    closing fewer outcome <+: closing polls outcome := by
  refine List.cons_prefix_cons.mpr ⟨rfl, ⟨List.replicate (polls - fewer) none, ?_⟩⟩
  rw [List.replicate_append_replicate, Nat.add_sub_cancel' ordered]

theorem map_shown_isPrefix {writes more : List Bytes} (isPrefix : writes <+: more)
    (removals : List (Int × String)) (polls : Nat) :
    writes.map shown <+: expectedFrames more removals polls := by
  rcases isPrefix with ⟨rest, rfl⟩
  rw [expectedFrames, List.map_append, List.append_assoc]
  exact List.prefix_append _ _

theorem messagesWritten_isPrefix {history more : List HostEvent} (isPrefix : history <+: more) :
    messagesWritten history <+: messagesWritten more := by
  rcases isPrefix with ⟨rest, rfl⟩
  rw [messagesWritten_append]
  exact List.prefix_append _ _

/-- What is expected of a response at some stage of the program is a part of what the
client is shown later. -/
theorem expectedFrames_isPrefix
    (ended : removals <+: (program (historyAt program messages stage)).outcome)
    (ordered : stage ≤ later) (polled : polls ≤ later) :
    expectedFrames (messagesWritten (historyAt program messages stage)) removals polls <+:
      response program messages later := by
  have grows : historyAt program messages stage <+: historyAt program messages later :=
    unfold_isPrefix ordered
  cases removals with
  | nil =>
      rw [expectedFrames, List.flatMap_nil, List.append_nil]
      exact map_shown_isPrefix (messagesWritten_isPrefix grows) _ _
  | cons outcome others =>
      rcases nextEvent_cases program messages (historyAt program messages stage) with
        ⟨_, _, none⟩ | ⟨status, message, finished, last⟩
      · rw [none] at ended
        exact absurd (List.prefix_nil.mp ended) (by simp)
      · have same : historyAt program messages later = historyAt program messages stage :=
          unfold_of_end last ordered
        rw [finished] at ended
        rcases List.cons_prefix_cons.mp ended with ⟨rfl, none⟩
        cases List.prefix_nil.mp none
        rw [response, same, finished]
        simp only [expectedFrames, HostAction.outcome, List.flatMap_singleton]
        exact (List.prefix_append_right_inj _).mpr (closing_isPrefix polled _)

theorem response_isPrefix (ordered : stage ≤ later) :
    response program messages stage <+: response program messages later :=
  expectedFrames_isPrefix (List.prefix_refl _) ordered ordered

/-- The frames so far are the start of what the program shows its client. -/
def Shows (program : HostProgram) (messages : List Bytes) (frames : List (Option Frame)) : Prop :=
  ∃ stage, frames <+: response program messages stage

theorem shows_of_history {frames : List (Option Frame)}
    (reached : historyAt program messages stage = history)
    (ended : removals <+: (program history).outcome)
    (isPrefix : frames <+: expectedFrames (messagesWritten history) removals polls) :
    Shows program messages frames := by
  subst reached
  have whole := expectedFrames_isPrefix ended (Nat.le_max_left stage polls)
    (Nat.le_max_right stage polls)
  exact ⟨_, isPrefix.trans whole⟩

/-- Of two responses to the same program and request one is the start of the other. -/
theorem Shows.comparable {first second : List (Option Frame)} (left : Shows program messages first)
    (right : Shows program messages second) : first <+: second ∨ second <+: first := by
  rcases left with ⟨early, left⟩
  rcases right with ⟨late, right⟩
  exact List.prefix_or_prefix_of_prefix
    (left.trans (response_isPrefix (Nat.le_max_left early late)))
    (right.trans (response_isPrefix (Nat.le_max_right early late)))

theorem Shows.prefix_of_length {first second : List (Option Frame)}
    (left : Shows program messages first) (right : Shows program messages second)
    (shorter : first.length ≤ second.length) : first <+: second := by
  rcases left.comparable right with isPrefix | isPrefix
  · exact isPrefix
  · rw [isPrefix.eq_of_length_le shorter]

/-- A host whose client has seen all of its messages, but not yet what it is to see at
some later stage, has turns to take until then, unless it is about to finish. -/
theorem history_behind (reached : historyAt program messages stage = history)
    (behind : (messagesWritten history).length < (response program messages later).length)
    (event : nextEvent program messages history = some next) :
    history.length < (historyAt program messages later).length := by
  subst reached
  by_cases early : later ≤ stage
  · rcases nextEvent_cases program messages (historyAt program messages stage) with
      ⟨_, _, none⟩ | ⟨_, _, _, last⟩
    · have bound : (response program messages later).length ≤
          (response program messages stage).length := (response_isPrefix early).length_le
      rw [response.eq_def program messages stage, none, expectedFrames, List.flatMap_nil,
        List.append_nil, List.length_map] at bound
      omega
    · rw [last] at event
      cases event
  · exact length_lt_of_next event (Nat.lt_of_not_le early)

end Response

end Zpr.GrpcServer
