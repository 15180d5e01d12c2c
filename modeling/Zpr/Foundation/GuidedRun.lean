import Zpr.Foundation.Execution

namespace Zpr

/-! # Parties that follow a program

A deterministic program goes from the history of what has happened so far to what
happens next. A guided run is a run in which every action is allowed by the events
before it. -/

/-- The history after some number of turns. A program that has nothing more to do
leaves it as it is. -/
def unfold (next : List Item → Option Item) : Nat → List Item
  | 0 => []
  | stage + 1 => unfold next stage ++ (next (unfold next stage)).toList

section Unfold

variable {Item : Type u} {next : List Item → Option Item}

theorem unfold_of_next (moves : next (unfold next stage) = some item) :
    unfold next (stage + 1) = unfold next stage ++ [item] := by
  rw [unfold, moves, Option.toList_some]

theorem unfold_isPrefix (ordered : earlier ≤ later) : unfold next earlier <+: unfold next later := by
  induction ordered with
  | refl => exact List.prefix_refl _
  | step _ induction => exact induction.trans (List.prefix_append _ _)

/-- Once there is nothing more to do, nothing more happens. -/
theorem unfold_of_end (ended : next (unfold next earlier) = none) (ordered : earlier ≤ later) :
    unfold next later = unfold next earlier := by
  induction ordered with
  | refl => rfl
  | step _ induction => rw [unfold, induction, ended, Option.toList_none, List.append_nil]

/-- A history that is not at its end is shorter than any that is not a prefix of it. -/
theorem length_lt_of_next (moves : next (unfold next stage) = some item) (behind : stage < later) :
    (unfold next stage).length < (unfold next later).length := by
  have isPrefix : unfold next (stage + 1) <+: unfold next later := unfold_isPrefix behind
  have longer := isPrefix.length_le
  rw [unfold_of_next moves, List.length_append, List.length_singleton] at longer
  exact longer

end Unfold

section GuidedRun

variable {State : Type u} {Action : Type v} {Reply : Type w}

/-- A finite run whose every action is allowed after the events before it. -/
inductive GuidedRun (allowed : List (Action × Reply) → Action → Prop)
    (step : PartialStep State Action Reply) (initial : State) :
    List (Action × Reply) → State → Prop
  | start : GuidedRun allowed step initial [] initial
  | next {trace state action nextState reply} :
      GuidedRun allowed step initial trace state →
      allowed trace action →
      step state action = some (nextState, reply) →
      GuidedRun allowed step initial (trace ++ [(action, reply)]) nextState

namespace GuidedRun

variable {step : PartialStep State Action Reply} {initial : State}
  {allowed : List (Action × Reply) → Action → Prop}

theorem run (guided : GuidedRun allowed step initial trace state) :
    Run step initial trace state := by
  induction guided with
  | start => exact .start
  | next _ _ taken induction => exact Run.next induction taken

/-- A property of the trace and the state that every allowed step keeps holds of every
guided run. -/
theorem invariant (Property : List (Action × Reply) → State → Prop) (holds : Property [] initial)
    (preserved : ∀ {trace state action nextState reply},
      GuidedRun allowed step initial trace state → Property trace state →
      allowed trace action → step state action = some (nextState, reply) →
      Property (trace ++ [(action, reply)]) nextState)
    (guided : GuidedRun allowed step initial trace state) : Property trace state := by
  induction guided with
  | start => exact holds
  | next earlier met taken induction => exact preserved earlier induction met taken

/-- Where every unfinished run has an allowed step that makes the measure smaller, every
run can be continued to a finished one. -/
theorem exists_extension {Valid Finished : List (Action × Reply) → State → Prop}
    (measure : List (Action × Reply) → State → Nat)
    (progress : ∀ trace state, GuidedRun allowed step initial trace state → Valid trace state →
      ¬ Finished trace state → ∃ action next reply, allowed trace action ∧
        step state action = some (next, reply) ∧ Valid (trace ++ [(action, reply)]) next ∧
        measure (trace ++ [(action, reply)]) next < measure trace state)
    (guided : GuidedRun allowed step initial trace state) (valid : Valid trace state) :
    ∃ later final, GuidedRun allowed step initial (trace ++ later) final ∧
      Valid (trace ++ later) final ∧ Finished (trace ++ later) final := by
  induction left : measure trace state using Nat.strongRecOn generalizing trace state with
  | ind _ induction =>
      by_cases finished : Finished trace state
      · refine ⟨[], state, ?_⟩
        rw [List.append_nil]
        exact ⟨guided, valid, finished⟩
      · rcases progress trace state guided valid finished with
          ⟨action, next, reply, met, taken, validNext, smaller⟩
        rcases induction _ (left ▸ smaller) (guided.next met taken) validNext rfl with
          ⟨later, final, rest⟩
        refine ⟨(action, reply) :: later, final, ?_⟩
        rw [← List.append_cons] at rest
        exact rest

end GuidedRun

/-- Every action of `rest` is allowed after `earlier` and the events of `rest` before
it. -/
def AllowedAfter (allowed : List (Action × Reply) → Action → Prop) :
    List (Action × Reply) → List (Action × Reply) → Prop
  | _, [] => True
  | earlier, event :: rest =>
      allowed earlier event.1 ∧ AllowedAfter allowed (earlier ++ [event]) rest

theorem allowedAfter_append {allowed : List (Action × Reply) → Action → Prop} :
    ∀ {earlier rest : List (Action × Reply)},
      AllowedAfter allowed earlier (rest ++ [event]) →
        AllowedAfter allowed earlier rest ∧ allowed (earlier ++ rest) event.1
  | earlier, [], holds => ⟨trivial, by simpa using holds.1⟩
  | earlier, first :: rest, holds => by
      have later : AllowedAfter allowed (earlier ++ [first]) (rest ++ [event]) := holds.2
      rcases allowedAfter_append later with ⟨before, last⟩
      rw [← List.append_cons] at last
      exact ⟨⟨holds.1, before⟩, last⟩

theorem guidedRun_of_run {step : PartialStep State Action Reply}
    {allowed : List (Action × Reply) → Action → Prop} (run : Run step initial trace final)
    (holds : AllowedAfter allowed [] trace) : GuidedRun allowed step initial trace final := by
  induction run with
  | start => exact .start
  | next _ _ taken induction =>
      rcases allowedAfter_append holds with ⟨before, last⟩
      exact .next (induction before) last taken

end GuidedRun


end Zpr
