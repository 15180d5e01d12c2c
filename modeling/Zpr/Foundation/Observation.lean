import Zpr.Foundation.Execution

namespace Zpr

/-! # Notes taken along a run

A trace shows what the parties see. What a step does out of their sight can be noted
down along the run: a note is taken of the states on both sides of a step. -/

/-- What is noted of one step. -/
abbrev Note (State : Type u) (Action : Type v) (Reply : Type w) (Item : Type x) :=
  State → Action → State → Reply → List Item

variable {State : Type u} {Action : Type v} {Reply : Type w} {Item : Type x}

/-- Take the listed actions, and note down what happens. -/
def observe (step : PartialStep State Action Reply) (note : Note State Action Reply Item)
    (initial : State) : List Action → List Item
  | [] => []
  | action :: rest =>
      match step initial action with
      | some (next, reply) => note initial action next reply ++ observe step note next rest
      | none => []

variable {step : PartialStep State Action Reply} {note : Note State Action Reply Item}
  {condition : State → Action → Prop} {initial state : State}

theorem observe_append (run : RunWhere condition step initial trace state)
    (later : List Action) : observe step note initial (trace.map Prod.fst ++ later) =
      observe step note initial (trace.map Prod.fst) ++ observe step note state later := by
  induction run generalizing later with
  | start => rfl
  | next earlier met taken induction =>
      rw [List.map_append, List.append_assoc, induction, induction, List.append_assoc]
      simp [observe, taken]

/-- The note of the last step comes last. -/
theorem observe_next (run : RunWhere condition step initial trace state)
    (taken : step state action = some (next, reply)) :
    observe step note initial ((trace ++ [(action, reply)]).map Prod.fst) =
      observe step note initial (trace.map Prod.fst) ++ note state action next reply := by
  rw [List.map_append, observe_append run]
  simp [observe, taken]

/-- Where the note of every step is a run of another machine, between what is seen of the
states on its two sides, the notes of a whole run are one. What has to hold of the last
state has held of those before. -/
theorem RunWhere.refines {Abstract : Type x} {AbstractAction : Type y} {AbstractReply : Type z}
    {note : Note State Action Reply (AbstractAction × AbstractReply)}
    {spec : PartialStep Abstract AbstractAction AbstractReply} (see : State → Abstract)
    (Holds : State → Prop)
    (backwards : ∀ {state action next reply}, step state action = some (next, reply) →
      Holds next → Holds state)
    (follows : ∀ {trace state action next reply}, RunWhere condition step initial trace state →
      condition state action → step state action = some (next, reply) → Holds next →
      Run spec (see state) (note state action next reply) (see next))
    (run : RunWhere condition step initial trace state) (holds : Holds state) :
    Run spec (see initial) (observe step note initial (trace.map Prod.fst)) (see state) := by
  induction run with
  | start => exact .start
  | next earlier met taken induction =>
      rw [observe_next earlier taken]
      exact (induction (backwards taken holds)).append (follows earlier met taken holds)

end Zpr
