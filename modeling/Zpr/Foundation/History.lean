import Zpr.Foundation.Execution

namespace Zpr

/-! # What holds of every event

A property of an event may speak of the events before it. Where each step's event has
the property exactly if the step meets a condition, the runs whose every event has the
property are the runs whose every step meets the condition. -/

/-- Every event satisfies `Property` after the events before it. -/
def Everywhere (Property : List Event → Event → Prop) (trace : List Event) : Prop :=
  ∀ earlier event later, trace = earlier ++ event :: later → Property earlier event

section Everywhere

variable {Event : Type u} {Property : List Event → Event → Prop}

theorem everywhere_nil : Everywhere Property [] := by
  intro earlier event later cut
  simp at cut

theorem everywhere_next {trace : List Event} {event : Event} :
    Everywhere Property (trace ++ [event]) ↔ Everywhere Property trace ∧ Property trace event := by
  constructor
  · intro holds
    refine ⟨fun earlier other later cut => ?_, holds trace event [] rfl⟩
    apply holds earlier other (later ++ [event])
    rw [cut, List.append_assoc, List.cons_append]
  · intro holds earlier other later cut
    rcases List.eq_nil_or_concat later with rfl | ⟨others, last, rfl⟩
    · rcases List.append_inj' cut rfl with ⟨rfl, same⟩
      cases same
      exact holds.2
    · rw [List.concat_eq_append, ← List.cons_append, ← List.append_assoc] at cut
      rcases List.append_inj' cut rfl with ⟨shorter, _⟩
      exact holds.1 earlier other others shorter

end Everywhere

namespace RunWhere

variable {State : Type u} {Action : Type v} {Reply : Type w}
  {step : PartialStep State Action Reply} {condition : State → Action → Prop}
  {Valid : List (Action × Reply) → State → Prop}
  {Property : List (Action × Reply) → Action × Reply → Prop} {initial state : State}

/-- `Valid` is what is known of every run whose steps meet the condition. -/
theorem everywhere_iff (start : Valid [] initial)
    (valid : ∀ {trace state action next reply}, Valid trace state → condition state action →
      step state action = some (next, reply) → Valid (trace ++ [(action, reply)]) next)
    (exact : ∀ {trace state action next reply}, Valid trace state →
      step state action = some (next, reply) →
      (Property trace (action, reply) ↔ condition state action)) :
    (Run step initial trace state ∧ Everywhere Property trace) ↔
      RunWhere condition step initial trace state := by
  have known : ∀ {trace state}, RunWhere condition step initial trace state → Valid trace state :=
    fun run => run.invariant Valid start fun _ before met taken => valid before met taken
  constructor
  · intro holds
    rcases holds with ⟨run, holds⟩
    induction run with
    | start => exact .start
    | next earlier _ taken induction =>
        rcases everywhere_next.mp holds with ⟨before, last⟩
        have restricted := induction before
        exact .next restricted ((exact (known restricted) taken).mp last) taken
  · intro run
    refine ⟨run.mono fun _ _ _ => trivial, ?_⟩
    induction run with
    | start => exact everywhere_nil
    | next earlier met taken induction =>
        exact everywhere_next.mpr ⟨induction, (exact (known earlier) taken).mpr met⟩

end RunWhere

end Zpr
