import Mathlib.Data.List.Basic

namespace Zpr

/-! Runs of labelled partial steps. A step function is executable: it answers
`none` when the action is not enabled. A run records every action together
with the reply it received, latest last. -/

/-- One action of one party, taken to completion. -/
abbrev PartialStep (State : Type u) (Action : Type v) (Reply : Type w) :=
  State → Action → Option (State × Reply)

variable {State : Type u} {Action : Type v} {Reply : Type w}

/-- A finite run whose every step satisfies `condition` in the state it is
taken from. -/
inductive RunWhere (condition : State → Action → Prop)
    (step : PartialStep State Action Reply) (initial : State) :
    List (Action × Reply) → State → Prop
  | start : RunWhere condition step initial [] initial
  | next {trace state action nextState reply} :
      RunWhere condition step initial trace state →
      condition state action →
      step state action = some (nextState, reply) →
      RunWhere condition step initial (trace ++ [(action, reply)]) nextState

/-- A finite run with no condition on its steps. -/
abbrev Run (step : PartialStep State Action Reply) (initial : State) :
    List (Action × Reply) → State → Prop :=
  RunWhere (fun _ _ => True) step initial

def Reachable (step : PartialStep State Action Reply) (initial state : State) : Prop :=
  ∃ trace, Run step initial trace state

namespace RunWhere

variable {step : PartialStep State Action Reply}
  {condition weaker : State → Action → Prop} {initial state : State}

theorem mono (implies : ∀ state action, condition state action → weaker state action)
    (run : RunWhere condition step initial trace state) :
    RunWhere weaker step initial trace state := by
  induction run with
  | start => exact .start
  | next _ holds taken induction => exact .next induction (implies _ _ holds) taken

/-- Two conditions that agree on every step that can be taken allow the same runs. -/
theorem congr {other : State → Action → Prop}
    (agree : ∀ {state action next reply}, step state action = some (next, reply) →
      (condition state action ↔ other state action)) :
    RunWhere condition step initial trace state ↔ RunWhere other step initial trace state := by
  constructor
  · intro run
    induction run with
    | start => exact .start
    | next _ met taken induction => exact .next induction ((agree taken).mp met) taken
  · intro run
    induction run with
    | start => exact .start
    | next _ met taken induction => exact .next induction ((agree taken).mpr met) taken

/-- The same where the conditions need to agree in the states only that the first one
leads to. -/
theorem congr_of_valid {other : State → Action → Prop} {Valid : State → Prop}
    (start : Valid initial)
    (valid : ∀ {state action next reply}, Valid state → condition state action →
      step state action = some (next, reply) → Valid next)
    (agree : ∀ {state action next reply}, Valid state →
      step state action = some (next, reply) → (condition state action ↔ other state action)) :
    RunWhere condition step initial trace state ↔ RunWhere other step initial trace state := by
  have known : ∀ {trace state}, RunWhere condition step initial trace state → Valid state := by
    intro trace state run
    induction run with
    | start => exact start
    | next _ met taken induction => exact valid induction met taken
  constructor
  · intro run
    induction run with
    | start => exact .start
    | next earlier met taken induction =>
        exact .next induction ((agree (known earlier) taken).mp met) taken
  · intro run
    induction run with
    | start => exact .start
    | next _ met taken induction =>
        exact .next induction ((agree (known induction) taken).mpr met) taken

/-- A property of the trace and the state that every allowed step keeps holds
of every run. -/
theorem invariant (Property : List (Action × Reply) → State → Prop)
    (holds : Property [] initial)
    (preserved : ∀ {trace state action nextState reply},
      RunWhere condition step initial trace state → Property trace state →
      condition state action → step state action = some (nextState, reply) →
      Property (trace ++ [(action, reply)]) nextState)
    (run : RunWhere condition step initial trace state) : Property trace state := by
  induction run with
  | start => exact holds
  | next earlier met taken induction => exact preserved earlier induction met taken

/-- The form of `invariant` for properties that do not look at the trace. -/
theorem stateInvariant (Property : State → Prop) (holds : Property initial)
    (preserved : ∀ {state action nextState reply}, Property state →
      condition state action → step state action = some (nextState, reply) →
      Property nextState)
    (run : RunWhere condition step initial trace state) : Property state :=
  run.invariant (fun _ state => Property state) holds
    fun _ property met taken => preserved property met taken

theorem append (first : RunWhere condition step initial earlier middle)
    (second : RunWhere condition step middle later final) :
    RunWhere condition step initial (earlier ++ later) final := by
  induction second with
  | start => simpa using first
  | next _ met taken induction =>
      rw [← List.append_assoc]
      exact .next induction met taken

/-- A run can be cut at any of its events. -/
theorem split (run : RunWhere condition step initial trace state) {earlier later}
    (cut : trace = earlier ++ event :: later) :
    ∃ before after, RunWhere condition step initial earlier before ∧
      condition before event.1 ∧ step before event.1 = some (after, event.2) ∧
      RunWhere condition step after later state := by
  induction run generalizing later with
  | start => simp at cut
  | @next trace before action after reply run met taken induction =>
      rcases List.eq_nil_or_concat later with rfl | ⟨others, last, rfl⟩
      · rcases List.append_inj' cut rfl with ⟨rfl, same⟩
        cases same
        exact ⟨before, after, run, met, taken, .start⟩
      · rw [List.concat_eq_append, ← List.cons_append, ← List.append_assoc] at cut
        rcases List.append_inj' cut rfl with ⟨shorter, same⟩
        cases same
        rcases induction shorter with ⟨first, second, prior, allowed, moved, rest⟩
        refine ⟨first, second, prior, allowed, moved, ?_⟩
        rw [List.concat_eq_append]
        exact .next rest met taken

/-- What every step's action has to satisfy, every action in the trace satisfies. -/
theorem allowed {Allowed : Action → Prop}
    (run : RunWhere (fun _ action => Allowed action) step initial trace state) :
    ∀ event ∈ trace, Allowed event.1 := by
  induction run with
  | start => exact fun event member => absurd member List.not_mem_nil
  | next earlier met taken induction =>
      intro event member
      rcases List.mem_append.mp member with before | last
      · exact induction event before
      · cases List.mem_singleton.mp last
        exact met

/-- A property holds in every state of a run exactly if every step met the
condition, where `condition` says which steps keep the property. `Valid` is
whatever else is known of every state. -/
theorem throughout_iff {Valid Property : State → Prop} (validStart : Valid initial)
    (validStep : ∀ {state action next reply}, Valid state →
      step state action = some (next, reply) → Valid next)
    (start : Property initial)
    (exact : ∀ {state action next reply}, Valid state → Property state →
      step state action = some (next, reply) → (Property next ↔ condition state action)) :
    (RunWhere (fun state _ => Property state) step initial trace state ∧ Property state) ↔
      RunWhere condition step initial trace state := by
  have valid : ∀ {condition : State → Action → Prop} {trace state},
      RunWhere condition step initial trace state → Valid state :=
    fun run => run.stateInvariant Valid validStart fun valid _ taken => validStep valid taken
  constructor
  · intro holds
    rcases holds with ⟨run, last⟩
    induction run with
    | start => exact .start
    | next earlier before taken induction =>
        exact .next (induction before) ((exact (valid earlier) before taken).mp last) taken
  · intro run
    induction run with
    | start => exact ⟨.start, start⟩
    | next earlier met taken induction =>
        rcases induction with ⟨throughout, before⟩
        exact ⟨.next throughout before taken, (exact (valid earlier) before taken).mpr met⟩

/-- A run is what its actions make of the state that it begins in. -/
theorem unique {further : State → Action → Prop} {first second : State}
    {trace other : List (Action × Reply)} (run : RunWhere condition step initial trace first)
    (again : RunWhere further step initial other second)
    (same : trace.map Prod.fst = other.map Prod.fst) : trace = other ∧ first = second := by
  induction run generalizing other second with
  | start =>
      cases again with
      | start => exact ⟨rfl, rfl⟩
      | next => simp at same
  | next earlier _ taken induction =>
      cases again with
      | start => simp at same
      | next earlierToo _ takenToo =>
          simp only [List.map_append, List.map_cons, List.map_nil] at same
          rcases List.append_inj' same rfl with ⟨before, last⟩
          cases last
          rcases induction earlierToo before with ⟨rfl, rfl⟩
          cases taken.symm.trans takenToo
          exact ⟨rfl, rfl⟩

end RunWhere

theorem Run.next {step : PartialStep State Action Reply}
    (run : Run step initial trace state)
    (taken : step state action = some (nextState, reply)) :
    Run step initial (trace ++ [(action, reply)]) nextState :=
  RunWhere.next run trivial taken

theorem Run.single {step : PartialStep State Action Reply}
    (taken : step initial action = some (nextState, reply)) :
    Run step initial [(action, reply)] nextState :=
  Run.next .start taken

/-- A run takes only allowed steps if every one of its actions is allowed
everywhere. -/
theorem Run.restrict {step : PartialStep State Action Reply}
    {condition : State → Action → Prop} (run : Run step initial trace state)
    (allowed : ∀ event ∈ trace, ∀ state, condition state event.1) :
    RunWhere condition step initial trace state := by
  induction run with
  | start => exact .start
  | next earlier _ taken induction =>
      refine .next (induction fun event member => ?_) ?_ taken
      · exact allowed event (List.mem_append_left _ member)
      · exact allowed _ (List.mem_append_right _ (List.mem_singleton_self _)) _

/-- Where every unfinished valid state has a step to a valid state of smaller measure,
some run reaches a finished state. -/
theorem exists_run_of_progress {step : PartialStep State Action Reply}
    {condition : State → Action → Prop} {Valid Finished : State → Prop} (measure : State → Nat)
    (progress : ∀ state, Valid state → ¬ Finished state → ∃ action next reply,
      condition state action ∧ step state action = some (next, reply) ∧ Valid next ∧
        measure next < measure state) {state : State} (valid : Valid state) :
    ∃ trace final, RunWhere condition step state trace final ∧ Valid final ∧ Finished final := by
  induction left : measure state using Nat.strongRecOn generalizing state with
  | ind _ induction =>
      by_cases finished : Finished state
      · exact ⟨[], state, .start, valid, finished⟩
      · rcases progress state valid finished with
          ⟨action, next, reply, met, taken, validNext, smaller⟩
        rcases induction _ (left ▸ smaller) validNext rfl with ⟨trace, final, rest, holds⟩
        have first : RunWhere condition step state ([] ++ [(action, reply)]) next :=
          .next .start met taken
        exact ⟨_, final, first.append rest, holds⟩

namespace Reachable

variable {step : PartialStep State Action Reply} {initial state : State}

theorem start : Reachable step initial initial := ⟨[], .start⟩

theorem next (reachable : Reachable step initial state)
    (taken : step state action = some (nextState, reply)) :
    Reachable step initial nextState :=
  let ⟨_, run⟩ := reachable
  ⟨_, Run.next run taken⟩

theorem trans (first : Reachable step initial middle)
    (second : Reachable step middle state) : Reachable step initial state :=
  let ⟨_, earlier⟩ := first
  let ⟨_, later⟩ := second
  ⟨_, earlier.append later⟩

theorem invariant (Property : State → Prop) (reachable : Reachable step initial state)
    (holds : Property initial)
    (preserved : ∀ {state action nextState reply}, Property state →
      step state action = some (nextState, reply) → Property nextState) :
    Property state :=
  let ⟨_, run⟩ := reachable
  run.stateInvariant Property holds fun property _ taken => preserved property taken

end Reachable

/-! ## Replaying a list of actions -/

/-- Take the listed actions one after the other, or stop at the first that is
not enabled. -/
def replay (step : PartialStep State Action Reply) (initial : State) :
    List Action → Option (List (Action × Reply) × State)
  | [] => some ([], initial)
  | action :: rest =>
      (step initial action).bind fun (middle, reply) =>
        (replay step middle rest).map fun (trace, final) => ((action, reply) :: trace, final)

theorem run_of_replay {step : PartialStep State Action Reply} :
    ∀ {actions : List Action} {initial : State} {trace final},
      replay step initial actions = some (trace, final) → Run step initial trace final
  | [], initial, trace, final, equal => by
      simp only [replay, Option.some.injEq, Prod.mk.injEq] at equal
      rcases equal with ⟨rfl, rfl⟩
      exact .start
  | action :: rest, initial, trace, final, equal => by
      simp only [replay, Option.bind_eq_some_iff, Option.map_eq_some_iff] at equal
      rcases equal with ⟨⟨middle, reply⟩, taken, ⟨later, last⟩, replayed, same⟩
      simp only [Prod.mk.injEq] at same
      rcases same with ⟨rfl, rfl⟩
      have first : Run step initial ([] ++ [(action, reply)]) middle :=
        Run.next .start taken
      simpa using first.append (run_of_replay replayed)

theorem actions_of_replay {step : PartialStep State Action Reply} :
    ∀ {actions : List Action} {initial : State} {trace final},
      replay step initial actions = some (trace, final) → trace.map Prod.fst = actions
  | [], initial, trace, final, equal => by
      simp only [replay, Option.some.injEq, Prod.mk.injEq] at equal
      rcases equal with ⟨rfl, rfl⟩
      rfl
  | action :: rest, initial, trace, final, equal => by
      simp only [replay, Option.bind_eq_some_iff, Option.map_eq_some_iff] at equal
      rcases equal with ⟨⟨middle, reply⟩, _, ⟨later, last⟩, replayed, same⟩
      simp only [Prod.mk.injEq] at same
      rcases same with ⟨rfl, rfl⟩
      simp [actions_of_replay replayed]

/-- A replayed run takes only allowed steps if every action listed is allowed
everywhere. -/
theorem runWhere_of_replay {step : PartialStep State Action Reply}
    {condition : State → Action → Prop}
    (replayed : replay step initial actions = some (trace, final))
    (allowed : ∀ action ∈ actions, ∀ state, condition state action) :
    RunWhere condition step initial trace final := by
  apply (run_of_replay replayed).restrict
  intro event member
  apply allowed
  rw [← actions_of_replay replayed]
  exact List.mem_map_of_mem member

/-- Two versions of a step, one of which answers differently wherever an action sets them
apart: the actions that the one goes through, the other goes through with the same
replies exactly if none of them does. -/
theorem replay_agrees_iff {left right : PartialStep State Action Reply} {Apart : Action → Prop}
    (agree : ∀ {state action}, ¬ Apart action → left state action = right state action)
    (apart : ∀ {state action next reply}, Apart action → right state action = some (next, reply) →
      ∀ other, left state action ≠ some (other, reply))
    (replayed : replay right initial actions = some (trace, final)) :
    replay left initial actions = some (trace, final) ↔ ∀ action ∈ actions, ¬ Apart action := by
  induction actions generalizing initial trace with
  | nil => exact ⟨fun _ => List.forall_mem_nil _, fun _ => replayed⟩
  | cons action rest induction =>
      rw [List.forall_mem_cons]
      simp only [replay, Option.bind_eq_some_iff, Option.map_eq_some_iff] at replayed
      rcases replayed with ⟨⟨middle, reply⟩, taken, ⟨later, last⟩, remaining, same⟩
      simp only [Prod.mk.injEq] at same
      rcases same with ⟨rfl, rfl⟩
      constructor
      · intro agreed
        simp only [replay, Option.bind_eq_some_iff, Option.map_eq_some_iff] at agreed
        rcases agreed with ⟨⟨other, answer⟩, moved, ⟨others, stop⟩, followed, same⟩
        simp only [Prod.mk.injEq, List.cons.injEq, true_and] at same
        rcases same with ⟨⟨rfl, rfl⟩, rfl⟩
        have together : ¬ Apart action := fun differs => apart differs taken other moved
        rw [agree together, taken] at moved
        cases moved
        exact ⟨together, (induction remaining).mp followed⟩
      · intro together
        have followed := (induction remaining).mpr together.2
        rw [replay, agree together.1, taken, Option.bind_some]
        dsimp only at followed ⊢
        rw [followed, Option.map_some]

end Zpr
