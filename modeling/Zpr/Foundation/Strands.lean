import Mathlib.Algebra.Group.Defs
import Mathlib.Data.List.Induction
import Zpr.Foundation.Execution

namespace Zpr

/-! # Runs made of independent strands

Every action belongs to one strand, and states may agree on a strand. A step does to its
own strand what it does in every state that agrees on it, and leaves the others alone.
What the strands count together is a tally that steps only add to. -/

variable {State : Type u} {Action : Type v} {Reply : Type w} {Strand : Type x} {Tally : Type y}
  [AddCancelCommMonoid Tally]

namespace RunWhere

variable {step : PartialStep State Action Reply} {condition : State → Action → Prop}
  {state final : State}

/-- A run without events has gone nowhere. -/
theorem eq_of_nil (run : RunWhere condition step state [] final) : final = state := by
  generalize isEmpty : ([] : List (Action × Reply)) = trace at run
  cases run with
  | start => rfl
  | next earlier met taken => simp at isEmpty

/-- The first step of a run, and the run that is left. -/
theorem uncons {event : Action × Reply} {later : List (Action × Reply)}
    (run : RunWhere condition step state (event :: later) final) :
    ∃ next, condition state event.1 ∧ step state event.1 = some (next, event.2) ∧
      RunWhere condition step next later final := by
  have whole : event :: later = [] ++ event :: later := rfl
  rcases run.split whole with ⟨before, next, nothing, met, taken, rest⟩
  rw [nothing.eq_of_nil] at met taken
  exact ⟨next, met, taken, rest⟩

/-- The last step of a run, and the run before it. -/
theorem unsnoc {event : Action × Reply} {earlier : List (Action × Reply)}
    (run : RunWhere condition step state (earlier ++ [event]) final) :
    ∃ before, RunWhere condition step state earlier before ∧ condition before event.1 ∧
      step before event.1 = some (final, event.2) := by
  have whole : earlier ++ [event] = earlier ++ event :: [] := rfl
  rcases run.split whole with ⟨before, after, prior, met, taken, nothing⟩
  rw [← nothing.eq_of_nil] at taken
  exact ⟨before, prior, met, taken⟩

end RunWhere

/-- The steps that are `Allowed`, from states that are `Valid`, keep the strands apart. -/
structure Stranded (step : PartialStep State Action Reply) (Valid : State → Prop)
    (Allowed : Action → Prop) (strand : Action → Strand)
    (Agree : Strand → State → State → Prop) (tally : State → Tally) : Prop where
  equivalence : ∀ name, Equivalence (Agree name)
  keeps : ∀ {state action next reply}, Valid state → Allowed action →
    step state action = some (next, reply) → Valid next
  frame : ∀ {state action next reply name}, Valid state → Allowed action →
    step state action = some (next, reply) → name ≠ strand action → Agree name state next
  follows : ∀ {state other action next reply}, Valid state → Valid other → Allowed action →
    Agree (strand action) state other → step state action = some (next, reply) →
    ∃ after, step other action = some (after, reply) ∧ Agree (strand action) next after ∧
      tally next + tally other = tally after + tally state

namespace Stranded

variable {step : PartialStep State Action Reply} {Valid : State → Prop}
  {Allowed : Action → Prop} {strand : Action → Strand}
  {Agree : Strand → State → State → Prop} {tally : State → Tally}
  {state other middle next final : State} {action : Action} {reply : Reply}
  {first second event : Action × Reply} {trace earlier later : List (Action × Reply)}

/-- The states agree on every strand and on the tally. -/
structure Alike (Agree : Strand → State → State → Prop) (tally : State → Tally)
    (state other : State) : Prop where
  agree : ∀ name, Agree name state other
  tally : tally state = tally other

/-- A run whose every step is allowed. -/
abbrev AllowedRun (step : PartialStep State Action Reply) (Allowed : Action → Prop) :=
  RunWhere (fun _ action => Allowed action) step

section

variable (stranded : Stranded step Valid Allowed strand Agree tally)

include stranded

theorem alike_refl (state : State) : Alike Agree tally state state :=
  ⟨fun name => (stranded.equivalence name).refl state, rfl⟩

theorem alike_trans (left : Alike Agree tally state middle)
    (right : Alike Agree tally middle final) : Alike Agree tally state final :=
  ⟨fun name => (stranded.equivalence name).trans (left.agree name) (right.agree name),
    left.tally.trans right.tally⟩

theorem valid_of_run (valid : Valid state) (run : AllowedRun step Allowed state trace final) :
    Valid final :=
  run.stateInvariant Valid valid fun valid allowed taken => stranded.keeps valid allowed taken

/-- What one state can do, a state that is alike can do as well. -/
theorem step_alike (valid : Valid state) (validOther : Valid other) (allowed : Allowed action)
    (alike : Alike Agree tally state other) (taken : step state action = some (next, reply)) :
    ∃ after, step other action = some (after, reply) ∧ Alike Agree tally next after := by
  rcases stranded.follows valid validOther allowed (alike.agree _) taken with
    ⟨after, moved, own, sum⟩
  refine ⟨after, moved, ⟨fun name => ?_, ?_⟩⟩
  · by_cases same : name = strand action
    · rw [same]
      exact own
    · have before := (stranded.equivalence name).symm (stranded.frame valid allowed taken same)
      have behind := stranded.frame validOther allowed moved same
      have across := (stranded.equivalence name).trans before (alike.agree name)
      exact (stranded.equivalence name).trans across behind
  · rw [alike.tally] at sum
    exact add_right_cancel sum

theorem run_alike (valid : Valid state) (validOther : Valid other)
    (alike : Alike Agree tally state other) (run : AllowedRun step Allowed state trace final) :
    ∃ last, AllowedRun step Allowed other trace last ∧ Alike Agree tally final last := by
  induction run with
  | start => exact ⟨other, .start, alike⟩
  | next earlier allowed taken induction =>
      rcases induction with ⟨before, followed, alikeBefore⟩
      have validNow := stranded.valid_of_run valid earlier
      have validThere := stranded.valid_of_run validOther followed
      rcases stranded.step_alike validNow validThere allowed alikeBefore taken with
        ⟨last, moved, alikeAfter⟩
      exact ⟨last, .next followed allowed moved, alikeAfter⟩

/-- Two steps of different strands can be taken the other way round. -/
theorem swap (valid : Valid state) (allowed : Allowed first.1) (allowedToo : Allowed second.1)
    (apart : strand first.1 ≠ strand second.1) (taken : step state first.1 = some (middle, first.2))
    (takenToo : step middle second.1 = some (next, second.2)) :
    ∃ between after, step state second.1 = some (between, second.2) ∧
      step between first.1 = some (after, first.2) ∧ Alike Agree tally next after := by
  have validMiddle := stranded.keeps valid allowed taken
  have back := (stranded.equivalence _).symm
    (stranded.frame valid allowed taken (Ne.symm apart))
  rcases stranded.follows validMiddle valid allowedToo back takenToo with
    ⟨between, moved, own, sum⟩
  have validBetween := stranded.keeps valid allowedToo moved
  have onward := stranded.frame valid allowedToo moved apart
  rcases stranded.follows valid validBetween allowed onward taken with
    ⟨after, movedToo, ownToo, sumToo⟩
  refine ⟨between, after, moved, movedToo, ⟨fun name => ?_, ?_⟩⟩
  · have equivalence := stranded.equivalence name
    by_cases isSecond : name = strand second.1
    · have behind := stranded.frame validBetween allowed movedToo (isSecond ▸ Ne.symm apart)
      exact equivalence.trans (isSecond ▸ own) behind
    · have before := equivalence.symm (stranded.frame validMiddle allowedToo takenToo isSecond)
      by_cases isFirst : name = strand first.1
      · exact equivalence.trans before (isFirst ▸ ownToo)
      · have start := equivalence.symm (stranded.frame valid allowed taken isFirst)
        have there := stranded.frame valid allowedToo moved isSecond
        have behind := stranded.frame validBetween allowed movedToo isFirst
        exact equivalence.trans before (equivalence.trans start (equivalence.trans there behind))
  · rw [add_comm (tally middle)] at sumToo
    exact add_right_cancel (sum.trans sumToo)

/-- A step can be put off until after steps of other strands. -/
theorem postpone (valid : Valid state)
    (apart : ∀ other ∈ later, strand event.1 ≠ strand other.1)
    (run : AllowedRun step Allowed state (earlier ++ event :: later) final) :
    ∃ last, AllowedRun step Allowed state (earlier ++ later ++ [event]) last ∧
      Alike Agree tally final last := by
  induction later generalizing earlier final with
  | nil => exact ⟨final, by simpa using run, stranded.alike_refl final⟩
  | cons second later induction =>
      rcases run.split rfl with ⟨before, middle, prior, allowed, taken, rest⟩
      rcases rest.uncons with ⟨next, allowedToo, takenToo, rest⟩
      have validBefore := stranded.valid_of_run valid prior
      rcases stranded.swap validBefore allowed allowedToo (apart second List.mem_cons_self)
        taken takenToo with ⟨between, after, moved, movedToo, alike⟩
      have validBetween := stranded.keeps validBefore allowedToo moved
      have validAfter := stranded.keeps validBetween allowed movedToo
      have validNext := stranded.keeps (stranded.keeps validBefore allowed taken) allowedToo takenToo
      rcases stranded.run_alike validNext validAfter alike rest with ⟨last, followed, alikeLast⟩
      have swapped : AllowedRun step Allowed state ((earlier ++ [second]) ++ event :: later) last := by
        have whole := (RunWhere.next (.next prior allowedToo moved) allowed movedToo).append followed
        simpa using whole
      rcases induction (fun other member => apart other (List.mem_cons_of_mem _ member)) swapped
        with ⟨final', postponed, alikeFinal⟩
      refine ⟨final', ?_, stranded.alike_trans alikeLast alikeFinal⟩
      simpa using postponed

/-- Where the strands of the steps that are left out are left out of the comparison too,
the other steps find everything as before. -/
theorem alone (kept : Strand → Bool) (valid : Valid state) (validOther : Valid other)
    (agree : ∀ name, kept name → Agree name state other)
    (run : AllowedRun step Allowed state trace final) :
    ∃ last, AllowedRun step Allowed other (trace.filter fun event => kept (strand event.1)) last ∧
      ∀ name, kept name → Agree name final last := by
  induction run with
  | start => exact ⟨other, .start, agree⟩
  | @next trace before action after reply earlier allowed taken induction =>
      rcases induction with ⟨there, followed, agreeThere⟩
      have validBefore := stranded.valid_of_run valid earlier
      have validThere := stranded.valid_of_run validOther followed
      rw [List.filter_append]
      by_cases isKept : kept (strand action)
      · rcases stranded.follows validBefore validThere allowed (agreeThere _ isKept) taken with
          ⟨last, moved, own, _⟩
        refine ⟨last, ?_, fun name keptName => ?_⟩
        · rw [List.filter_cons_of_pos (by simpa using isKept), List.filter_nil]
          exact .next followed allowed moved
        · by_cases same : name = strand action
          · rw [same]
            exact own
          · have equivalence := stranded.equivalence name
            have back := equivalence.symm (stranded.frame validBefore allowed taken same)
            have onward := stranded.frame validThere allowed moved same
            exact equivalence.trans (equivalence.trans back (agreeThere name keptName)) onward
      · refine ⟨there, ?_, fun name keptName => ?_⟩
        · rw [List.filter_cons_of_neg (by simpa using isKept), List.filter_nil, List.append_nil]
          exact followed
        · have different : name ≠ strand action := fun same => isKept (same ▸ keptName)
          have equivalence := stranded.equivalence name
          have back := equivalence.symm (stranded.frame validBefore allowed taken different)
          exact equivalence.trans back (agreeThere name keptName)

end

section

variable [DecidableEq Strand]

/-- The events of one strand, in order. -/
def onStrand (strand : Action → Strand) (name : Strand) (trace : List (Action × Reply)) :
    List (Action × Reply) :=
  trace.filter fun event => strand event.1 = name

theorem onStrand_append (strand : Action → Strand) (name : Strand)
    (earlier later : List (Action × Reply)) :
    onStrand strand name (earlier ++ later) =
      onStrand strand name earlier ++ onStrand strand name later :=
  List.filter_append ..

/-- The last event of a strand stands somewhere in the trace, with none of its strand
behind it. -/
theorem exists_last {init : List (Action × Reply)}
    (ends : onStrand strand (strand event.1) trace = init ++ [event]) :
    ∃ earlier later, trace = earlier ++ event :: later ∧
      (∀ other ∈ later, strand event.1 ≠ strand other.1) ∧
      ∀ name, onStrand strand name (earlier ++ later) =
        if name = strand event.1 then init else onStrand strand name trace := by
  rcases List.filter_eq_append_iff.mp ends with ⟨before, rest, rfl, atFront, atEnd⟩
  rcases List.filter_eq_cons_iff.mp atEnd with ⟨between, later, rfl, skipped, _, nothing⟩
  have behind : ∀ other ∈ later, strand event.1 ≠ strand other.1 := by
    intro other member same
    have filtered := List.filter_eq_nil_iff.mp nothing other member
    simp [same] at filtered
  refine ⟨before ++ between, later, by simp, behind, fun name => ?_⟩
  by_cases same : name = strand event.1
  · subst same
    have none_between : onStrand strand (strand event.1) between = [] :=
      List.filter_eq_nil_iff.mpr fun other member => by simpa using skipped other member
    rw [if_pos rfl, onStrand_append, onStrand_append, none_between]
    simpa [onStrand, nothing] using atFront
  · rw [if_neg same]
    simp [onStrand, Ne.symm same]

/-- Any other interleaving of the same strands is a run as well. Every step gets the
reply that it got, and the states that the two runs end in are alike. -/
theorem reorder (stranded : Stranded step Valid Allowed strand Agree tally)
    (valid : Valid state) {reordered : List (Action × Reply)}
    (sameStrands : ∀ name, onStrand strand name reordered = onStrand strand name trace)
    (run : AllowedRun step Allowed state trace final) :
    ∃ last, AllowedRun step Allowed state reordered last ∧ Alike Agree tally final last := by
  induction reordered using List.reverseRecOn generalizing trace final with
  | nil =>
      cases trace with
      | nil => exact ⟨final, run, stranded.alike_refl final⟩
      | cons event later =>
          have missing := sameStrands (strand event.1)
          simp [onStrand] at missing
  | append_singleton reordered event induction =>
      have ends := (sameStrands (strand event.1)).symm
      rw [onStrand_append, show onStrand strand (strand event.1) [event] = [event] by
        simp [onStrand]] at ends
      rcases exists_last ends with ⟨earlier, later, rfl, apart, without⟩
      rcases stranded.postpone valid apart run with ⟨last, postponed, alike⟩
      rcases postponed.unsnoc with ⟨before, prior, allowed, taken⟩
      have fewer : ∀ name, onStrand strand name reordered =
          onStrand strand name (earlier ++ later) := by
        intro name
        rw [without name]
        split
        · rename_i same
          rw [same]
        · rename_i different
          have whole := sameStrands name
          rw [onStrand_append] at whole
          simpa [onStrand, Ne.symm different] using whole
      rcases induction fewer prior with ⟨there, followed, alikeBefore⟩
      have validBefore := stranded.valid_of_run valid prior
      have validThere := stranded.valid_of_run valid followed
      rcases stranded.step_alike validBefore validThere allowed alikeBefore taken with
        ⟨final', moved, alikeAfter⟩
      exact ⟨final', .next followed allowed moved, stranded.alike_trans alike alikeAfter⟩

end

end Stranded

end Zpr
