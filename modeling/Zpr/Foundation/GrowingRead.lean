import Zpr.Foundation.Execution

namespace Zpr

/-! # A call that is made again with more room

One party makes a call, is told that it brought too little room, and makes the call again
with more. Between its calls the other parties go on. Two calls are enough where the room
that the first one asks for is still enough when the second one is made. -/

/-- What the party makes of a reply: the variables for another call, or its result. -/
inductive Round (Locals : Type u) (Result : Type v)
  | again (locals : Locals)
  | done (result : Result)

/-- A loop around one call. -/
structure RetryLoop (State : Type u) (Action : Type v) (Reply : Type w) (Locals : Type x)
    (Result : Type y) where
  step : PartialStep State Action Reply
  call : Locals → Action
  judge : Locals → Reply → Round Locals Result
  /-- what other parties may do between two calls -/
  others : State → Action → Prop

namespace RetryLoop

variable {State : Type u} {Action : Type v} {Reply : Type w} {Locals : Type x} {Result : Type y}

/-- The loop is about to make a call: how many it has made before, its variables, and the
state that the call finds. -/
inductive Before (loop : RetryLoop State Action Reply Locals Result) (locals : Locals)
    (state : State) : Nat → Locals → State → Prop
  | first : Before loop locals state 0 locals state
  | again {calls mine found next reply larger trace later} :
      Before loop locals state calls mine found →
      loop.step found (loop.call mine) = some (next, reply) →
      loop.judge mine reply = .again larger →
      RunWhere loop.others loop.step next trace later →
      Before loop locals state (calls + 1) larger later

/-- What makes two calls enough: the room asked for fits, it goes on to fit whatever the
others do, and a call with room that fits is not asked to come again. -/
structure Settles (loop : RetryLoop State Action Reply Locals Result) (Valid : State → Prop)
    (Fits : Locals → State → Prop) : Prop where
  answers : ∀ {state} locals, Valid state →
    ∃ next reply, loop.step state (loop.call locals) = some (next, reply)
  valid : ∀ {state action next reply}, Valid state → loop.step state action = some (next, reply) →
    Valid next
  asked : ∀ {state locals next reply larger}, Valid state →
    loop.step state (loop.call locals) = some (next, reply) →
    loop.judge locals reply = .again larger → Fits larger next
  kept : ∀ {state locals action next reply}, Valid state → Fits locals state →
    loop.others state action → loop.step state action = some (next, reply) → Fits locals next
  enough : ∀ {state locals next reply}, Valid state → Fits locals state →
    loop.step state (loop.call locals) = some (next, reply) →
    ∃ result, loop.judge locals reply = .done result

namespace Settles

variable {loop : RetryLoop State Action Reply Locals Result} {Valid : State → Prop}
  {Fits : Locals → State → Prop} {state found : State} {locals mine : Locals}

theorem valid_of_run (settles : loop.Settles Valid Fits) (valid : Valid state)
    (run : RunWhere loop.others loop.step state trace found) : Valid found := by
  apply run.stateInvariant Valid valid
  intro _ _ _ _ before _ taken
  exact settles.valid before taken

/-- Room that fits goes on to fit. -/
theorem fits_of_run (settles : loop.Settles Valid Fits) (valid : Valid state)
    (fits : Fits locals state) (run : RunWhere loop.others loop.step state trace found) :
    Fits locals found := by
  induction run with
  | start => exact fits
  | next earlier met taken induction =>
      exact settles.kept (settles.valid_of_run valid earlier) induction met taken

theorem valid_of_before (settles : loop.Settles Valid Fits) (valid : Valid state)
    (before : loop.Before locals state calls mine found) : Valid found := by
  induction before with
  | first => exact valid
  | again _ taken _ run induction => exact settles.valid_of_run (settles.valid induction taken) run

theorem fits_of_before (settles : loop.Settles Valid Fits) (valid : Valid state)
    (before : loop.Before locals state calls mine found) (second : calls ≠ 0) :
    Fits mine found := by
  cases before with
  | first => exact absurd rfl second
  | again earlier taken judged run =>
      have validFound := settles.valid_of_before valid earlier
      exact settles.fits_of_run (settles.valid validFound taken)
        (settles.asked validFound taken judged) run

/-- The loop is at its first call, or at its second. -/
theorem before_cases (settles : loop.Settles Valid Fits) (valid : Valid state)
    (before : loop.Before locals state calls mine found) :
    (calls = 0 ∧ mine = locals ∧ found = state) ∨
      calls = 1 ∧ Fits mine found ∧ ∃ next reply trace,
        loop.step state (loop.call locals) = some (next, reply) ∧
        loop.judge locals reply = .again mine ∧
        RunWhere loop.others loop.step next trace found := by
  have fits := settles.fits_of_before valid before
  cases before with
  | first => exact .inl ⟨rfl, rfl, rfl⟩
  | again earlier taken judged run =>
      have fitsEarlier := settles.fits_of_before valid earlier
      have validFound := settles.valid_of_before valid earlier
      cases earlier with
      | first => exact .inr ⟨rfl, fits (by omega), _, _, _, taken, judged, run⟩
      | again _ _ _ _ =>
          -- a second call is not asked to come again
          rcases settles.enough validFound (fitsEarlier (by omega)) taken with ⟨result, done⟩
          rw [done] at judged
          cases judged

end Settles

end RetryLoop

end Zpr
