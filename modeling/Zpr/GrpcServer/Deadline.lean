import Mathlib.Algebra.GroupWithZero.Nat
import Zpr.GrpcServer.AcceptedCalls
import Zpr.GrpcServer.ResponseFrames

namespace Zpr.GrpcServer

open Ffi

/-! # The deadline of an accepted call

`handle_queued` stamps a call with its deadline when it goes into `live`, and a
sweep compares the stamp with the clock. How long the call then waits in
`pending` counts as well. -/

/-- The time that has passed on the clock. -/
def elapsed (trace : List (Action × Reply)) : Nat :=
  (trace.map fun event => match event.1 with | .tick time => time | _ => 0).sum

theorem elapsed_append (earlier later : List (Action × Reply)) :
    elapsed (earlier ++ later) = elapsed earlier + elapsed later := by
  simp [elapsed]

/-- What the clock and the reaper's reading of it have to do with each other. -/
structure Clocked (trace : List (Action × Reply)) (state : Server) : Prop where
  now : state.now = elapsed trace
  timed : ∀ now, state.reaper = .timed now → now ≤ state.now

theorem serverStep_clock (taken : serverStep state action = some (next, reply)) :
    next.now = state.now + elapsed [(action, reply)] ∧
      (next.reaper = state.reaper ∨ next.reaper = .waiting ∨ next.reaper = .armed ∨
        next.reaper = .timed state.now) := by
  cases action with
  | tick time =>
      cases taken
      exact ⟨rfl, .inl rfl⟩
  | handle_queued index =>
      rcases Server.handle_queued_cases taken with ⟨rpc, after, queue, _, _, rfl, _⟩
      exact ⟨rfl, .inl rfl⟩
  | accept out_call_id out_method =>
      rcases serverStep_accept_cases taken with ⟨rfl, _⟩ | ⟨_, _, _, _, _, rfl, _⟩
      · exact ⟨rfl, .inl rfl⟩
      · exact ⟨rfl, .inl rfl⟩
  | reap_loop =>
      rcases Server.reap_loop_cases taken with ⟨_, rfl | rfl | rfl⟩ | ⟨now, _, _, rfl⟩
      · exact ⟨rfl, .inl rfl⟩
      · exact ⟨rfl, .inr (.inr (.inl rfl))⟩
      · exact ⟨rfl, .inr (.inr (.inr rfl))⟩
      · exact ⟨rfl, .inr (.inl rfl)⟩
  | server_stop =>
      rcases Server.server_stop_cases taken with ⟨_, _, _, _, _, rfl⟩
      exact ⟨rfl, .inl rfl⟩
  | _ =>
      have apart := serverStep_apart taken rfl
      exact ⟨apart.now, .inl apart.reaper⟩

theorem clocked_of_run (run : RunWhere condition serverStep .start trace state) :
    Clocked trace state := by
  apply run.invariant Clocked
  · exact ⟨rfl, fun now timed => nomatch timed⟩
  · intro trace state action next reply _ clocked _ taken
    rcases serverStep_clock taken with ⟨now, reaper⟩
    refine ⟨by rw [now, clocked.now, elapsed_append], fun reading timed => ?_⟩
    rcases reaper with same | idle | armed | read
    · have bound := clocked.timed reading (by rw [← same, timed])
      omega
    · rw [idle] at timed
      cases timed
    · rw [armed] at timed
      cases timed
    · rw [read] at timed
      cases timed
      omega

/-! ## A call keeps its stamp -/

/-- The call has gone into `live`, and where it still is it expires then. -/
def ExpiresAt (id expires_at : Nat) (state : Server) : Prop :=
  (∃ index ms, state.enteredAt index = some (id, ms)) ∧
    ∀ call, state.queue.live.find? id = some call → call.expires_at = expires_at

theorem expiresAt_step {id : Nat} (consistent : state.Consistent)
    (change : CallChange state next event) (expires : ExpiresAt id expires_at state) :
    ExpiresAt id expires_at next := by
  rcases expires with ⟨⟨index, ms, entered⟩, expires⟩
  refine ⟨⟨index, ms, change.entered_stays entered⟩, fun call held => ?_⟩
  rcases Server.Consistent.live_was change held with
    ⟨before, heldBefore, handles⟩ | ⟨entering, stamp, enters, _⟩
  · rw [← expires before heldBefore]
    simp only [LiveCall.handles, Prod.mk.injEq] at handles
    exact handles.2.2.2.symm
  · have same := consistent.distinct _ _ _ (Server.idAt_of_enteredAt entered) enters.drawn
    rw [same, enters.outside] at entered
    cases entered

theorem expiresAt_of_run {id : Nat} (run : RunWhere condition serverStep state trace next)
    (consistent : state.Consistent) (expires : ExpiresAt id expires_at state) :
    ExpiresAt id expires_at next := by
  have both : next.Consistent ∧ ExpiresAt id expires_at next := by
    apply run.stateInvariant fun state => state.Consistent ∧ ExpiresAt id expires_at state
    · exact ⟨consistent, expires⟩
    · intro state action next reply holds _ taken
      have change := serverStep_calls taken
      exact ⟨holds.1.step change, expiresAt_step holds.1 change holds.2⟩
  exact both.2

/-- A sweep takes a call out no earlier than it expires. -/
theorem expires_at_le_of_sweep {id : Nat} (clocked : Clocked trace state)
    (swept : serverStep state .reap_loop = some (next, .removed ids)) (member : id ∈ ids) :
    ∃ call, state.queue.live.find? id = some call ∧ call.expires_at ≤ state.now := by
  rcases Server.reap_loop_cases swept with ⟨silent, _⟩ | ⟨now, timed, equal, _⟩
  · cases silent
  · cases equal
    rcases Server.mem_expired.mp member with ⟨call, held, expired⟩
    exact ⟨call, held, Nat.le_trans expired (clocked.timed now timed)⟩

/-! ## A sweep that comes early

While the server runs, nothing keeps the reaper from a sweep as soon as a call
has expired. -/

/-- Nothing happens on the way but that removers finish. -/
structure Finishing (state next : Server) : Prop where
  live : next.queue.live = state.queue.live
  now : next.now = state.now
  reaper : next.reaper = state.reaper
  running : next.running = state.running

theorem Finishing.refl (state : Server) : Finishing state state := ⟨rfl, rfl, rfl, rfl⟩

theorem Finishing.trans (first : Finishing state middle) (second : Finishing middle next) :
    Finishing state next where
  live := second.live.trans first.live
  now := second.now.trans first.now
  reaper := second.reaper.trans first.reaper
  running := second.running.trans first.running

theorem exists_advance {id : Nat} {state : Server}
    (held : state.removed.find? id = some removal) :
    ∃ next, serverStep state (.advance id) = some (next, .silent) ∧ Finishing state next ∧
      ∀ other, next.removed.find? other =
        if other = id then removal.next? else state.removed.find? other := by
  cases taken : state.advance id with
  | none => simp [Server.advance, held] at taken
  | some result =>
      rcases result with ⟨next, reply⟩
      rcases Server.advance_goesOn taken with ⟨rfl, _, same, moved⟩
      cases held.symm.trans moved.held
      have step : serverStep state (.advance id) = some (next, .silent) := taken
      have apart := serverStep_apart step rfl
      exact ⟨next, step, ⟨moved.live, apart.now, apart.reaper, apart.running⟩, moved.removed⟩

/-- A remover goes on with its call. -/
def Action.advances : Action → Bool
  | .advance _ => true
  | _ => false

/-- How many steps a remover still has to take with a call. -/
def Stage.left : Stage → Nat
  | .taken => 3
  | .answered => 2
  | .counted => 1

/-- Whoever took a call out of `live` can finish with it. -/
theorem exists_run_dropped {id : Nat} {state : Server}
    (held : state.removed.find? id = some removal) :
    ∃ trace next, RunWhere (fun _ action => action.advances = true) serverStep state trace next ∧
      Finishing state next ∧
      ∀ other, next.removed.find? other =
        if other = id then none else state.removed.find? other := by
  induction left : removal.stage.left using Nat.strongRecOn generalizing state removal with
  | ind _ induction =>
      rcases exists_advance held with ⟨middle, taken, finishing, removed⟩
      have run : RunWhere (fun _ action => action.advances = true) serverStep state
          ([] ++ [(.advance id, .silent)]) middle := .next .start rfl taken
      cases after : removal.next? with
      | none =>
          refine ⟨_, middle, run, finishing, fun other => ?_⟩
          rw [removed, after]
      | some next =>
          have fewer : next.stage.left < removal.stage.left := by
            cases stage : removal.stage <;> simp [Removed.next?, stage] at after <;>
              simp [← after, Stage.left]
          have heldAfter : middle.removed.find? id = some next := by
            rw [removed, if_pos rfl, after]
          rcases induction _ (left ▸ fewer) heldAfter rfl with
            ⟨trace, last, rest, finishingRest, removedRest⟩
          refine ⟨_, last, run.append rest, finishing.trans finishingRest, fun other => ?_⟩
          rw [removedRest, removed]
          split <;> rfl

theorem exists_run_all_dropped (ids : List Nat) {state : Server}
    (listed : ∀ id removal, state.removed.find? id = some removal → id ∈ ids) :
    ∃ trace next, RunWhere (fun _ action => action.advances = true) serverStep state trace next ∧
      Finishing state next ∧
      ∀ id, next.removed.find? id = none := by
  induction ids generalizing state with
  | nil =>
      refine ⟨[], state, .start, .refl state, fun id => ?_⟩
      cases held : state.removed.find? id with
      | none => rfl
      | some removal => exact absurd (listed id removal held) List.not_mem_nil
  | cons first ids induction =>
      cases held : state.removed.find? first with
      | none =>
          apply induction
          intro id removal heldOther
          rcases List.mem_cons.mp (listed id removal heldOther) with rfl | member
          · rw [held] at heldOther
            cases heldOther
          · exact member
      | some removal =>
          rcases exists_run_dropped held with ⟨trace, middle, run, finishing, removed⟩
          have fewer : ∀ id removal, middle.removed.find? id = some removal → id ∈ ids := by
            intro id removal heldOther
            rw [removed] at heldOther
            split at heldOther
            · cases heldOther
            · rename_i different
              exact (List.mem_cons.mp (listed id removal heldOther)).resolve_left different
          rcases induction fewer with ⟨rest, next, runRest, finishingRest, none⟩
          exact ⟨_, next, run.append runRest, finishing.trans finishingRest, none⟩

theorem exists_run_not_reaping (state : Server) :
    ∃ trace next, RunWhere (fun _ action => action.advances = true) serverStep state trace next ∧
      Finishing state next ∧
      next.reaping = false := by
  have listed : ∀ id removal, state.removed.find? id = some removal → id ∈ state.removed.keys :=
    fun id removal held => IdMap.mem_keys.mpr ⟨removal, held⟩
  rcases exists_run_all_dropped _ listed with ⟨trace, next, run, finishing, none⟩
  refine ⟨trace, next, run, finishing, ?_⟩
  unfold Server.reaping
  apply List.any_eq_false.mpr
  intro entry member
  have held := IdMap.find?_of_mem_entries member
  rw [none] at held
  cases held

/-- Some run from here takes the call out in a sweep, no later than `bound`. -/
def SweptBy (bound id : Nat) (state : Server) : Prop :=
  ∃ trace sweeping next ids, Run serverStep state trace sweeping ∧
    serverStep sweeping .reap_loop = some (next, .removed ids) ∧ id ∈ ids ∧ sweeping.now ≤ bound

theorem SweptBy.after {bound id : Nat} (swept : SweptBy bound id middle)
    (run : Run serverStep state trace middle) : SweptBy bound id state := by
  rcases swept with ⟨rest, sweeping, next, ids, runRest, taken, member, intime⟩
  exact ⟨_, sweeping, next, ids, run.append runRest, taken, member, intime⟩

theorem sweep_taken {state : Server} {now : Nat} (running : state.running = true)
    (timed : state.reaper = .timed now) : serverStep state .reap_loop =
      some ({ state with reaper := .waiting }.take .reaper Server.reaperStatus
        (state.expired now), .removed (state.expired now)) := by
  simp [serverStep, Server.reap_loop, running, timed]

/-- A sweep whose clock reading is late enough takes the call. -/
theorem sweptBy_of_timed {id bound : Nat} {state : Server} (running : state.running = true)
    (timed : state.reaper = .timed now) (held : state.queue.live.find? id = some call)
    (expires : call.expires_at ≤ now) (inTime : state.now ≤ bound) : SweptBy bound id state :=
  ⟨[], state, _, _, .start, sweep_taken running timed,
    Server.mem_expired.mpr ⟨call, held, expires⟩, inTime⟩

/-- A reaper that has found a deadline reads the clock when it is time. -/
theorem sweptBy_of_armed {id bound : Nat} {state : Server} (running : state.running = true)
    (armed : state.reaper = .armed) (held : state.queue.live.find? id = some call)
    (inTime : state.now ≤ bound) (expires : call.expires_at ≤ bound) : SweptBy bound id state := by
  have waits : serverStep state (.tick (bound - state.now)) =
      some ({ state with now := bound }, .silent) := by
    simp only [serverStep, Nat.add_sub_of_le inTime]
  have reads : serverStep { state with now := bound } .reap_loop =
      some ({ state with now := bound, reaper := .timed bound }, .silent) := by
    simp [serverStep, Server.reap_loop, running, armed]
  refine SweptBy.after ?_ ((Run.next .start waits).next reads)
  exact sweptBy_of_timed running rfl held expires (Nat.le_refl bound)

theorem arming_taken {state : Server} (running : state.running = true)
    (waiting : state.reaper = .waiting) (notReaping : state.reaping = false)
    (deadline : state.queue.deadline_ms ≠ 0) :
    serverStep state .reap_loop = some ({ state with reaper := .armed }, .silent) := by
  simp [serverStep, Server.reap_loop, running, waiting, notReaping, deadline]

/-- A reaper that waits for its next tick is first given a deadline to find. -/
theorem sweptBy_of_waiting {id bound : Nat} {state : Server} (running : state.running = true)
    (waiting : state.reaper = .waiting) (held : state.queue.live.find? id = some call)
    (inTime : state.now ≤ bound) (expires : call.expires_at ≤ bound) : SweptBy bound id state := by
  rcases exists_run_not_reaping state with ⟨trace, idle, run, finishing, notReaping⟩
  rw [← finishing.running] at running
  rw [← finishing.reaper] at waiting
  rw [← finishing.live] at held
  rw [← finishing.now] at inTime
  apply SweptBy.after ?_ (run.mono fun _ _ _ => trivial)
  have configures : serverStep idle (.configure 1 1) = some ({ idle with
      queue := { idle.queue with max_pending := 1 }
      configuring := idle.configuring ++ [1] }, .returned ZPR_OK none) := rfl
  have stores : serverStep { idle with
      queue := { idle.queue with max_pending := 1 }
      configuring := idle.configuring ++ [1] } (.store_deadline idle.configuring.length) =
      some ({ idle with
        queue := { idle.queue with max_pending := 1, deadline_ms := 1 } }, .silent) := by
    simp [serverStep, Server.store_deadline, List.eraseIdx_append_of_length_le]
  have arms : serverStep { idle with
      queue := { idle.queue with max_pending := 1, deadline_ms := 1 } } .reap_loop =
      some ({ idle with
        queue := { idle.queue with max_pending := 1, deadline_ms := 1 }
        reaper := .armed }, .silent) :=
    arming_taken running waiting notReaping Nat.one_ne_zero
  refine SweptBy.after ?_ (((Run.next .start configures).next stores).next arms)
  exact sweptBy_of_armed running rfl held inTime expires

/-- While the server runs, a sweep can take any call as soon as it has expired. -/
theorem sweptBy_of_live {id bound : Nat} {state : Server} (running : state.running = true)
    (held : state.queue.live.find? id = some call) (inTime : state.now ≤ bound)
    (expires : call.expires_at ≤ bound) : SweptBy bound id state := by
  cases reaper : state.reaper with
  | waiting => exact sweptBy_of_waiting running reaper held inTime expires
  | armed => exact sweptBy_of_armed running reaper held inTime expires
  | timed now =>
      by_cases expired : call.expires_at ≤ now
      · exact sweptBy_of_timed running reaper held expired inTime
      · -- the clock was read too early for this call, which is left to the next sweep
        refine SweptBy.after ?_ (Run.next .start (sweep_taken running reaper))
        have spared : id ∉ state.expired now := by
          intro member
          rcases Server.mem_expired.mp member with ⟨other, found, early⟩
          cases held.symm.trans found
          exact expired early
        have stillHeld : ({ state with reaper := .waiting }.take .reaper Server.reaperStatus
            (state.expired now)).queue.live.find? id = some call :=
          (IdMap.find?_transfer_source _ _ _ _ id).trans ((if_neg spared).trans held)
        exact sweptBy_of_waiting (by exact running) rfl stillHeld inTime expires

/-! ## When an accepted call gets its deadline -/

/-- At that time the reaper takes the call out of `live`. -/
def ReapedAt (trace : List (Action × Reply)) (id time : Nat) : Prop :=
  ∃ before ids after, trace = before ++ (.reap_loop, .removed ids) :: after ∧ id ∈ ids ∧
    elapsed before = time

theorem ReapedAt.append {id : Nat} (reaped : ReapedAt trace id time)
    (more : List (Action × Reply)) : ReapedAt (trace ++ more) id time := by
  rcases reaped with ⟨before, ids, after, rfl, member, at_time⟩
  exact ⟨before, ids, after ++ more, by simp, member, at_time⟩

theorem ReapedAt.le_elapsed {id : Nat} (reaped : ReapedAt trace id time) :
    time ≤ elapsed trace := by
  rcases reaped with ⟨before, ids, after, rfl, _, rfl⟩
  rw [elapsed_append]
  exact Nat.le_add_right _ _

/-- A sweep in two runs one after the other is in the first or in the second. -/
theorem ReapedAt.of_append {id : Nat} {earlier later : List (Action × Reply)}
    (reaped : ReapedAt (earlier ++ later) id time) :
    ReapedAt earlier id time ∨ ∃ before ids after,
      later = before ++ (.reap_loop, .removed ids) :: after ∧ id ∈ ids ∧
      elapsed (earlier ++ before) = time := by
  rcases reaped with ⟨before, ids, after, cut, member, at_time⟩
  rcases List.append_eq_append_iff.mp cut with
    ⟨between, rfl, rest⟩ | ⟨between, rfl, rest⟩
  · exact .inr ⟨between, ids, after, rest, member, at_time⟩
  · cases between with
    | nil =>
        refine .inr ⟨[], ids, after, rest.symm, member, ?_⟩
        simpa using at_time
    | cons event between =>
        rw [List.cons_append] at rest
        cases rest
        exact .inl ⟨before, ids, between, rfl, member, at_time⟩

/-- Only the end of the server drops the runtime. -/
theorem serverStep_running (taken : serverStep state action = some (next, reply))
    (goesOn : action ≠ .server_stop) : next.running = state.running := by
  cases action with
  | tick time =>
      cases taken
      rfl
  | handle_queued index =>
      rcases Server.handle_queued_cases taken with ⟨rpc, after, queue, _, _, rfl, _⟩
      rfl
  | accept out_call_id out_method =>
      rcases serverStep_accept_cases taken with ⟨rfl, _⟩ | ⟨_, _, _, _, _, rfl, _⟩
      · rfl
      · rfl
  | reap_loop =>
      rcases Server.reap_loop_cases taken with ⟨_, rfl | rfl | rfl⟩ | ⟨now, _, _, rfl⟩ <;> rfl
  | server_stop => exact absurd rfl goesOn
  | _ => exact (serverStep_apart taken rfl).running

/-- A runtime once dropped does not come back. -/
theorem serverStep_stopped (taken : serverStep state action = some (next, reply))
    (stopped : state.running = false) : next.running = false := by
  cases action with
  | server_stop => simp [serverStep, Server.server_stop, stopped] at taken
  | _ => exact (serverStep_running taken (by simp)).trans stopped

theorem stopped_of_run (run : RunWhere condition serverStep state trace next)
    (stopped : state.running = false) : next.running = false :=
  run.stateInvariant (fun state => state.running = false) stopped
    fun stopped _ taken => serverStep_stopped taken stopped

/-- How long a call stamped with `ms` has. -/
def lifetime (ms : Nat) : Nat := from_millis (if ms = 0 then (2 ^ 64 - 1) / 4 else ms)

/-- A call in `live` has the lifetime it was stamped with, from some time on. -/
theorem exists_since_of_run {id : Nat} (run : RunWhere condition serverStep .start trace state)
    (held : state.queue.live.find? id = some call)
    (stamped : state.enteredAt index = some (id, ms)) :
    ∃ since ≤ state.now, call.expires_at = since + lifetime ms := by
  have early : ∀ id call, state.queue.live.find? id = some call → ∃ index ms,
      state.enteredAt index = some (id, ms) ∧
        ∃ since ≤ state.now, call.expires_at = since + lifetime ms := by
    apply run.stateInvariant fun state => ∀ id call, state.queue.live.find? id = some call →
      ∃ index ms, state.enteredAt index = some (id, ms) ∧
        ∃ since ≤ state.now, call.expires_at = since + lifetime ms
    · intro id call held
      simp [Server.start, CallQueue.new] at held
    · intro state action next reply early _ taken id call held
      have change := serverStep_calls taken
      have later : state.now ≤ next.now := by
        rw [(serverStep_clock taken).1]
        exact Nat.le_add_right _ _
      rcases Server.Consistent.live_was change held with
        ⟨before, heldBefore, handles⟩ | ⟨index, ms, enters, rfl⟩
      · rcases early id before heldBefore with ⟨index, ms, entered, since, past, expires⟩
        refine ⟨index, ms, change.entered_stays entered, since, Nat.le_trans past later, ?_⟩
        simp only [LiveCall.handles, Prod.mk.injEq] at handles
        rw [← handles.2.2.2, expires]
      · refine ⟨index, ms, ?_, state.now, later, rfl⟩
        rw [enters.enteredAt, if_pos rfl]
  rcases early id call held with ⟨other, otherMs, entered, since⟩
  have same := (consistent_of_run run).distinct _ _ _ (Server.idAt_of_enteredAt entered)
    (Server.idAt_of_enteredAt stamped)
  rw [same, stamped] at entered
  cases entered
  exact since

/-- The deadline that a call in `live` was stamped with starts no later than now. -/
theorem expires_at_le_of_run {id : Nat} (run : RunWhere condition serverStep .start trace state)
    (held : state.queue.live.find? id = some call)
    (stamped : state.enteredAt index = some (id, ms)) :
    call.expires_at ≤ state.expires_at ms := by
  rcases exists_since_of_run run held stamped with ⟨since, past, expires⟩
  rw [expires]
  exact Nat.add_le_add_right past _

/-- A call that expires before `bound` can be reaped before `bound`. -/
theorem exists_reapedAt_lt {id bound : Nat} (run : Run serverStep .start trace state)
    (running : state.running = true) (held : state.queue.live.find? id = some call)
    (now : state.now < bound) (expires : call.expires_at < bound) :
    ∃ later final time, Run serverStep state later final ∧ ReapedAt (trace ++ later) id time ∧
      time < bound := by
  rcases sweptBy_of_live running held (Nat.le_sub_one_of_lt now) (Nat.le_sub_one_of_lt expires) with
    ⟨later, sweeping, final, ids, runSweeping, taken, member, inTime⟩
  have reading := (clocked_of_run (run.append runSweeping)).now
  refine ⟨_, final, _, runSweeping.next taken, ⟨trace ++ later, ids, [], ?_, member, rfl⟩, ?_⟩
  · rw [List.append_assoc]
  · rw [← reading]
    omega

/-- From when a call has its stamp, no sweep takes it before it expires. -/
theorem expires_at_le_of_reaped {id : Nat} (run : Run serverStep .start trace state)
    (expires : state.running = true → ExpiresAt id expires_at state)
    (runLater : Run serverStep state (before ++ (.reap_loop, .removed ids) :: after) final)
    (member : id ∈ ids) : expires_at ≤ elapsed (trace ++ before) := by
  rcases RunWhere.split runLater rfl with ⟨sweeping, swept, runSweeping, _, taken, _⟩
  have clocked := clocked_of_run (run.append runSweeping)
  rcases expires_at_le_of_sweep clocked taken member with ⟨call, held, expired⟩
  have running : state.running = true := by
    cases still : state.running with
    | true => rfl
    | false =>
        have stopped := stopped_of_run runSweeping still
        simp [serverStep, Server.reap_loop, stopped] at taken
  have stamped := expiresAt_of_run runSweeping (consistent_of_run run) (expires running)
  rw [stamped.2 call held, clocked.now] at expired
  exact expired

/-- The call that `zpr_grpc_accept` hands out is reaped no sooner than its
deadline after it was accepted, whatever happens next, exactly if it has not been
reaped before, and was put into `live` at the very time of the accept (or can no
longer be reaped at all). -/
theorem accepted_call_gets_deadline_iff
    (run : Run serverStep .start beforeAccept state)
    (accepted : serverStep state (.accept out_call_id out_method) = some (next, .accepted reply))
    (handed : reply.rc = ZPR_CALL_MESSAGE)
    (front : state.queue.pending = (call_id, path) :: pending)
    (stamped : state.enteredAt index = some (call_id, ms)) (finite : ms ≠ 0) :
    (∀ afterAccept final time, Run serverStep next afterAccept final →
      ReapedAt (beforeAccept ++ (.accept out_call_id out_method, .accepted reply) :: afterAccept)
        call_id time → elapsed beforeAccept + from_millis ms ≤ time) ↔
    (∀ time, ¬ ReapedAt beforeAccept call_id time) ∧
      (state.running = true → ∀ call, state.queue.live.find? call_id = some call →
        call.expires_at = state.now + from_millis ms) := by
  have clock := (clocked_of_run run).now
  have runAccepted := Run.next run accepted
  have positive : 0 < from_millis ms := Nat.mul_pos (Nat.pos_of_ne_zero finite) (by decide)
  have moved : next = { state with queue := { state.queue with
      pending := pending, accepted := state.queue.accepted + 1 } } := by
    rcases serverStep_accept_cases accepted with
      ⟨_, answer, equal, failed⟩ | ⟨id, path, others, answer, held, rfl, _⟩
    · cases equal
      exact absurd handed failed
    · rw [front] at held
      cases held
      rfl
  constructor
  · intro full
    refine ⟨fun time reaped => ?_, fun running call held => ?_⟩
    · have late := full [] next time .start (reaped.append _)
      have bound := reaped.le_elapsed
      omega
    · have bound := expires_at_le_of_run run held stamped
      simp only [Server.expires_at, if_neg finite] at bound
      rcases Nat.lt_or_eq_of_le bound with early | equal
      · -- stamped before it was accepted: a sweep can come in between
        have expires : call.expires_at < elapsed beforeAccept + from_millis ms := clock ▸ early
        have now : next.now < elapsed beforeAccept + from_millis ms := by
          have same : next.now = state.now := by rw [moved]
          omega
        rcases exists_reapedAt_lt runAccepted (by rw [moved]; exact running)
          (by rw [moved]; exact held) now expires with ⟨later, final, time, runLater, reaped, sooner⟩
        rw [← List.append_cons] at reaped
        have late := full later final time runLater reaped
        omega
      · exact equal
  · intro met afterAccept final time runAfter reaped
    rcases met with ⟨notBefore, fresh⟩
    rw [List.append_cons] at reaped
    rcases reaped.of_append with sooner | ⟨before, ids, after, rfl, member, rfl⟩
    · rcases sooner.of_append with sooner | ⟨between, ids, after, cut, _, _⟩
      · exact absurd sooner (notBefore time)
      · cases between with
        | nil => cases cut
        | cons event between => simp at cut
    · rw [← clock]
      refine expires_at_le_of_reaped runAccepted (fun running => ?_) runAfter member
      rw [moved] at running ⊢
      exact ⟨⟨index, ms, stamped⟩, fresh running⟩

theorem accepted_call_gets_deadline_at_once : ∃ beforeAccept state next reply,
    Run serverStep .start beforeAccept state ∧
      serverStep state (.accept .valid { out := .valid, out_cap := 8, out_len := .valid }) =
        some (next, .accepted reply) ∧
      reply.rc = ZPR_CALL_MESSAGE ∧ state.queue.pending = [(1, "/a")] ∧
      state.enteredAt 0 = some (1, 30000) ∧
      ∀ afterAccept final time, Run serverStep next afterAccept final →
        ReapedAt (beforeAccept ++ (.accept .valid { out := .valid, out_cap := 8, out_len := .valid },
          .accepted reply) :: afterAccept) 1 time →
        elapsed beforeAccept + from_millis 30000 ≤ time := by
  have replayed : ∃ beforeAccept state next reply, replay serverStep .start
        [.arrive "/a" ⟨[], false⟩, .handle_queued 0, .handle_queued 0, .handle_queued 0,
          .handle_queued 0, .handle_queued 0] = some (beforeAccept, state) ∧
      serverStep state (.accept .valid { out := .valid, out_cap := 8, out_len := .valid }) =
        some (next, .accepted reply) ∧
      reply.rc = ZPR_CALL_MESSAGE ∧ state.queue.pending = [(1, "/a")] ∧
      state.enteredAt 0 = some (1, 30000) ∧ state.running = true ∧
      state.queue.live.find? 1 = some (.admitted 0 (state.now + from_millis 30000)) :=
    ⟨_, _, _, _, rfl, rfl, rfl, rfl, rfl, rfl, rfl⟩
  rcases replayed with ⟨beforeAccept, state, next, reply, replayed, accepted, handed, front,
    stamped, running, held⟩
  have run := run_of_replay replayed
  refine ⟨beforeAccept, state, next, reply, run, accepted, handed, front, stamped, ?_⟩
  apply (accepted_call_gets_deadline_iff run accepted handed front stamped (by decide)).mpr
  refine ⟨fun time reaped => ?_, fun _ call heldCall => ?_⟩
  · rcases reaped with ⟨before, ids, after, cut, _⟩
    have swept : Action.reap_loop ∈ beforeAccept.map Prod.fst := by simp [cut]
    rw [actions_of_replay replayed] at swept
    simp at swept
  · cases held.symm.trans heldCall
    rfl

/-- The host accepts the call 29 s after it was stamped, and a second later the
reaper answers it. -/
theorem accepted_call_reaped_a_second_later :
    ∃ beforeAccept state next reply afterAccept final time,
      Run serverStep .start beforeAccept state ∧
      serverStep state (.accept .valid { out := .valid, out_cap := 8, out_len := .valid }) =
        some (next, .accepted reply) ∧
      reply.rc = ZPR_CALL_MESSAGE ∧ reply.out_call_id = some 1 ∧
      state.enteredAt 0 = some (1, 30000) ∧
      Run serverStep next afterAccept final ∧
      ReapedAt (beforeAccept ++ (.accept .valid { out := .valid, out_cap := 8, out_len := .valid },
        .accepted reply) :: afterAccept) 1 time ∧
      time < elapsed beforeAccept + from_millis 30000 := by
  have replayed : ∃ beforeAccept state next reply timing sweeping final ids,
      replay serverStep .start
        [.arrive "/a" ⟨[], false⟩, .handle_queued 0, .handle_queued 0, .handle_queued 0,
          .handle_queued 0, .handle_queued 0, .tick 29000000000] = some (beforeAccept, state) ∧
      serverStep state (.accept .valid { out := .valid, out_cap := 8, out_len := .valid }) =
        some (next, .accepted reply) ∧
      reply.rc = ZPR_CALL_MESSAGE ∧ reply.out_call_id = some 1 ∧
      state.enteredAt 0 = some (1, 30000) ∧ elapsed beforeAccept = 29000000000 ∧
      replay serverStep next [.tick 1000000000, .reap_loop, .reap_loop] =
        some (timing, sweeping) ∧ elapsed timing = 1000000000 ∧
      serverStep sweeping .reap_loop = some (final, .removed ids) ∧ ids = [1] :=
    ⟨_, _, _, _, _, _, _, _, rfl, rfl, rfl, rfl, rfl, rfl, rfl, rfl, rfl, rfl⟩
  rcases replayed with ⟨beforeAccept, state, next, reply, timing, sweeping, final, ids, replayed,
    accepted, handed, returned, stamped, elapsedBefore, timed, elapsedTiming, swept, rfl⟩
  refine ⟨beforeAccept, state, next, reply, _, final, 30000000000, run_of_replay replayed,
    accepted, handed, returned, stamped, (run_of_replay timed).next swept, ?_, ?_⟩
  · refine ⟨beforeAccept ++ (.accept .valid { out := .valid, out_cap := 8, out_len := .valid },
      .accepted reply) :: timing, [1], [], by simp, List.mem_singleton_self 1, ?_⟩
    have between : elapsed ((.accept .valid { out := .valid, out_cap := 8, out_len := .valid },
        .accepted reply) :: timing) = elapsed timing := by simp [elapsed]
    rw [elapsed_append, between, elapsedBefore, elapsedTiming]
  · rw [elapsedBefore]
    decide

end Zpr.GrpcServer
