import Zpr.GrpcServer.CallConservation
import Zpr.GrpcServer.Deadline

namespace Zpr.GrpcServer

/-! # Configuring the queue while calls are in it

A call already accepted is said to keep the deadline it was stamped with. The sweep
goes by the stamps, but each tick of the reaper first looks at `deadline_ms`. -/

/-- One tick of the reaper: its look at `deadline_ms`, and everything until it waits
for the next tick. -/
structure TicksBy (state : Server) (tick : List (Action × Reply)) (final : Server) : Prop where
  looks : ∃ next reply rest, serverStep state .reap_loop = some (next, reply) ∧
    RunWhere (fun state _ => state.reaper ≠ .waiting) serverStep next rest final ∧
    tick = (.reap_loop, reply) :: rest
  ended : final.reaper = .waiting

/-- The reaper has taken the call out of `live`, to be answered `DEADLINE_EXCEEDED`. -/
structure TakenByReaper (id : Nat) (tick : List (Action × Reply)) (final : Server) : Prop where
  reaped : reapings id tick = [Server.reaperStatus]
  absent : final.queue.live.find? id = none
  removed : ∃ call, final.removed.find? id = some ⟨call, Server.reaperStatus, .reaper, .taken⟩

/-- Nobody else takes the call out of `live` meanwhile. -/
structure LeftToReaper (id : Nat) (tick : List (Action × Reply)) : Prop where
  completions : completions id tick = []
  notFreed : ∀ event ∈ tick, event.1 ≠ .queue_free

theorem LeftToReaper.earlier {id : Nat} (left : LeftToReaper id (tick ++ [event])) :
    LeftToReaper id tick := by
  refine ⟨?_, fun event member => left.notFreed event (List.mem_append_left _ member)⟩
  have whole := left.completions
  rw [GrpcServer.completions, List.flatMap_append] at whole
  exact (List.append_eq_nil_iff.mp whole).1

theorem LeftToReaper.last {id : Nat} (left : LeftToReaper id (tick ++ [event])) :
    completionsOf id event = [] ∧ event.1 ≠ .queue_free := by
  refine ⟨?_, left.notFreed event (List.mem_append_right _ (List.mem_singleton_self _))⟩
  have whole := left.completions
  rw [GrpcServer.completions, List.flatMap_append, List.flatMap_singleton] at whole
  exact (List.append_eq_nil_iff.mp whole).2

theorem serverStep_reaper (taken : serverStep state action = some (next, reply))
    (elsewhere : action ≠ .reap_loop) : next.reaper = state.reaper := by
  cases action with
  | reap_loop => exact absurd rfl elsewhere
  | tick time =>
      cases taken
      rfl
  | handle_queued index =>
      rcases Server.handle_queued_cases taken with ⟨_, _, _, _, _, rfl, _⟩
      rfl
  | accept out_call_id out_method =>
      rcases serverStep_accept_cases taken with ⟨rfl, _⟩ | ⟨_, _, _, _, _, rfl, _⟩ <;> rfl
  | server_stop =>
      rcases Server.server_stop_cases taken with ⟨_, _, _, _, _, rfl⟩
      rfl
  | _ => exact (serverStep_apart taken rfl).reaper

/-- The tick has found a deadline, and its sweep is to find the call expired. -/
structure Overdue (id : Nat) (state : Server) : Prop where
  consistent : state.Consistent
  live : ∃ call, state.queue.live.find? id = some call ∧ call.expires_at ≤ state.now ∧
    ∀ now, state.reaper = .timed now → call.expires_at ≤ now
  begun : state.reaper ≠ .waiting

namespace Overdue

/-- What does not take the call out leaves it to the sweep. -/
theorem step {id : Nat} (overdue : Overdue id state)
    (taken : serverStep state action = some (next, reply))
    (notRemoved : removalsOf id (action, reply) = []) (begun : next.reaper ≠ .waiting) :
    Overdue id next := by
  have change := serverStep_calls taken
  rcases overdue.live with ⟨call, held, due, read⟩
  rcases overdue.consistent.live_stays change held notRemoved with ⟨after, heldAfter, handles⟩
  simp only [LiveCall.handles, Prod.mk.injEq] at handles
  rcases serverStep_clock taken with ⟨now, reaper⟩
  refine ⟨overdue.consistent.step change, ⟨after, heldAfter, ?_, fun reading timed => ?_⟩, begun⟩
  · rw [handles.2.2.2, now]
    exact Nat.le_trans due (Nat.le_add_right _ _)
  · rw [handles.2.2.2]
    rcases reaper with same | idle | armed | timedNow
    · exact read reading (by rw [← same, timed])
    · exact absurd idle begun
    · rw [armed] at timed
      cases timed
    · rw [timedNow] at timed
      cases timed
      exact due

/-- The sweep takes the call out. -/
theorem step_sweep {id now : Nat} (overdue : Overdue id state)
    (timed : state.reaper = .timed now) : id ∈ state.expired now ∧
      LeavesLive state ({ state with reaper := .waiting }.take .reaper Server.reaperStatus
        (state.expired now)) .reaper Server.reaperStatus (state.expired now) := by
  rcases overdue.live with ⟨call, held, due, read⟩
  refine ⟨Server.mem_expired.mpr ⟨call, held, read now timed⟩, ?_⟩
  have left : LeavesLive { state with reaper := .waiting }
      ({ state with reaper := .waiting }.take .reaper Server.reaperStatus (state.expired now))
      .reaper Server.reaperStatus (state.expired now) := by
    apply Server.take_leavesLive
    intro other among
    rcases Server.mem_expired.mp among with ⟨call, held, _⟩
    exact ⟨call, held⟩
  exact { left with }

/-- One step within the tick: the call is still to be swept, or is swept. -/
theorem step_cases {id : Nat} (overdue : Overdue id state)
    (taken : serverStep state action = some (next, reply))
    (notCompleted : completionsOf id (action, reply) = []) (notFreed : action ≠ .queue_free) :
    Overdue id next ∧ reapingsOf id (action, reply) = [] ∨
      next.reaper = .waiting ∧ TakenByReaper id [(action, reply)] next := by
  cases action with
  | reap_loop =>
      rcases Server.reap_loop_cases taken with ⟨rfl, unswept⟩ | ⟨now, timed, rfl, rfl⟩
      · refine .inl ⟨overdue.step taken rfl ?_, rfl⟩
        rcases unswept with rfl | rfl | rfl
        · exact overdue.begun
        · simp
        · simp
      · rcases overdue.step_sweep timed with ⟨member, left⟩
        rcases overdue.live with ⟨call, held, _⟩
        refine .inr ⟨rfl, ?_, ?_, call, ?_⟩
        · simp [reapings, reapingsOf, member]
        · rw [left.live, if_pos member]
        · rw [left.removed, if_pos member, held]
          rfl
  | queue_free => exact absurd rfl notFreed
  | _ =>
      refine .inl ⟨overdue.step taken notCompleted ?_, rfl⟩
      rw [serverStep_reaper taken (by simp)]
      exact overdue.begun

/-- While the tick lasts, the call is left to the sweep or has been swept. -/
theorem of_run {id : Nat} (overdue : Overdue id state)
    (run : RunWhere (fun state _ => state.reaper ≠ .waiting) serverStep state rest final)
    (left : LeftToReaper id rest) : Overdue id final ∧ reapings id rest = [] ∨
      final.reaper = .waiting ∧ TakenByReaper id rest final := by
  induction run with
  | start => exact .inl ⟨overdue, rfl⟩
  | @next rest middle action next reply earlier notWaiting taken induction =>
      rcases induction left.earlier with ⟨before, notReaped⟩ | ⟨waiting, _⟩
      · have whole : reapings id (rest ++ [(action, reply)]) = reapings id [(action, reply)] := by
          rw [reapings_next, notReaped, List.nil_append, reapings, List.flatMap_singleton]
        rcases before.step_cases taken left.last.1 left.last.2 with
          ⟨after, notReapedNow⟩ | ⟨waiting, swept⟩
        · refine .inl ⟨after, ?_⟩
          rw [whole, reapings, List.flatMap_singleton, notReapedNow]
        · refine .inr ⟨waiting, ?_, swept.absent, swept.removed⟩
          rw [whole, swept.reaped]
      · exact absurd waiting notWaiting

end Overdue

/-- The tick that starts here takes an overdue call out of `live` exactly if it finds
`deadline_ms` other than zero. -/
theorem takenByReaper_iff {id : Nat} (run : RunWhere condition serverStep .start trace state)
    (held : state.queue.live.find? id = some call) (due : call.expires_at ≤ state.now)
    (running : state.running = true) (waiting : state.reaper = .waiting)
    (notReaping : state.reaping = false) :
    (∀ tick final, TicksBy state tick final → LeftToReaper id tick →
      TakenByReaper id tick final) ↔ state.queue.deadline_ms ≠ 0 := by
  constructor
  · intro always zero
    have silent : serverStep state .reap_loop = some (state, .silent) := by
      simp [serverStep, Server.reap_loop, running, waiting, notReaping, zero]
    have tick : TicksBy state [(.reap_loop, .silent)] state :=
      ⟨⟨state, .silent, [], silent, .start, rfl⟩, waiting⟩
    have untouched : LeftToReaper id [(.reap_loop, .silent)] := ⟨rfl, by simp⟩
    have absent := (always _ _ tick untouched).absent
    rw [held] at absent
    cases absent
  · intro deadline tick final ticks untouched
    rcases ticks.looks with ⟨next, reply, rest, taken, within, rfl⟩
    cases (arming_taken running waiting notReaping deadline).symm.trans taken
    have overdue : Overdue id { state with reaper := .armed } := by
      refine ⟨?_, ⟨call, held, due, by simp⟩, by simp⟩
      exact (consistent_of_run run).step (serverStep_calls taken)
    have rest' : LeftToReaper id rest := by
      refine ⟨untouched.completions, fun event member => ?_⟩
      exact untouched.notFreed event (List.mem_cons_of_mem _ member)
    rcases overdue.of_run within rest' with ⟨still, _⟩ | ⟨_, swept⟩
    · exact absurd ticks.ended still.begun
    · exact ⟨swept.reaped, swept.absent, swept.removed⟩

/-- A call in `live` is taken out by a tick of the reaper that starts when the call has
expired, whatever the deadline has been set to meanwhile, exactly if it is not zero. And
no sweep takes a call out before the time that it was itself stamped with, which for a
stamp of zero is longer than any host lives. -/
theorem reconfiguring_keeps_stamp_iff {id : Nat} (run : Run serverStep .start trace state)
    (held : state.queue.live.find? id = some call)
    (stamped : state.enteredAt index = some (id, ms)) :
    (call.expires_at ≤ state.now → state.running = true → state.reaper = .waiting →
      state.reaping = false →
        ((∀ tick final, TicksBy state tick final → LeftToReaper id tick →
          TakenByReaper id tick final) ↔ state.queue.deadline_ms ≠ 0)) ∧
    ∃ since ≤ state.now, call.expires_at = since + lifetime ms ∧
      ∀ before ids after final,
        Run serverStep state (before ++ (.reap_loop, .removed ids) :: after) final → id ∈ ids →
          since + lifetime ms ≤ elapsed (trace ++ before) := by
  refine ⟨fun due running waiting notReaping =>
    takenByReaper_iff run held due running waiting notReaping, ?_⟩
  rcases exists_since_of_run run held stamped with ⟨since, past, expires⟩
  refine ⟨since, past, expires, fun before ids after final later member => ?_⟩
  rw [← expires]
  refine expires_at_le_of_reaped run (fun _ => ⟨⟨index, ms, stamped⟩, fun other same => ?_⟩) later
    member
  rw [held] at same
  cases same
  rfl

/-- A call stamped with 30 s, and a deadline of 5 ms configured later. -/
theorem reconfiguring_keeps_stamp_of_finite : ∃ trace state call,
    Run serverStep .start trace state ∧ state.queue.live.find? 1 = some call ∧
      state.enteredAt 0 = some (1, 30000) ∧ state.queue.deadline_ms = 5 ∧
      ∀ tick final, TicksBy state tick final → LeftToReaper 1 tick →
        TakenByReaper 1 tick final := by
  have replayed : ∃ trace state call, replay serverStep .start
        [.arrive "/a" ⟨[], false⟩, .handle_queued 0, .handle_queued 0, .handle_queued 0,
          .handle_queued 0, .handle_queued 0, .configure 1024 5, .store_deadline 0,
          .tick 30000000000] = some (trace, state) ∧
      state.queue.live.find? 1 = some call ∧ state.enteredAt 0 = some (1, 30000) ∧
      state.queue.deadline_ms = 5 ∧ call.expires_at ≤ state.now ∧ state.running = true ∧
      state.reaper = .waiting ∧ state.reaping = false :=
    ⟨_, _, _, rfl, rfl, rfl, rfl, by decide, rfl, rfl, rfl⟩
  rcases replayed with
    ⟨trace, state, call, replayed, held, stamped, five, due, running, waiting, notReaping⟩
  have run := run_of_replay replayed
  refine ⟨trace, state, call, run, held, stamped, five, ?_⟩
  apply ((reconfiguring_keeps_stamp_iff run held stamped).1 due running waiting notReaping).mpr
  rw [five]
  decide

/-- The two steps of `zpr_grpc_queue_configure`. -/
def Action.configures : Action → Bool
  | .configure _ _ | .store_deadline _ => true
  | _ => false

/-- The deadline is switched off after the call has been stamped with 30 s. The tick
after that leaves the call in `live`; without the reconfiguration it takes it out. -/
theorem reconfiguring_to_zero_keeps_call : ∃ trace state call final,
    Run serverStep .start trace state ∧ state.queue.live.find? 1 = some call ∧
      state.enteredAt 0 = some (1, 30000) ∧ call.expires_at ≤ state.now ∧
      TicksBy state [(.reap_loop, .silent)] state ∧
      ¬ TakenByReaper 1 [(.reap_loop, .silent)] state ∧
      replay serverStep .start
        ((trace.map Prod.fst).filter (fun action => !action.configures) ++
          [.reap_loop, .reap_loop, .reap_loop]) = some final ∧
      final.1.getLast? = some (.reap_loop, .removed [1]) := by
  have replayed : ∃ trace state call final, replay serverStep .start
        [.arrive "/a" ⟨[], false⟩, .handle_queued 0, .handle_queued 0, .handle_queued 0,
          .handle_queued 0, .handle_queued 0, .configure 1024 0, .store_deadline 0,
          .tick 30000000000] = some (trace, state) ∧
      state.queue.live.find? 1 = some call ∧ state.enteredAt 0 = some (1, 30000) ∧
      call.expires_at ≤ state.now ∧ serverStep state .reap_loop = some (state, .silent) ∧
      state.reaper = .waiting ∧
      replay serverStep .start
        [.arrive "/a" ⟨[], false⟩, .handle_queued 0, .handle_queued 0, .handle_queued 0,
          .handle_queued 0, .handle_queued 0, .tick 30000000000, .reap_loop, .reap_loop,
          .reap_loop] = some final ∧
      final.1.getLast? = some (.reap_loop, .removed [1]) :=
    ⟨_, _, _, _, rfl, rfl, rfl, by decide, rfl, rfl, rfl, rfl⟩
  rcases replayed with
    ⟨trace, state, call, final, replayed, held, stamped, due, silent, waiting, without, swept⟩
  refine ⟨trace, state, call, final, run_of_replay replayed, held, stamped, due,
    ⟨⟨state, .silent, [], silent, .start, rfl⟩, waiting⟩, fun taken => ?_, ?_, swept⟩
  · have absent := taken.absent
    rw [held] at absent
    cases absent
  · rw [actions_of_replay replayed]
    exact without

end Zpr.GrpcServer
