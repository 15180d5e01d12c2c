import Zpr.Foundation.Observation
import Zpr.GrpcServer.CallConservation
import Zpr.GrpcServer.QueuedProgress
import Zpr.GrpcServer.Reconfiguration

namespace Zpr.GrpcServer

/-! # Calls that the host forgets

A host may return early and never complete a call. The sweeps are there for such calls: a
sweep leaves none behind that has expired when it reads the clock, and a client that keeps
its response open is told. -/

/-- The reading of the clock that a step ends a sweep with. -/
def sweepOf : Note Server Action Reply Nat := fun state action _ _ =>
  match action, state.reaper with
  | .reap_loop, .timed now => [now]
  | _, _ => []

/-- The readings of all sweeps so far. -/
def sweeps (trace : List (Action × Reply)) : List Nat :=
  observe serverStep sweepOf .start (trace.map Prod.fst)

/-- How often a client has polled its response. -/
def timesPolled (index : Nat) (trace : List (Action × Reply)) : Nat :=
  trace.countP fun event => event.1 == .poll_frame index

/-! ## What a sweep leaves -/

structure NoneLeft (trace : List (Action × Reply)) (state : Server) : Prop where
  past : ∀ reading ∈ sweeps trace, reading ≤ state.now
  expires : ∀ id call, state.queue.live.find? id = some call →
    ∀ reading ∈ sweeps trace, reading < call.expires_at

/-- A call that goes into `live` expires later on. -/
theorem now_lt_expires_at (state : Server) (ms : Nat) : state.now < state.expires_at ms := by
  have positive : 0 < from_millis (if ms = 0 then (2 ^ 64 - 1) / 4 else ms) := by
    apply Nat.mul_pos
    · split
      · decide
      · omega
    · decide
  rw [Server.expires_at]
  omega

/-- What a sweep has left in `live` has not expired. -/
theorem lt_expires_at_of_swept {id : Nat} (taken : serverStep state .reap_loop = some (next, reply))
    (timed : state.reaper = .timed now) (held : next.queue.live.find? id = some call) :
    now < call.expires_at := by
  have running : state.running = true := by
    cases running : state.running with
    | true => rfl
    | false => simp [serverStep, Server.reap_loop, running] at taken
  cases (sweep_taken running timed).symm.trans taken
  have present : ∀ id ∈ state.expired now, ∃ call, state.queue.live.find? id = some call := by
    intro id member
    rcases Server.mem_expired.mp member with ⟨call, found, _⟩
    exact ⟨call, found⟩
  have left := Server.take_leavesLive { state with reaper := .waiting } .reaper
    Server.reaperStatus present
  rw [left.live] at held
  split at held
  · cases held
  · rename_i notExpired
    apply Nat.lt_of_not_le
    intro expired
    exact notExpired (Server.mem_expired.mpr ⟨call, held, expired⟩)

namespace NoneLeft

theorem start : NoneLeft [] .start where
  past reading member := by cases member
  expires id call held := by simp [Server.start, CallQueue.new] at held

/-- Calls that are still there, and calls that have come. -/
theorem expires_next (noneLeft : NoneLeft trace state)
    (taken : serverStep state action = some (next, reply)) {id : Nat}
    (held : next.queue.live.find? id = some call) :
    ∀ reading ∈ sweeps trace, reading < call.expires_at := by
  intro reading member
  rcases Server.Consistent.live_was (serverStep_calls taken) held with
    ⟨before, heldBefore, handles⟩ | ⟨index, ms, _, rfl⟩
  · simp only [LiveCall.handles, Prod.mk.injEq] at handles
    rw [← handles.2.2.2]
    exact noneLeft.expires id before heldBefore reading member
  · exact Nat.lt_of_le_of_lt (noneLeft.past reading member) (now_lt_expires_at state ms)

theorem step (noneLeft : NoneLeft trace state)
    (run : RunWhere condition serverStep .start trace state)
    (taken : serverStep state action = some (next, reply)) :
    NoneLeft (trace ++ [(action, reply)]) next := by
  have noted : sweeps (trace ++ [(action, reply)]) =
      sweeps trace ++ sweepOf state action next reply := observe_next run taken
  have later : state.now ≤ next.now := by
    rw [(serverStep_clock taken).1]
    exact Nat.le_add_right _ _
  have others : sweepOf state action next reply = [] →
      NoneLeft (trace ++ [(action, reply)]) next := by
    intro none
    rw [none, List.append_nil] at noted
    constructor
    · intro reading member
      rw [noted] at member
      exact Nat.le_trans (noneLeft.past reading member) later
    · intro id call held
      rw [noted]
      exact noneLeft.expires_next taken held
  cases action with
  | reap_loop =>
      cases reaper : state.reaper with
      | waiting | armed => exact others (by simp [sweepOf, reaper])
      | timed now =>
          have note : sweepOf state .reap_loop next reply = [now] := by simp [sweepOf, reaper]
          have inPast := (clocked_of_run run).timed now reaper
          constructor
          · intro reading member
            rw [noted, note] at member
            rcases List.mem_append.mp member with before | last
            · exact Nat.le_trans (noneLeft.past reading before) later
            · cases List.mem_singleton.mp last
              exact Nat.le_trans inPast later
          · intro id call held reading member
            rw [noted, note] at member
            rcases List.mem_append.mp member with before | last
            · exact noneLeft.expires_next taken held reading before
            · cases List.mem_singleton.mp last
              exact lt_expires_at_of_swept taken reaper held
  | _ => exact others rfl

end NoneLeft

theorem noneLeft_of_run (run : RunWhere condition serverStep .start trace state) :
    NoneLeft trace state :=
  run.invariant NoneLeft .start fun earlier noneLeft _ taken => noneLeft.step earlier taken

/-! ## What a client sees that keeps polling -/

/-- How many polls it takes to see everything, once all of it is there. -/
def OutboundBody.left (body : OutboundBody) : Nat :=
  match body.state with
  | .done => 0
  | _ => body.rx.buffer.length + 1

/-- Once nobody holds the call any more, each poll shows something, until there is nothing
left. -/
theorem poll_frame_left {body : OutboundBody} (agrees : Holder.nobody.Agrees body removed) :
    body.poll_frame.1.left + 1 ≤ body.left ∨ body.left = 0 ∧ body.poll_frame.1.left = 0 := by
  rcases poll_frame_cases agrees with
    ⟨msg, buffer, streaming, held, shows⟩ | pending | ⟨outcome, _, _, _, ended, closes⟩ |
      ⟨done, ends⟩
  · left
    rw [shows]
    simp [OutboundBody.left, streaming, held]
  · exact absurd (by rw [pending]) (not_pending_of_nobody agrees)
  · left
    rw [closes]
    rcases ended with awaiting | ⟨streaming, empty⟩
    · simp [OutboundBody.left, awaiting]
    · simp [OutboundBody.left, streaming, empty]
  · right
    rw [ends]
    simp [OutboundBody.left, done]

/-- What can still happen to a response that nobody holds the call of. -/
theorem ResponseChange.of_nobody {response : Response}
    (change : ResponseChange response newWrites newRemovals newFrames next)
    (nobody : response.holder = .nobody) (agrees : Holder.nobody.Agrees response.body removed) :
    next.holder = .nobody ∧ (next.connected = true → response.connected = true ∧
      (newFrames = [] ∧ next.body = response.body ∨
        newFrames ≠ [] ∧ next.body = response.body.poll_frame.1)) := by
  cases change with
  | same => exact ⟨nobody, fun connected => ⟨connected, .inl ⟨rfl, rfl⟩⟩⟩
  | entered holder | taken _ holder | answered _ holder | dropped _ holder =>
      rw [nobody] at holder
      cases holder
  | written _ holder =>
      rw [nobody] at holder
      cases holder
  | polled body frame _ ready =>
      refine ⟨nobody, fun connected => ⟨connected, .inr ⟨List.cons_ne_nil _ _, ?_⟩⟩⟩
      rw [ready]
  | waited body _ pending => exact absurd (by rw [pending]) (not_pending_of_nobody agrees)
  | hungUp => exact ⟨nobody, fun connected => by cases connected⟩

theorem timesPolled_next (index : Nat) (trace : List (Action × Reply)) (event : Action × Reply) :
    timesPolled index (trace ++ [event]) =
      timesPolled index trace + if event.1 = .poll_frame index then 1 else 0 := by
  rw [timesPolled, List.countP_append]
  by_cases own : event.1 = .poll_frame index <;> simp [timesPolled, own]

/-- A client polls a response that nobody holds the call of: it need not wait. -/
theorem framesOf_ne_nil {rpc : Rpc}
    (taken : serverStep state (.poll_frame index) = some (next, reply))
    (known : state.rpcs[index]? = some rpc) (notRefused : rpc.arrival ≠ .refused)
    (agrees : Holder.nobody.Agrees rpc.body removed) :
    framesOf index (.poll_frame index, reply) ≠ [] := by
  rcases Server.poll_frame_cases taken with
    ⟨other, _, found, _, ⟨_, _, _, rfl, _⟩ | ⟨arrival, _⟩⟩
  · cases known.symm.trans found
    cases polled : rpc.body.poll_frame.2 with
    | pending => exact absurd polled (not_pending_of_nobody agrees)
    | ready frame => simp [framesOf]
  · cases known.symm.trans found
    exact absurd arrival notRefused

/-- Nobody holds the call any more, and the client that has polled so many times since and is
still there has not much left to see. -/
structure AllThere (index : Nat) (entry : Nat × Nat) (bound : Nat)
    (rest : List (Action × Reply)) (state : Server) : Prop where
  entered : state.enteredAt index = some entry
  nobody : state.holderAt index = .nobody
  left : ∀ rpc, state.rpcs[index]? = some rpc → rpc.connected = true →
    rpc.body.left + timesPolled index rest ≤ bound ∨ rpc.body.left = 0

theorem AllThere.step {entry : Nat × Nat} (allThere : AllThere index entry bound rest state)
    (explained : Explained trace state)
    (taken : serverStep state action = some (next, reply)) :
    AllThere index entry bound (rest ++ [(action, reply)]) next := by
  have entered := (serverStep_calls taken).entered_stays allThere.entered
  rcases explained.history_of_drawn (Server.idAt_of_enteredAt allThere.entered) with
    ⟨rpc, known, history⟩
  have agrees : (state.holderAt index).Agrees rpc.body (removals entry.1 trace) := history.agrees
  rw [allThere.nobody] at agrees
  rcases serverStep_keeps_rpc taken known with ⟨after, found, _, _⟩
  have notRefused : after.arrival ≠ .refused := by
    intro refused
    rw [Server.enteredAt, found, Option.bind_some, refused] at entered
    cases entered
  have responds := serverStep_responds explained.consistent taken known found notRefused
  rcases ResponseChange.of_nobody responds allThere.nobody agrees with ⟨nobody, shows⟩
  refine ⟨entered, nobody, fun other same connected => ?_⟩
  cases found.symm.trans same
  rcases shows connected with ⟨wasConnected, ⟨noFrame, sameBody⟩ | ⟨_, polled⟩⟩
  · have notPolled : action ≠ .poll_frame index := by
      rintro rfl
      exact framesOf_ne_nil taken known (serverStep_notRefused taken known found notRefused) agrees
        noFrame
    rw [timesPolled_next, if_neg notPolled, Nat.add_zero]
    have same : after.body = rpc.body := sameBody
    rw [same]
    exact allThere.left rpc known wasConnected
  · have less := poll_frame_left agrees
    have isPolled : after.body = rpc.body.poll_frame.1 := polled
    rw [timesPolled_next, isPolled]
    rcases allThere.left rpc known wasConnected with bounded | none
    · split <;> omega
    · omega

theorem AllThere.of_run {entry : Nat × Nat}
    (before : RunWhere condition serverStep .start trace state)
    (allThere : AllThere index entry bound [] state) (run : Run serverStep state rest last) :
    AllThere index entry bound rest last := by
  have both : AllThere index entry bound rest last ∧ ∃ trace, Explained trace last := by
    apply run.invariant fun rest last => AllThere index entry bound rest last ∧
      ∃ trace, Explained trace last
    · exact ⟨allThere, trace, explained_of_run before⟩
    · intro rest middle action next reply _ earlier _ taken
      rcases earlier with ⟨allThere, trace, explained⟩
      exact ⟨allThere.step explained taken, _, explained.step taken⟩
  exact both.1

/-- A call that has left `live` and its remover's hands is held by nobody. -/
theorem holderAt_nobody {state : Server} {id : Nat}
    (entered : state.enteredAt index = some (id, ms))
    (absent : state.queue.live.find? id = none) (dropped : state.removed.find? id = none) :
    state.holderAt index = .nobody := by
  simp only [Server.holderAt, entered, absent, dropped]

/-- A client that has polled often enough has been shown everything. -/
theorem all_shown {id : Nat} (before : RunWhere condition serverStep .start trace state)
    (entered : state.enteredAt index = some (id, ms))
    (absent : state.queue.live.find? id = none) (dropped : state.removed.find? id = none)
    {rpc after : Rpc} (known : state.rpcs[index]? = some rpc)
    (run : Run serverStep state rest last) (found : last.rpcs[index]? = some after)
    (connected : after.connected = true)
    (often : rpc.body.rx.buffer.length < timesPolled index rest) :
    ∃ nones outcome, removals id (trace ++ rest) = [outcome] ∧
      frames index (trace ++ rest) =
        (writes id (trace ++ rest)).map shown ++ closing nones outcome := by
  have start : AllThere index (id, ms) rpc.body.left [] state := by
    refine ⟨entered, holderAt_nobody entered absent dropped, fun other same _ => ?_⟩
    cases known.symm.trans same
    exact .inl (Nat.le_refl _)
  have atMost : rpc.body.left ≤ rpc.body.rx.buffer.length + 1 := by
    unfold OutboundBody.left
    split <;> omega
  have last := start.of_run before run
  have none : after.body.left = 0 := by
    rcases last.left after found connected with bounded | none
    · omega
    · exact none
  have done : after.body.state = .done := by
    unfold OutboundBody.left at none
    split at none
    · assumption
    · omega
  have whole : Run serverStep .start trace state := before.mono fun _ _ _ => trivial
  rcases (explained_of_run (whole.append run)).history_of_drawn
    (Server.idAt_of_enteredAt last.entered) with ⟨same, foundSame, history⟩
  cases found.symm.trans foundSame
  have delivered := history.delivered connected
  simp only [Server.response, Delivered, done] at delivered
  rcases delivered with ⟨nones, outcome, once, shows⟩
  exact ⟨nones, outcome, once, shows⟩

/-- However the server goes on: a client that keeps its response open and has polled it once
more than there are messages waiting has been shown all messages, and how the call ended. -/
def AnswersPolls (index id : Nat) (trace : List (Action × Reply)) (state : Server) : Prop :=
  ∀ rest last rpc after, Run serverStep state rest last →
    state.rpcs[index]? = some rpc → last.rpcs[index]? = some after → after.connected = true →
    rpc.body.rx.buffer.length < timesPolled index rest →
    ∃ nones outcome, removals id (trace ++ rest) = [outcome] ∧
      frames index (trace ++ rest) = (writes id (trace ++ rest)).map shown ++ closing nones outcome

/-- In whatever order everything happens: once a sweep has read the clock when a call had
expired, that call is no longer in `live`. It has been taken out once, by the host, by the
sweep or at the end; and as soon as whoever took it out is done with it, nothing keeps its
client waiting any more. -/
theorem forgotten_calls_are_answered {id : Nat} (before : Run serverStep .start earlier middle)
    (held : middle.queue.live.find? id = some call) (after : Run serverStep middle later state)
    (swept : reading ∈ sweeps (earlier ++ later)) (expired : call.expires_at ≤ reading) :
    state.queue.live.find? id = none ∧
      (∃ outcome, removals id (earlier ++ later) = [outcome] ∧
        (outcome ∈ completions id (earlier ++ later) ∨ outcome = Server.reaperStatus ∨
          outcome = Server.freeStatus)) ∧
      (state.removed.find? id = none →
        AnswersPolls call.outbound_tx id (earlier ++ later) state) := by
  have consistent := consistent_of_run before
  rcases (consistent.live id call held).1.entered with ⟨ms, entered⟩
  have stamped : ExpiresAt id call.expires_at middle := by
    refine ⟨⟨_, ms, entered⟩, fun other same => ?_⟩
    cases held.symm.trans same
    rfl
  have whole := before.append after
  have enteredLast := entered_of_run entered after
  have absent : state.queue.live.find? id = none := by
    cases still : state.queue.live.find? id with
    | none => rfl
    | some same =>
        have stamp := (expiresAt_of_run after consistent stamped).2 same still
        have early := (noneLeft_of_run whole).expires id same still reading swept
        omega
  refine ⟨absent, ?_, fun dropped rest last rpc final run known found connected often => ?_⟩
  · rcases removals_of_entered (explained_of_run whole) enteredLast with
      ⟨⟨_, live⟩, _⟩ | ⟨_, outcome, once⟩
    · rw [absent] at live
      cases live
    · exact ⟨outcome, once, removals_cases (by rw [once]; exact List.mem_singleton_self _)⟩
  · exact all_shown whole enteredLast absent dropped known run found connected often

/-- The host accepts a call and writes to it, and then forgets it. -/
theorem forgotten_calls_are_answered_after_a_write : ∃ trace state outcome,
    Run serverStep .start trace state ∧ removals 1 trace = [outcome] ∧
      outcome = Server.reaperStatus ∧ AnswersPolls 0 1 trace state := by
  have replayed : ∃ earlier middle later state, replay serverStep .start
        [.arrive "/a" ⟨[], false⟩, .handle_queued 0, .handle_queued 0, .handle_queued 0,
          .handle_queued 0, .handle_queued 0, .accept .valid ⟨.valid, 8, .valid⟩,
          .write 1 .valid [7, 8]] = some (earlier, middle) ∧
      replay serverStep middle [.tick 30000000000, .reap_loop, .reap_loop, .reap_loop,
          .advance 1, .advance 1, .advance 1] = some (later, state) ∧
      middle.queue.live.find? 1 = some (.admitted 0 30000000000) ∧
      30000000000 ∈ sweeps (earlier ++ later) ∧ state.removed.find? 1 = none ∧
      removals 1 (earlier ++ later) = [Server.reaperStatus] :=
    ⟨_, _, _, _, rfl, rfl, rfl, by decide, rfl, rfl⟩
  rcases replayed with ⟨earlier, middle, later, state, toMiddle, toState, held, swept, dropped, once⟩
  have before := run_of_replay toMiddle
  have after := run_of_replay toState
  rcases forgotten_calls_are_answered before held after swept (Nat.le_refl _) with
    ⟨_, _, answers⟩
  exact ⟨earlier ++ later, state, _, before.append after, once, rfl, answers dropped⟩

end Zpr.GrpcServer
