import Zpr.GrpcServer.CallConservation
import Zpr.GrpcServer.Deadline

namespace Zpr.GrpcServer

/-! # The end of the server

`zpr_grpc_server_stop` returns when the runtime has been dropped, and with it every
response body. `zpr_grpc_queue_free` answers the calls in `live` after that. -/

/-- The client of an RPC is connected, and its call is in `pending` or in `live` and has not
been answered. -/
def Outstanding (trace : List (Action × Reply)) (state : Server) (index id : Nat) : Prop :=
  ∃ rpc, state.rpcs[index]? = some rpc ∧ rpc.connected = true ∧ rpc.arrival.id? = some id ∧
    (id ∈ state.queue.pending.map Prod.fst ∨ ∃ call, state.queue.live.find? id = some call) ∧
    removals id trace = []

/-- The host completes other calls only, and does not free the queue. -/
def Spares (id : Nat) : Action → Prop
  | .complete call_id _ _ => call_id ≠ id
  | .queue_free => False
  | _ => True

/-- The server is stopped and then its queue is freed, and the host has not answered the call
itself before that. Whatever else happens before, between and after is open: the client, say,
may poll as often as it can. -/
inductive ShutsDown (id : Nat) (state : Server) : List (Action × Reply) → Server → Prop
  | intro {before middle reply stopped after final}
      (waits : RunWhere (fun _ action => Spares id action) serverStep state before middle)
      (stops : serverStep middle .server_stop = some (stopped, reply))
      (goesOn : Run serverStep stopped after final) (frees : .queue_free ∈ after.map Prod.fst) :
      ShutsDown id state (before ++ (.server_stop, reply) :: after) final

/-- A poll of the response answers with the trailers of an `UNAVAILABLE`. -/
def ToldUnavailable (index : Nat) (trace : List (Action × Reply)) : Prop :=
  ∃ message, some (.trailers (trailers GRPC_UNAVAILABLE message)) ∈ frames index trace

/-! ## After the runtime has been dropped -/

/-- A stopped server has no body that could be polled. -/
theorem framesOf_of_stopped (taken : serverStep state action = some (next, reply))
    (stopped : state.running = false) (index : Nat) : framesOf index (action, reply) = [] := by
  cases action with
  | poll_frame target => simp [serverStep, Server.poll_frame, stopped] at taken
  | _ => rfl

theorem frames_of_stopped (run : RunWhere condition serverStep state trace final)
    (stopped : state.running = false) (index : Nat) : frames index trace = [] := by
  induction run with
  | start => rfl
  | next earlier _ taken induction =>
      have last := framesOf_of_stopped taken (stopped_of_run earlier stopped) index
      rw [frames_next, last, List.append_nil]
      exact induction

/-- The client of a call in `live` has seen what was written to it, and no trailers. -/
theorem no_trailers_of_live {id : Nat} (explained : Explained trace state)
    (drawn : state.idAt index = some id) (held : state.queue.live.find? id = some call)
    (headers : HeaderMap) : some (.trailers headers) ∉ frames index trace := by
  rcases explained.history_of_drawn drawn with ⟨rpc, _, history⟩
  rcases (explained.consistent.live id call held).1.entered with ⟨ms, entered⟩
  have none : removals id trace = [] := by
    rcases removals_of_entered explained entered with ⟨_, none⟩ | ⟨absent, _⟩
    · exact none
    · rw [held] at absent
      cases absent
  rcases history.isPrefix with ⟨polls, isPrefix⟩
  intro member
  rcases trailers_of_mem (isPrefix.subset member) with ⟨outcome, removed, _⟩
  rw [none] at removed
  cases removed

/-! ## Before the runtime is dropped -/

theorem idAt_of_run {id : Nat} {state : Server} (run : RunWhere condition serverStep state trace final)
    (drawn : state.idAt index = some id) : final.idAt index = some id := by
  apply run.stateInvariant (fun middle : Server => middle.idAt index = some id) drawn
  intro state action next reply before _ taken
  rcases (serverStep_calls taken).idAt_cases index with same | ⟨undrawn, _⟩
  · exact same.trans before
  · rw [before] at undrawn
    cases undrawn

/-- A host that leaves the call and the queue alone leaves the call to the reaper. -/
theorem removals_of_spares {id : Nat} {state : Server}
    (run : RunWhere (fun _ action => Spares id action) serverStep state before middle)
    (removed : outcome ∈ removals id before) : outcome = Server.reaperStatus := by
  rcases List.mem_flatMap.mp removed with ⟨⟨action, reply⟩, member, told⟩
  have spares : Spares id action := run.allowed _ member
  cases action with
  | reap_loop =>
      cases reply with
      | removed ids =>
          simp only [removalsOf] at told
          split at told
          · exact List.mem_singleton.mp told
          · cases told
      | _ => cases told
  | queue_free => cases spares
  | complete call_id grpc_status message =>
      have other : call_id ≠ id := spares
      cases reply with
      | returned rc last_error =>
          simp only [removalsOf, completionsOf, other, false_and, if_false] at told
          split at told <;> cases told
      | _ => cases told
  | _ => cases told

/-- Until the runtime is dropped no client of a call that the host leaves alone is told
`UNAVAILABLE`. -/
theorem not_told_of_spares {id : Nat} (run : Run serverStep .start trace state)
    (drawn : state.idAt index = some id) (unanswered : removals id trace = [])
    (spares : RunWhere (fun _ action => Spares id action) serverStep state before middle) :
    ¬ ToldUnavailable index before := by
  rintro ⟨message, member⟩
  have whole := RunWhere.append run (spares.mono fun _ _ _ => trivial)
  rcases (explained_of_run whole).history_of_drawn (idAt_of_run spares drawn) with
    ⟨_, _, history⟩
  rcases history.isPrefix with ⟨polls, isPrefix⟩
  have inWhole : some (.trailers (trailers GRPC_UNAVAILABLE message)) ∈
      frames index (trace ++ before) := by
    rw [frames, List.flatMap_append]
    exact List.mem_append_right _ member
  rcases trailers_of_mem (isPrefix.subset inWhole) with ⟨outcome, removed, same⟩
  have late : outcome ∈ removals id before := by
    rw [removals, List.flatMap_append, List.mem_append] at removed
    rcases removed with earlier | later
    · rw [removals] at unanswered
      rw [unanswered] at earlier
      cases earlier
    · exact later
  -- the reaper's status is another one
  rw [removals_of_spares spares late] at same
  have codes := congrArg (List.lookup "grpc-status") same
  rw [lookup_grpc_status, lookup_grpc_status] at codes
  cases codes

/-! ## A server can always be stopped -/

/-- Before the next tick of the reaper. -/
def Reaper.left : Reaper → Nat
  | .waiting => 0
  | .armed => 2
  | .timed _ => 1

/-- The reaper comes to the end of its tick while the RPCs stay where they are. -/
theorem exists_run_waiting (state : Server) (running : state.running = true) :
    ∃ trace final, RunWhere (fun _ action => action = .reap_loop) serverStep state trace final ∧
      (final.running = true ∧ final.arrivals = state.arrivals) ∧ final.reaper = .waiting := by
  apply exists_run_of_progress (fun state : Server => state.reaper.left) ?_ ⟨running, rfl⟩
  intro middle valid notWaiting
  have notStopped : ¬ middle.running = false := by simp [valid.1]
  cases reaper : middle.reaper with
  | waiting => exact absurd reaper notWaiting
  | armed =>
      refine ⟨.reap_loop, { middle with reaper := .timed middle.now }, .silent, rfl, ?_, valid, ?_⟩
      · simp only [serverStep, Server.reap_loop, if_neg notStopped, reaper]
      · simp [Reaper.left]
  | timed now =>
      have taken := sweep_taken valid.1 reaper
      have same := serverStep_arrivals taken rfl
      refine ⟨_, _, _, rfl, taken, ⟨valid.1, same.trans valid.2⟩, ?_⟩
      simp [Reaper.left, Server.take]

theorem arrivals_of_run {state : Server}
    (run : RunWhere (fun _ action => action.arrives = false) serverStep state trace final) :
    final.arrivals = state.arrivals :=
  run.stateInvariant (fun middle => middle.arrivals = state.arrivals) rfl
    fun same elsewhere taken => (serverStep_arrivals taken elsewhere).trans same

theorem settled_of_arrivals {state next : Server} (same : next.arrivals = state.arrivals)
    (settled : ∀ rpc ∈ state.rpcs, rpc.arrival.settled = true) :
    ∀ rpc ∈ next.rpcs, rpc.arrival.settled = true := by
  intro rpc member
  rcases List.getElem?_of_mem member with ⟨index, known⟩
  have look := Server.rpc_of_arrivals same index
  rw [known, Option.map_some, eq_comm, Option.map_eq_some_iff] at look
  rcases look with ⟨before, found, equal⟩
  rw [Prod.mk.injEq] at equal
  rw [← equal.2]
  exact settled before (List.mem_of_getElem? found)

/-- Every running server can be stopped and freed, whatever call is left alone. -/
theorem exists_shutsDown (state : Server) (running : state.running = true) (id : Nat) :
    ∃ trace final, ShutsDown id state trace final := by
  rcases exists_run_all_pushed state running with
    ⟨pushing, pushed, runPushing, ⟨pushedRunning, _⟩, settled⟩
  rcases exists_run_waiting pushed pushedRunning with
    ⟨reaping, waiting, runReaping, ⟨waitingRunning, same⟩, reaper⟩
  rcases exists_run_not_reaping waiting with ⟨advancing, idle, runAdvancing, finishing, notReaping⟩
  have sameIdle : idle.arrivals = waiting.arrivals := by
    apply arrivals_of_run
    apply runAdvancing.mono
    intro _ action advances
    cases action <;> first | rfl | cases advances
  have idleSettled := settled_of_arrivals sameIdle (settled_of_arrivals same settled)
  have stops : serverStep idle .server_stop =
      some ({ idle with running := false, rpcs := idle.rpcs.map Rpc.shutDown }, .silent) := by
    have ready : (idle.running && idle.reaper == .waiting && !idle.reaping &&
        idle.rpcs.all fun rpc => rpc.arrival.settled) = true := by
      rw [finishing.running, waitingRunning, finishing.reaper, reaper, notReaping,
        List.all_eq_true.mpr idleSettled]
      rfl
    show idle.server_stop = _
    rw [Server.server_stop, if_pos ready]
  have spares : RunWhere (fun _ action => Spares id action) serverStep state
      (pushing ++ reaping ++ advancing) idle := by
    apply RunWhere.append
    · apply RunWhere.append
      · apply runPushing.mono
        intro _ action handles
        cases action <;> trivial
      · apply runReaping.mono
        intro _ action sweeps
        rw [sweeps]
        trivial
    · apply runAdvancing.mono
      intro _ action advances
      cases action <;> trivial
  have frees : ∀ server : Server, ∃ freed reply,
      serverStep server .queue_free = some (freed, reply) := fun server => ⟨_, _, rfl⟩
  rcases frees { idle with running := false, rpcs := idle.rpcs.map Rpc.shutDown } with
    ⟨freed, reply, taken⟩
  exact ⟨_, _, .intro spares stops (.single taken) (List.mem_singleton.mpr rfl)⟩

/-- However a running server gets to its state, and whichever of its calls are outstanding:
it can be shut down, and no client of an outstanding call is told `UNAVAILABLE` by any
shutdown, however often it polls. From the moment the runtime has been dropped nobody is told
anything, and the client of a call that was still in `live` never sees any trailers. -/
theorem shutdown_answers_no_call (run : RunWhere condition serverStep .start trace state)
    (running : state.running = true) :
    (∀ index id, Outstanding trace state index id →
      (∃ later final, ShutsDown id state later final) ∧
        ∀ later final, ShutsDown id state later final → ¬ ToldUnavailable index later) ∧
    ∀ stopped reply, serverStep state .server_stop = some (stopped, reply) →
      ∀ later final, Run serverStep stopped later final →
        ∀ index, frames index later = [] ∧
          ∀ id call, state.idAt index = some id → state.queue.live.find? id = some call →
            ∀ headers, some (.trailers headers) ∉
              frames index (trace ++ (.server_stop, reply) :: later) := by
  have afterStop : ∀ {before stopped : Server} {reply : Reply} {later : List (Action × Reply)}
      {final : Server}, serverStep before .server_stop = some (stopped, reply) →
      Run serverStep stopped later final → ∀ index, frames index later = [] := by
    intro before stopped reply later final taken rest index
    have isStopped : stopped.running = false := by
      rcases Server.server_stop_cases taken with ⟨_, _, _, _, _, rfl⟩
      rfl
    exact frames_of_stopped rest isStopped index
  refine ⟨fun index id outstanding => ⟨exists_shutsDown state running id, ?_⟩,
    fun stopped reply taken later final rest index => ?_⟩
  · rintro _ final ⟨spares, stops, goesOn, _⟩ ⟨message, member⟩
    rcases outstanding with ⟨rpc, known, _, isId, _, unanswered⟩
    have drawn : state.idAt index = some id := (Server.idAt_of_rpc known).trans isId
    apply not_told_of_spares (run.mono fun _ _ _ => trivial) drawn unanswered spares
    refine ⟨message, ?_⟩
    have silent := afterStop stops goesOn index
    rw [frames] at silent
    rw [frames, List.flatMap_append, List.flatMap_cons, silent, List.append_nil] at member
    rcases List.mem_append.mp member with before | atStop
    · exact before
    · cases atStop
  · have silent := afterStop taken rest index
    refine ⟨silent, fun id call drawn held headers member => ?_⟩
    refine no_trailers_of_live (explained_of_run run) drawn held headers ?_
    rw [frames, List.flatMap_append, List.flatMap_cons] at member
    rcases List.mem_append.mp member with before | after
    · exact before
    · rw [frames] at silent
      rw [silent, List.append_nil] at after
      cases after

/-- A server whose only client waits for an answer. -/
theorem shutdown_answers_no_call_in_pending : ∃ trace state stopped reply,
    RunWhere (fun _ _ => True) serverStep .start trace state ∧ Outstanding trace state 0 1 ∧
      (∃ later final, ShutsDown 1 state later final) ∧
      (∀ later final, ShutsDown 1 state later final → ¬ ToldUnavailable 0 later) ∧
      serverStep state .server_stop = some (stopped, reply) ∧
      ∀ later final, Run serverStep stopped later final → frames 0 later = [] := by
  have replayed : ∃ trace state stopped reply, replay serverStep .start
        [.arrive "/a" ⟨[], false⟩, .handle_queued 0, .handle_queued 0, .handle_queued 0,
          .handle_queued 0, .handle_queued 0] = some (trace, state) ∧
      serverStep state .server_stop = some (stopped, reply) ∧
      state.running = true ∧ (state.rpcs[0]?).map (fun rpc => (rpc.connected, rpc.arrival)) =
        some (true, .queued 30000 1) ∧
      state.queue.pending.map Prod.fst = [1] ∧ removals 1 trace = [] :=
    ⟨_, _, _, _, rfl, rfl, rfl, rfl, rfl, rfl⟩
  rcases replayed with
    ⟨trace, state, stopped, reply, replayed, taken, running, known, waiting, unanswered⟩
  have run := run_of_replay replayed
  rcases Option.map_eq_some_iff.mp known with ⟨rpc, found, equal⟩
  rw [Prod.mk.injEq] at equal
  have outstanding : Outstanding trace state 0 1 := by
    refine ⟨rpc, found, equal.1, ?_, .inl ?_, unanswered⟩
    · rw [equal.2]
      rfl
    · simp [waiting]
  rcases shutdown_answers_no_call run running with ⟨answersNone, silent⟩
  rcases answersNone 0 1 outstanding with ⟨possible, notTold⟩
  exact ⟨trace, state, stopped, reply, run, outstanding, possible, notTold, taken,
    fun later final rest => (silent stopped reply taken later final rest 0).1⟩

/-- The client has polled, the status is sent after the body has been dropped, and the client
sees nothing. -/
theorem unavailable_is_not_seen : ∃ trace state later final,
    Run serverStep .start trace state ∧ Outstanding trace state 0 1 ∧
      ShutsDown 1 state later final ∧ later.map Prod.fst = [.poll_frame 0, .server_stop,
        .queue_free, .advance 1, .advance 1, .advance 1] ∧
      frames 0 later = [] ∧ ¬ ToldUnavailable 0 later ∧
      serverStep final (.poll_frame 0) = none ∧ (∀ id, final.queue.live.find? id = none) ∧
      ∀ id, final.removed.find? id = none := by
  have replayed : ∃ trace state before middle stopped reply after final,
      replay serverStep .start
        [.arrive "/a" ⟨[], false⟩, .handle_queued 0, .handle_queued 0, .handle_queued 0,
          .handle_queued 0, .handle_queued 0] = some (trace, state) ∧
      serverStep state (.poll_frame 0) = some (middle, before) ∧
      serverStep middle .server_stop = some (stopped, reply) ∧
      replay serverStep stopped [.queue_free, .advance 1, .advance 1, .advance 1] =
        some (after, final) ∧
      (state.rpcs[0]?).map (fun rpc => (rpc.connected, rpc.arrival)) =
        some (true, .queued 30000 1) ∧
      state.queue.pending.map Prod.fst = [1] ∧ removals 1 trace = [] ∧
      frames 0 ([(.poll_frame 0, before)] ++ (.server_stop, reply) :: after) = [] ∧
      serverStep final (.poll_frame 0) = none ∧ final.queue.live = ∅ ∧ final.removed = ∅ :=
    ⟨_, _, _, _, _, _, _, _, rfl, rfl, rfl, rfl, rfl, rfl, rfl, rfl, rfl, rfl, rfl⟩
  rcases replayed with
    ⟨trace, state, before, middle, stopped, reply, after, final, replayed, polled, stops, freed,
      known, waiting, unanswered, silent, noPoll, live, removed⟩
  rcases Option.map_eq_some_iff.mp known with ⟨rpc, found, equal⟩
  rw [Prod.mk.injEq] at equal
  have spares : RunWhere (fun _ action => Spares 1 action) serverStep state
      [(.poll_frame 0, before)] middle := .next .start trivial polled
  refine ⟨trace, state, _, final, run_of_replay replayed,
    ⟨rpc, found, equal.1, ?_, .inl ?_, unanswered⟩,
    .intro spares stops (run_of_replay freed) ?_, ?_, silent, ?_, noPoll, fun id => ?_,
    fun id => ?_⟩
  · rw [equal.2]
    rfl
  · simp [waiting]
  · rw [actions_of_replay freed]
    exact List.mem_cons_self
  · simp only [List.map_append, List.map_cons, List.map_nil, actions_of_replay freed]
    rfl
  · rintro ⟨message, member⟩
    rw [silent] at member
    cases member
  · rw [live, IdMap.find?_empty]
  · rw [removed, IdMap.find?_empty]

end Zpr.GrpcServer
