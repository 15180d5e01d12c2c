import Zpr.Foundation.Counting
import Zpr.GrpcServer.PendingCalls
import Zpr.GrpcServer.QueueChange

namespace Zpr.GrpcServer

open Ffi

/-! # The limit on waiting calls

`handle_queued` looks at the length of `pending` in one critical section and pushes
in another. Between the two an RPC is on its way: it has been let in and does not
count yet. -/

namespace Server

/-- The number of RPCs that `handle_queued` has got as far with as `test` says. -/
def countArrivals (state : Server) (test : Arrival → Bool) : Nat :=
  state.rpcs.countP fun rpc => test rpc.arrival

/-- The RPCs that have been let in and are still to be pushed on `pending`. -/
def onTheWay (state : Server) : Nat :=
  state.countArrivals fun arrival => !arrival.settled

theorem countArrivals_eq (state : Server) (test : Arrival → Bool) :
    state.countArrivals test = state.arrivals.countP fun arrival => test arrival.2 := by
  rw [countArrivals, arrivals, List.countP_map]
  rfl

/-- One step of `handle_queued` moves one RPC on. -/
theorem countArrivals_handle {state : Server} {rpc : Rpc}
    (known : state.rpcs[index]? = some rpc) (queue : CallQueue) (after : Rpc) (test : Arrival → Bool) :
    ({ state with queue := queue }.update index fun _ => after).countArrivals test +
        (if test rpc.arrival then 1 else 0) =
      state.countArrivals test + if test after.arrival then 1 else 0 :=
  countP_modify (fun rpc : Rpc => test rpc.arrival) (fun _ => after) state.rpcs index known

end Server

/-- Apart from `handle_queued` nobody moves an RPC on. -/
theorem serverStep_countArrivals (taken : serverStep state action = some (next, reply))
    (elsewhere : action.handles = false) (test : Arrival → Bool) (unseen : test .arrived = false) :
    next.countArrivals test = state.countArrivals test := by
  cases action with
  | handle_queued index => cases elsewhere
  | arrive path body =>
      rcases serverStep_arrive_cases taken with ⟨_, rfl, _⟩
      simp [Server.countArrivals, Rpc.arrive, unseen]
  | _ => rw [Server.countArrivals_eq, Server.countArrivals_eq, serverStep_arrivals taken rfl]

/-- What `handle_queued` does to the two counts: only an admission increases their sum. -/
theorem HandleStep.waiting {state : Server} (known : state.rpcs[index]? = some rpc)
    (handled : HandleStep state index rpc after queue) :
    ({ state with queue := queue }.update index fun _ => after).queue.pending.length +
        ({ state with queue := queue }.update index fun _ => after).onTheWay =
      state.queue.pending.length + state.onTheWay +
        if rpc.arrival = .arrived ∧ state.queue.pending.length < state.queue.max_pending
        then 1 else 0 := by
  have count := Server.countArrivals_handle known queue after fun arrival => !arrival.settled
  rw [Server.onTheWay, Server.onTheWay, Server.update_queue]
  cases handled with
  | refuses arrival full =>
      simp only [arrival, Arrival.settled] at count ⊢
      rw [if_neg fun room => absurd full (Nat.not_le_of_lt room.2)]
      simpa using count
  | admits arrival room =>
      simp only [arrival, Arrival.settled] at count ⊢
      rw [if_pos ⟨trivial, room⟩]
      simp only [Bool.not_true, Bool.not_false, Bool.false_eq_true, if_false, if_true] at count
      omega
  | stamps arrival | draws ms arrival | inserts ms id arrival =>
      simp only [arrival, Arrival.settled] at count ⊢
      simp only [Bool.not_false, if_true] at count
      simpa using count
  | pushes ms id arrival =>
      simp only [arrival, Arrival.settled] at count ⊢
      simp only [Bool.not_true, Bool.not_false, Bool.false_eq_true, if_false, if_true] at count
      simp only [reduceCtorEq, false_and, if_false, List.length_append, List.length_singleton]
      omega

/-- The limit is not changed. -/
def KeepsLimit (limit : Nat) : Action → Prop
  | .configure max_pending _ => max_pending = limit
  | _ => True

/-- An RPC that finds room also finds it when those on their way are counted. -/
def AdmitsInTurn (state : Server) : Action → Prop
  | .handle_queued index => state.arrivalAt index = some .arrived →
      state.queue.pending.length < state.queue.max_pending →
      state.queue.pending.length + state.onTheWay < state.queue.max_pending
  | _ => True

/-- A server whose host has set the limit, before the first RPC. -/
def Server.startWith (limit : Nat) : Server :=
  { Server.start with queue := { CallQueue.new with max_pending := limit } }

/-- The host sets the limit with `zpr_grpc_queue_configure`. -/
theorem reachable_startWith (positive : 0 < limit) :
    Reachable serverStep .start (.startWith limit) := by
  have configures : serverStep .start (.configure limit 30000) =
      some ({ Server.startWith limit with configuring := [30000] }, .returned ZPR_OK none) := by
    simp [serverStep, Server.queue_configure, Nat.ne_of_gt positive, Server.start,
      Server.startWith, CallQueue.new]
  have stores : serverStep { Server.startWith limit with configuring := [30000] }
      (.store_deadline 0) = some (.startWith limit, .silent) := rfl
  exact (Reachable.start.next configures).next stores

/-- The waiting calls and those on their way keep to the limit. -/
structure WithinLimit (limit : Nat) (state : Server) : Prop where
  kept : state.queue.max_pending = limit
  bound : state.queue.pending.length + state.onTheWay ≤ limit

theorem withinLimit_startWith (limit : Nat) : WithinLimit limit (.startWith limit) :=
  ⟨rfl, Nat.zero_le limit⟩

theorem max_pending_of_step (keeps : KeepsLimit limit action)
    (taken : serverStep state action = some (next, reply))
    (known : state.queue.max_pending = limit) : next.queue.max_pending = limit := by
  rcases (serverStep_queue taken).max_pending_cases with same | ⟨deadline_ms, rfl⟩
  · exact same.trans known
  · exact keeps

/-- Only `handle_queued` makes `pending` longer. -/
theorem length_pending_le_of_step (taken : serverStep state action = some (next, reply))
    (elsewhere : action.handles = false) :
    next.queue.pending.length ≤ state.queue.pending.length := by
  have change := serverStep_queue taken
  generalize next.queue = queue at change
  cases change with
  | handles => cases elsewhere
  | accepts out_call_id out_method call pending held =>
      rw [held, List.length_cons]
      exact Nat.le_succ _
  | counts id removal => cases remover : removal.remover <;> exact Nat.le_refl _
  | same | configures | stores => exact Nat.le_refl _

theorem WithinLimit.step (within : WithinLimit limit state) (keeps : KeepsLimit limit action)
    (inTurn : AdmitsInTurn state action)
    (taken : serverStep state action = some (next, reply)) : WithinLimit limit next := by
  refine ⟨max_pending_of_step keeps taken within.kept, ?_⟩
  have bound := within.bound
  cases elsewhere : action.handles with
  | false =>
      have shorter := length_pending_le_of_step taken elsewhere
      have count := serverStep_countArrivals taken elsewhere (fun arrival => !arrival.settled) rfl
      rw [Server.onTheWay, count]
      rw [Server.onTheWay] at bound
      omega
  | true =>
      cases action with
      | handle_queued index =>
          rcases Server.handle_queued_cases taken with
            ⟨rpc, after, queue, known, handled, rfl, _⟩
          rw [handled.waiting known]
          split
          · rename_i admitted
            have arrivalAt : state.arrivalAt index = some .arrived := by
              rw [Server.arrivalAt, known, Option.map_some, admitted.1]
            have room := inTurn arrivalAt admitted.2
            rw [within.kept] at room
            omega
          · exact bound
      | _ => cases elsewhere

theorem withinLimit_of_run
    (run : RunWhere (fun state action => KeepsLimit limit action ∧ AdmitsInTurn state action)
      serverStep (.startWith limit) trace state) : WithinLimit limit state :=
  run.stateInvariant (WithinLimit limit) (withinLimit_startWith limit)
    fun within met taken => within.step met.1 met.2 taken

/-- A refusal finds the queue full. -/
theorem full_of_refused (taken : serverStep state (.handle_queued index) = some (next, reply))
    (refused : next.arrivalAt index = some .refused) :
    state.queue.max_pending ≤ state.queue.pending.length := by
  rcases Server.handle_queued_cases taken with ⟨rpc, after, queue, known, handled, rfl, _⟩
  rw [Server.arrivalAt_handle known, if_pos rfl, Option.some.injEq] at refused
  cases handled with
  | refuses arrival full => exact full
  | admits | stamps | draws | inserts | pushes => cases refused

/-! ## What happens when an RPC is let in out of turn -/

/-- The steps that an RPC on its way has still to take. -/
def Arrival.left : Arrival → Nat
  | .admitted => 4
  | .stamped _ => 3
  | .numbered _ _ => 2
  | .inserted _ _ => 1
  | .arrived | .refused | .queued _ _ => 0

/-- While the server runs, nothing keeps `handle_queued` from its next step. -/
theorem HandleStep.taken {state : Server} (handled : HandleStep state index rpc after queue)
    (running : state.running = true) (known : state.rpcs[index]? = some rpc) :
    serverStep state (.handle_queued index) =
      some ({ state with queue := queue }.update index fun _ => after, .silent) := by
  have notStopped : ¬ state.running = false := by simp [running]
  show state.handle_queued index = _
  unfold Server.handle_queued
  rw [if_neg notStopped, known]
  cases handled with
  | refuses arrival full => simp only [arrival, if_pos full]
  | admits arrival room =>
      simp only [arrival, if_neg (Nat.not_le_of_lt room)]
  | stamps arrival => simp only [arrival]
  | draws ms arrival | inserts ms id arrival | pushes ms id arrival => simp only [arrival]

/-- An RPC on its way has a next step. -/
theorem exists_handleStep (state : Server) (index : Nat) {rpc : Rpc}
    (onTheWay : rpc.arrival.settled = false) :
    ∃ after queue, HandleStep state index rpc after queue ∧
      after.arrival.left < rpc.arrival.left := by
  cases arrival : rpc.arrival with
  | arrived | refused | queued => simp [arrival, Arrival.settled] at onTheWay
  | admitted => exact ⟨_, _, .stamps arrival, by simp [Arrival.left]⟩
  | stamped ms => exact ⟨_, _, .draws ms arrival, by simp [Arrival.left]⟩
  | numbered ms id => exact ⟨_, _, .inserts ms id arrival, by simp [Arrival.left]⟩
  | inserted ms id => exact ⟨_, _, .pushes ms id arrival, by simp [Arrival.left]⟩

/-- The RPCs on their way can all be pushed. -/
theorem exists_run_all_pushed (state : Server) (running : state.running = true) :
    ∃ trace final, RunWhere (fun _ action => action.handles = true) serverStep state trace final ∧
      (final.running = true ∧
        final.queue.pending.length + final.onTheWay =
          state.queue.pending.length + state.onTheWay) ∧
      ∀ rpc ∈ final.rpcs, rpc.arrival.settled = true := by
  apply exists_run_of_progress
    (fun state : Server => (state.rpcs.map fun rpc => rpc.arrival.left).sum) ?_ ⟨running, rfl⟩
  intro middle valid notSettled
  push Not at notSettled
  rcases notSettled with ⟨rpc, member, unsettled⟩
  rcases List.getElem?_of_mem member with ⟨index, known⟩
  have onTheWay : rpc.arrival.settled = false := Bool.of_not_eq_true unsettled
  rcases exists_handleStep middle index onTheWay with ⟨after, queue, handled, fewer⟩
  have taken := handled.taken valid.1 known
  have total := sum_modify (fun rpc : Rpc => rpc.arrival.left) (fun _ => after) middle.rpcs
    index known
  have waiting := handled.waiting known
  have notArrived : ¬ (rpc.arrival = .arrived ∧
      middle.queue.pending.length < middle.queue.max_pending) := by
    intro admitted
    rw [admitted.1] at onTheWay
    cases onTheWay
  rw [if_neg notArrived, Nat.add_zero] at waiting
  have decreases : ((middle.rpcs.modify index fun _ => after).map
      fun rpc : Rpc => rpc.arrival.left).sum <
        (middle.rpcs.map fun rpc => rpc.arrival.left).sum := by
    omega
  exact ⟨_, _, _, rfl, taken, ⟨valid.1, waiting.trans valid.2⟩, decreases⟩

theorem onTheWay_of_settled {state : Server}
    (settled : ∀ rpc ∈ state.rpcs, rpc.arrival.settled = true) : state.onTheWay = 0 := by
  apply List.countP_eq_zero.mpr
  intro rpc member
  simp [settled rpc member]

/-- An admission out of turn can bring the queue over its limit. -/
theorem exists_overfull {state : Server} (running : state.running = true)
    (arrivalAt : state.arrivalAt index = some .arrived)
    (room : state.queue.pending.length < state.queue.max_pending)
    (outOfTurn : state.queue.max_pending ≤ state.queue.pending.length + state.onTheWay) :
    ∃ trace final, RunWhere (fun _ action => action.handles = true) serverStep state trace final ∧
      state.queue.max_pending < final.queue.pending.length := by
  rcases Option.map_eq_some_iff.mp arrivalAt with ⟨rpc, known, arrival⟩
  have admitted : HandleStep state index rpc { rpc with arrival := .admitted } state.queue :=
    .admits arrival room
  have taken := admitted.taken running known
  have waiting := admitted.waiting known
  rw [if_pos ⟨arrival, room⟩] at waiting
  rcases exists_run_all_pushed ({ state with queue := state.queue }.update index
    fun _ => { rpc with arrival := .admitted }) running with
    ⟨trace, final, run, ⟨_, length⟩, settled⟩
  have first : RunWhere (fun _ action => action.handles = true) serverStep state
      ([] ++ [(.handle_queued index, .silent)]) _ := .next .start rfl taken
  refine ⟨_, final, first.append run, ?_⟩
  rw [onTheWay_of_settled settled, waiting] at length
  omega

/-! ## The limit over whole runs -/

/-- In every run in which each RPC is let in in its turn, `pending` keeps to the limit.
An RPC let in out of turn can bring it over the limit. However they are let in, no RPC
is refused before the limit is reached. -/
theorem pending_within_limit_of_run (limit : Nat) :
    (∀ trace state, RunWhere
        (fun state action => KeepsLimit limit action ∧ AdmitsInTurn state action)
        serverStep (.startWith limit) trace state → state.queue.pending.length ≤ limit) ∧
    (∀ trace state index,
      RunWhere (fun _ action => KeepsLimit limit action) serverStep (.startWith limit) trace state →
      state.running = true → ¬ AdmitsInTurn state (.handle_queued index) →
      ∃ later final, RunWhere (fun _ action => KeepsLimit limit action) serverStep
          (.startWith limit) (trace ++ later) final ∧
        limit < final.queue.pending.length) ∧
    ∀ trace state index next reply,
      RunWhere (fun _ action => KeepsLimit limit action) serverStep (.startWith limit) trace state →
      serverStep state (.handle_queued index) = some (next, reply) →
      next.arrivalAt index = some .refused → limit ≤ state.queue.pending.length := by
  have kept : ∀ trace state, RunWhere (fun _ action => KeepsLimit limit action) serverStep
      (.startWith limit) trace state → state.queue.max_pending = limit :=
    fun trace state run => run.stateInvariant (fun state => state.queue.max_pending = limit) rfl
      fun known keeps taken => max_pending_of_step keeps taken known
  refine ⟨fun trace state run => ?_, fun trace state index run running outOfTurn => ?_,
    fun trace state index next reply run taken refused => ?_⟩
  · exact Nat.le_trans (Nat.le_add_right _ _) (withinLimit_of_run run).bound
  · simp only [AdmitsInTurn, Classical.not_imp] at outOfTurn
    rcases outOfTurn with ⟨arrivalAt, room, tooMany⟩
    rcases exists_overfull running arrivalAt room (Nat.le_of_not_lt tooMany) with
      ⟨later, final, runLater, exceeds⟩
    rw [kept trace state run] at exceeds
    refine ⟨later, final, run.append (runLater.mono fun _ action handles => ?_), exceeds⟩
    cases action with
    | configure => cases handles
    | _ => trivial
  · rw [← kept trace state run]
    exact full_of_refused taken refused

/-- A limit of one, and two RPCs that both find the queue empty. -/
theorem two_arrivals_exceed_limit_of_one : ∃ trace state,
    RunWhere (fun _ action => KeepsLimit 1 action) serverStep (.startWith 1) trace state ∧
      state.queue.max_pending = 1 ∧ state.queue.pending = [(1, "/a"), (2, "/b")] := by
  have replayed : ∃ trace state, replay serverStep (.startWith 1)
        [.arrive "/a" ⟨[], false⟩, .arrive "/b" ⟨[], false⟩, .handle_queued 0, .handle_queued 1,
          .handle_queued 0, .handle_queued 0, .handle_queued 0, .handle_queued 0,
          .handle_queued 1, .handle_queued 1, .handle_queued 1, .handle_queued 1] =
        some (trace, state) ∧
      state.queue.max_pending = 1 ∧ state.queue.pending = [(1, "/a"), (2, "/b")] :=
    ⟨_, _, rfl, rfl, rfl⟩
  rcases replayed with ⟨trace, state, replayed, limit, pending⟩
  refine ⟨trace, state, runWhere_of_replay replayed ?_, limit, pending⟩
  simp [KeepsLimit]

end Zpr.GrpcServer
