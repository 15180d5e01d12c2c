import Zpr.GrpcServer.Acceptance
import Zpr.GrpcServer.CallConservation

namespace Zpr.GrpcServer

open Ffi

/-! # What the exported statistics count

`live` is said to be the number of calls that are accepted but not yet completed. A
call goes into `live` before it is pushed on `pending`, so that it is counted there
while nobody has accepted it. -/

structure StatsReply where
  rc : Int
  out_pending : Option Nat
  out_live : Option Nat
  last_error : Option String
  deriving DecidableEq, Repr

/-- The null pointer is `none`. -/
def zpr_grpc_queue_stats (queue : Option CallQueue) (out_pending out_live : Pointer) :
    StatsReply :=
  match queue with
  | none =>
      { rc := ZPR_ERR, out_pending := none, out_live := none,
        last_error := some "null queue passed to zpr_grpc_queue_stats" }
  | some q =>
      { rc := ZPR_OK, out_pending := out_pending.store q.pending.length,
        out_live := out_live.store (IdMap.size q.live), last_error := none }

structure CountersReply where
  rc : Int
  out_accepted : Option Nat
  out_completed : Option Nat
  out_refused : Option Nat
  out_reaped : Option Nat
  last_error : Option String
  deriving DecidableEq, Repr

def zpr_grpc_queue_counters (queue : Option CallQueue)
    (out_accepted out_completed out_refused out_reaped : Pointer) : CountersReply :=
  match queue with
  | none =>
      { rc := ZPR_ERR, out_accepted := none, out_completed := none, out_refused := none,
        out_reaped := none,
        last_error := some "null queue passed to zpr_grpc_queue_counters" }
  | some q =>
      { rc := ZPR_OK, out_accepted := out_accepted.store q.accepted,
        out_completed := out_completed.store q.completed,
        out_refused := out_refused.store q.refused,
        out_reaped := out_reaped.store q.reaped, last_error := none }

/-! ## The counters -/

/-- The RPC has drawn an id and is still to be pushed on `pending`. -/
def Arrival.isUnpushed : Arrival → Bool
  | .numbered _ _ | .inserted _ _ => true
  | _ => false

def Server.unpushed (state : Server) : Nat := state.countArrivals Arrival.isUnpushed

/-- A call that has drawn an id is on its way to `pending`, or there, or accepted. -/
def Announced (state : Server) : Prop :=
  state.queue.next_id =
    1 + state.queue.accepted + state.queue.pending.length + state.unpushed

theorem QueueChange.next_id_same (change : QueueChange state action queue)
    (elsewhere : action.handles = false) : queue.next_id = state.queue.next_id := by
  cases change with
  | handles => cases elsewhere
  | counts id removal => cases remover : removal.remover <;> rfl
  | same | accepts | configures | stores => rfl

namespace Announced

theorem start : Announced .start := by
  rw [Announced]
  rfl

theorem step_handle (announced : Announced state)
    (taken : serverStep state (.handle_queued index) = some (next, reply)) : Announced next := by
  rcases Server.handle_queued_cases taken with ⟨rpc, after, queue, known, handled, rfl, _⟩
  have count := Server.countArrivals_handle known queue after Arrival.isUnpushed
  show queue.next_id = 1 + queue.accepted + queue.pending.length +
    Server.countArrivals _ Arrival.isUnpushed
  rw [Announced, Server.unpushed] at announced
  generalize Server.countArrivals (Server.update _ _ _) Arrival.isUnpushed = unpushed at count ⊢
  cases handled with
  | admits arrival | stamps arrival =>
      simp only [arrival, Arrival.isUnpushed, Bool.false_eq_true, if_false] at count
      omega
  | refuses arrival | draws ms arrival | inserts ms id arrival =>
      simp only [arrival, Arrival.isUnpushed, Bool.false_eq_true, if_false, if_true] at count
      dsimp only
      omega
  | pushes ms id arrival =>
      simp only [arrival, Arrival.isUnpushed, Bool.false_eq_true, if_false, if_true] at count
      dsimp only
      rw [List.length_append, List.length_singleton]
      omega

theorem step_accept (announced : Announced state)
    (taken : serverStep state (.accept out_call_id out_method) = some (next, reply)) :
    Announced next := by
  rcases serverStep_acceptStep taken with ⟨queue, answer, accepted, rfl, rfl⟩
  cases accepted with
  | nothing | putsBack => exact announced
  | handsOut id path pending held =>
      rw [Announced, held, List.length_cons] at announced
      show state.queue.next_id =
        1 + (state.queue.accepted + 1) + pending.length + state.unpushed
      omega

theorem step (announced : Announced state)
    (taken : serverStep state action = some (next, reply)) : Announced next := by
  have others : action.queues = false → Announced next := by
    intro elsewhere
    have notHandled : action.handles = false := by
      cases action <;> first | rfl | cases elsewhere
    have change := serverStep_queue taken
    rw [Announced, change.next_id_same notHandled, change.accepted_same elsewhere,
      serverStep_pending taken elsewhere, Server.unpushed,
      serverStep_countArrivals taken notHandled _ rfl]
    exact announced
  cases action with
  | handle_queued index => exact announced.step_handle taken
  | accept out_call_id out_method => exact announced.step_accept taken
  | _ => exact others rfl

end Announced

theorem announced_of_run (run : RunWhere condition serverStep .start trace state) :
    Announced state :=
  run.stateInvariant Announced .start fun announced _ taken => announced.step taken

/-- What the counters and the two collections amount to while nothing is part-way through. -/
theorem accepted_add_pending
    (run : RunWhere (fun _ action => action ≠ .queue_free) serverStep .start trace state)
    (quiescent : state.Quiescent) : state.queue.accepted + state.queue.pending.length =
      state.queue.completed + state.queue.reaped + IdMap.size state.queue.live := by
  have announced := announced_of_run run
  have balance := (balanced_of_run run).quiescent quiescent
  have unpushed : state.unpushed = 0 := by
    apply List.countP_eq_zero.mpr
    intro rpc member
    have settled := quiescent.settled rpc member
    cases arrival : rpc.arrival <;> simp_all [Arrival.settled, Arrival.isUnpushed]
  rw [Announced, unpushed] at announced
  omega

/-! ## The calls in `live` -/

/-- The calls handed out that are neither completed nor reaped. -/
def outstanding (trace : List (Action × Reply)) : List (Nat × String) :=
  (handedOut trace).filter fun call =>
    completions call.1 trace = [] ∧ reapings call.1 trace = []

/-- The call is in `live`. -/
def Server.holds (state : Server) (call : Nat × String) : Bool :=
  (state.queue.live.find? call.1).isSome

/-- Of the calls pushed so far, those in `live` are all that is there. -/
theorem size_live_of_pushed (ordered : InOrder trace state) (quiescent : state.Quiescent) :
    IdMap.size state.queue.live = ((pushed trace).filter state.holds).length := by
  have nodup : (((pushed trace).filter state.holds).map Prod.fst).Nodup :=
    ordered.nodup.sublist (List.filter_sublist.map _)
  rw [IdMap.size_eq_card, ← List.length_map Prod.fst, ← List.toFinset_card_of_nodup nodup]
  apply congrArg
  ext id
  rw [IdMap.mem_ids, List.mem_toFinset, List.mem_map]
  constructor
  · intro live
    rcases live with ⟨call, held⟩
    rcases (ordered.consistent.live id call held).1.entered with ⟨ms, entered⟩
    rcases Option.bind_eq_some_iff.mp entered with ⟨rpc, known, entry⟩
    have settled := quiescent.settled rpc (List.mem_of_getElem? known)
    have isPushed : state.Pushed id := by
      refine ⟨call.outbound_tx, ms, ?_⟩
      rw [Server.arrivalAt, known, Option.map_some]
      cases arrival : rpc.arrival <;> simp_all [Arrival.entered?, Arrival.settled]
    rcases List.mem_map.mp ((ordered.known id).mpr isPushed) with ⟨pushedCall, member, rfl⟩
    refine ⟨pushedCall, List.mem_filter.mpr ⟨member, ?_⟩, rfl⟩
    rw [Server.holds, held, Option.isSome_some]
  · intro among
    rcases among with ⟨entry, member, rfl⟩
    exact Option.isSome_iff_exists.mp (List.mem_filter.mp member).2

/-- A call that has been pushed is in `live` as long as it is neither completed nor
reaped. -/
theorem holds_iff_of_pushed
    (run : RunWhere (fun _ action => action ≠ .queue_free) serverStep .start trace state)
    (member : call ∈ pushed trace) :
    state.holds call = true ↔ completions call.1 trace = [] ∧ reapings call.1 trace = [] := by
  rcases ((inOrder_of_run run).known call.1).mp (List.mem_map_of_mem member) with
    ⟨index, ms, queued⟩
  rcases Option.map_eq_some_iff.mp queued with ⟨rpc, known, arrival⟩
  have entered : state.enteredAt index = some (call.1, ms) := by
    rw [Server.enteredAt_of_rpc known, arrival]
    rfl
  rw [Server.holds, Option.isSome_iff_exists]
  rcases fate_of_entered (explained_of_run run) run.allowed entered with
    ⟨live, notCompleted, notReaped⟩ | ⟨notLive, completed, _⟩ | ⟨notLive, _, reaped⟩
  · exact iff_of_true live ⟨not_not.mp notCompleted, not_not.mp notReaped⟩
  · exact iff_of_false notLive fun neither => completed neither.1
  · exact iff_of_false notLive fun neither => reaped neither.2

/-- `live` holds the outstanding calls, and those in `pending` that have not been
taken out before anybody accepted them. -/
theorem size_live
    (run : RunWhere (fun _ action => action ≠ .queue_free) serverStep .start trace state)
    (quiescent : state.Quiescent) : IdMap.size state.queue.live =
      (outstanding trace).length + (state.queue.pending.filter state.holds).length := by
  have ordered := inOrder_of_run run
  have same : outstanding trace = (handedOut trace).filter state.holds := by
    apply List.filter_congr
    intro call member
    have inPushed : call ∈ pushed trace := by
      rw [ordered.order]
      exact List.mem_append_left _ member
    exact Bool.eq_iff_iff.mpr
      (by rw [decide_eq_true_iff, holds_iff_of_pushed run inPushed])
  rw [size_live_of_pushed ordered quiescent, ordered.order, List.filter_append,
    List.length_append, same]

/-- `out_live` is the number of calls that have been accepted and are neither completed
nor reaped. -/
def LiveIsOutstanding (trace : List (Action × Reply)) (queue : CallQueue) : Prop :=
  (zpr_grpc_queue_stats (some queue) .valid .valid).out_live = some (outstanding trace).length

/-- What the counters say of accepted calls agrees with `out_live`. -/
def CountersAddUp (queue : CallQueue) : Prop :=
  ∀ accepted completed reaped live,
    (zpr_grpc_queue_counters (some queue) .valid .valid .valid .valid).out_accepted =
      some accepted →
    (zpr_grpc_queue_counters (some queue) .valid .valid .valid .valid).out_completed =
      some completed →
    (zpr_grpc_queue_counters (some queue) .valid .valid .valid .valid).out_reaped =
      some reaped →
    (zpr_grpc_queue_stats (some queue) .valid .valid).out_live = some live →
    accepted = completed + reaped + live

theorem countersAddUp_iff (queue : CallQueue) : CountersAddUp queue ↔
    queue.accepted = queue.completed + queue.reaped + IdMap.size queue.live := by
  constructor
  · intro addUp
    exact addUp _ _ _ _ rfl rfl rfl rfl
  · intro equal accepted completed reaped live isAccepted isCompleted isReaped isLive
    cases isAccepted
    cases isCompleted
    cases isReaped
    cases isLive
    exact equal

/-- Before the queue is freed, and while no operation is part-way through: `live` is what
it is said to be, by either account, exactly when no call waits in `pending`. The number
alone is right exactly when no call that waits there is in `live`. -/
theorem live_counts_waiting_calls
    (run : RunWhere (fun _ action => action ≠ .queue_free) serverStep .start trace state)
    (quiescent : state.Quiescent) :
    (LiveIsOutstanding trace state.queue ∧ CountersAddUp state.queue ↔
      state.queue.pending = []) ∧
    (LiveIsOutstanding trace state.queue ↔
      ∀ call ∈ state.queue.pending, state.queue.live.find? call.1 = none) := by
  have total := accepted_add_pending run quiescent
  have addUp : CountersAddUp state.queue ↔ state.queue.pending = [] := by
    rw [countersAddUp_iff, ← List.length_eq_zero_iff]
    omega
  have alone : LiveIsOutstanding trace state.queue ↔
      ∀ call ∈ state.queue.pending, state.queue.live.find? call.1 = none := by
    show some (IdMap.size state.queue.live) = some (outstanding trace).length ↔ _
    rw [Option.some.injEq, size_live run quiescent, Nat.add_eq_left, List.length_eq_zero_iff,
      List.filter_eq_nil_iff]
    simp only [Server.holds, Option.not_isSome_iff_eq_none]
  refine ⟨?_, alone⟩
  rw [addUp]
  constructor
  · exact And.right
  · intro empty
    refine ⟨alone.mpr ?_, empty⟩
    simp [empty]

/-- A call that has been accepted is the only one in `live`. -/
theorem live_counts_accepted_call : ∃ trace state,
    RunWhere (fun _ action => action ≠ .queue_free) serverStep .start trace state ∧
      state.Quiescent ∧ IdMap.size state.queue.live = 1 ∧
      LiveIsOutstanding trace state.queue ∧ CountersAddUp state.queue := by
  have replayed : ∃ trace state, replay serverStep .start
        [.arrive "/a" ⟨[], false⟩, .handle_queued 0, .handle_queued 0, .handle_queued 0,
          .handle_queued 0, .handle_queued 0, .accept .valid ⟨.valid, 8, .valid⟩] =
        some (trace, state) ∧
      state.removed = ∅ ∧ state.rpcs.all (fun rpc => rpc.arrival.settled) = true ∧
      IdMap.size state.queue.live = 1 ∧ state.queue.pending = [] :=
    ⟨_, _, rfl, rfl, rfl, rfl, rfl⟩
  rcases replayed with ⟨trace, state, replayed, removed, settled, one, empty⟩
  have run : RunWhere (fun _ action => action ≠ .queue_free) serverStep .start trace state := by
    apply runWhere_of_replay replayed
    simp
  have quiescent := Server.quiescent_of_all removed settled
  exact ⟨trace, state, run, quiescent, one,
    (live_counts_waiting_calls run quiescent).1.mpr empty⟩

/-- A call that nobody has accepted is in `live`, and no call is outstanding. -/
theorem live_counts_call_in_pending : ∃ trace state,
    RunWhere (fun _ action => action ≠ .queue_free) serverStep .start trace state ∧
      CompletesAccepted trace ∧ state.Quiescent ∧
      zpr_grpc_queue_stats (some state.queue) .valid .valid =
        ⟨ZPR_OK, some 1, some 1, none⟩ ∧
      zpr_grpc_queue_counters (some state.queue) .valid .valid .valid .valid =
        ⟨ZPR_OK, some 0, some 0, some 0, some 0, none⟩ ∧
      outstanding trace = [] ∧ ¬ LiveIsOutstanding trace state.queue ∧
      ¬ CountersAddUp state.queue := by
  have replayed : ∃ trace state, replay serverStep .start
        [.arrive "/a" ⟨[], false⟩, .handle_queued 0, .handle_queued 0, .handle_queued 0,
          .handle_queued 0, .handle_queued 0] = some (trace, state) ∧
      state.removed = ∅ ∧ state.rpcs.all (fun rpc => rpc.arrival.settled) = true ∧
      zpr_grpc_queue_stats (some state.queue) .valid .valid =
        ⟨ZPR_OK, some 1, some 1, none⟩ ∧
      zpr_grpc_queue_counters (some state.queue) .valid .valid .valid .valid =
        ⟨ZPR_OK, some 0, some 0, some 0, some 0, none⟩ ∧
      outstanding trace = [] := ⟨_, _, rfl, rfl, rfl, rfl, rfl, rfl⟩
  rcases replayed with ⟨trace, state, replayed, removed, settled, stats, counters, none⟩
  have run : RunWhere (fun _ action => action ≠ .queue_free) serverStep .start trace state := by
    apply runWhere_of_replay replayed
    simp
  refine ⟨trace, state, run, ?_, Server.quiescent_of_all removed settled, stats, counters, none,
    ?_, ?_⟩
  · apply completesAccepted_of_none
    rw [actions_of_replay replayed]
    simp
  · rw [LiveIsOutstanding, stats, none]
    decide
  · intro addUp
    have wrong := addUp 0 0 0 1 (by rw [counters]) (by rw [counters]) (by rw [counters])
      (by rw [stats])
    cases wrong

end Zpr.GrpcServer
