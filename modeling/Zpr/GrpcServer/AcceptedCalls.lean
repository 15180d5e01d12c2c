import Zpr.GrpcServer.CallInvariant
import Zpr.GrpcServer.PendingCalls

namespace Zpr.GrpcServer

open Ffi

/-! # Whether an accepted call exists

A call goes into `live` before it goes into `pending`, and a sweep looks at
`live` alone. -/

/-- The ids that the host has been given so far. -/
def acceptedIds (trace : List (Action × Reply)) : List Nat :=
  trace.flatMap acceptedOf

theorem acceptedIds_next (trace : List (Action × Reply)) (event : Action × Reply) :
    acceptedIds (trace ++ [event]) = acceptedIds trace ++ acceptedOf event := by
  simp [acceptedIds]

/-- The host completes only what it has accepted. -/
def CompletesAccepted (trace : List (Action × Reply)) : Prop :=
  ∀ earlier later call_id grpc_status message reply,
    trace = earlier ++ (.complete call_id grpc_status message, reply) :: later →
      call_id ∈ acceptedIds earlier

theorem CompletesAccepted.earlier (completes : CompletesAccepted (trace ++ more)) :
    CompletesAccepted trace := by
  intro earlier later call_id grpc_status message reply equal
  apply completes earlier (later ++ more) call_id grpc_status message reply
  rw [equal, List.append_assoc, List.cons_append]

theorem completesAccepted_of_none (noCompletion : ∀ action ∈ trace.map Prod.fst,
    ∀ call_id grpc_status message, action ≠ .complete call_id grpc_status message) :
    CompletesAccepted trace := by
  intro earlier later call_id grpc_status message reply equal
  refine absurd rfl (noCompletion (.complete call_id grpc_status message) ?_ call_id grpc_status
    message)
  simp [equal]

namespace Server

/-- In `live`, or to be, but not handed out yet: `handle_queued` is about to push
the call on `pending`, or has done so. -/
def Waiting (state : Server) (id : Nat) : Prop :=
  (∃ index ms, state.arrivalAt index = some (.inserted ms id)) ∨
    id ∈ state.queue.pending.map Prod.fst

/-- The call has left the hands of `handle_queued`. -/
def Pushed (state : Server) (id : Nat) : Prop :=
  ∃ index ms, state.arrivalAt index = some (.queued ms id)

end Server

/-- `handle_queued` has nothing more to do with a call that it has pushed. -/
theorem Server.Pushed.stays {id : Nat} {state : Server} (was : state.Pushed id)
    (taken : serverStep state action = some (next, reply)) : next.Pushed id := by
  rcases was with ⟨index, ms, queued⟩
  refine ⟨index, ms, ?_⟩
  cases handles : action.handles with
  | false =>
      rcases serverStep_arrivalAt taken handles index with same | ⟨none, _⟩
      · rw [same, queued]
      · rw [none] at queued
        cases queued
  | true =>
      cases action with
      | handle_queued target =>
          rcases Server.handle_queued_cases taken with ⟨rpc, after, queue, known, handled, rfl, _⟩
          rw [Server.arrivalAt_handle known]
          split
          · rename_i own
            rw [own, Server.arrivalAt, known, Option.map_some, Option.some.injEq] at queued
            cases handled <;> simp_all
          · exact queued
      | _ => cases handles

/-- A call that `handle_queued` has pushed it had pushed before, or is pushing now. -/
theorem pushed_was {id : Nat} (taken : serverStep state action = some (next, reply))
    (now : next.Pushed id) : state.Pushed id ∨ ∃ index ms, action = .handle_queued index ∧
      state.arrivalAt index = some (.inserted ms id) := by
  rcases now with ⟨index, ms, queued⟩
  cases handles : action.handles with
  | false => exact .inl ⟨index, ms, arrivalAt_was taken handles queued (by simp)⟩
  | true =>
      cases action with
      | handle_queued target =>
          rcases Server.handle_queued_cases taken with ⟨rpc, after, queue, known, handled, rfl, _⟩
          rw [Server.arrivalAt_handle known] at queued
          split at queued
          · cases handled with
            | pushes ms' id' arrival =>
                cases queued
                refine .inr ⟨target, ms, rfl, ?_⟩
                rw [Server.arrivalAt, known, Option.map_some, arrival]
            | refuses | admits | stamps | draws | inserts => cases queued
          · exact .inl ⟨index, ms, queued⟩
      | _ => cases handles

/-- The calls stand in line: each is pushed once, and once accepted it has left
the line for good. -/
structure Lined (trace : List (Action × Reply)) (state : Server) : Prop where
  consistent : state.Consistent
  pushed : ∀ id ∈ state.queue.pending.map Prod.fst, state.Pushed id
  nodup : (state.queue.pending.map Prod.fst).Nodup
  accepted : ∀ id ∈ acceptedIds trace,
    id ∉ state.queue.pending.map Prod.fst ∧ state.Pushed id

namespace Lined

theorem start : Lined [] .start where
  consistent := .start
  pushed id member := by simp [Server.start, CallQueue.new] at member
  nodup := List.nodup_nil
  accepted id member := by simp [acceptedIds] at member

theorem idAt_of_arrivalAt {state : Server} (arrival : state.arrivalAt index = some what) :
    state.idAt index = what.id? := by
  rcases Option.map_eq_some_iff.mp arrival with ⟨rpc, known, rfl⟩
  exact Server.idAt_of_rpc known

theorem enteredAt_of_arrivalAt {state : Server} (arrival : state.arrivalAt index = some what) :
    state.enteredAt index = what.entered? := by
  rcases Option.map_eq_some_iff.mp arrival with ⟨rpc, known, rfl⟩
  exact Server.enteredAt_of_rpc known

/-- An RPC whose call has not been pushed is the only one with that id. -/
theorem not_pushed_of_inserted {state : Server} {id : Nat} (consistent : state.Consistent)
    (inserted : state.arrivalAt index = some (.inserted ms id)) : ¬ state.Pushed id := by
  intro pushed
  rcases pushed with ⟨other, otherMs, queued⟩
  have same := consistent.distinct _ _ _ (idAt_of_arrivalAt inserted) (idAt_of_arrivalAt queued)
  rw [← same, inserted] at queued
  cases queued

theorem not_waiting_of_accepted {id : Nat} (lined : Lined trace state)
    (member : id ∈ acceptedIds trace) : ¬ state.Waiting id := by
  rcases lined.accepted id member with ⟨notPending, pushed⟩
  intro waiting
  rcases waiting with ⟨index, ms, inserted⟩ | pending
  · exact not_pushed_of_inserted lined.consistent inserted pushed
  · exact notPending pending

theorem step_accept (lined : Lined trace state)
    (taken : serverStep state (.accept out_call_id out_method) = some (next, reply)) :
    Lined (trace ++ [(.accept out_call_id out_method, reply)]) next := by
  have consistent := lined.consistent.step (serverStep_calls taken)
  rcases serverStep_accept_cases taken with
    ⟨rfl, answer, rfl, failed⟩ | ⟨id, path, pending, answer, held, rfl, rfl, handed, returned⟩
  · refine ⟨consistent, lined.pushed, lined.nodup, fun id member => ?_⟩
    rw [acceptedIds_next, acceptedOf, if_neg failed, List.append_nil] at member
    exact lined.accepted id member
  · have nodup := lined.nodup
    rw [held, List.map_cons, List.nodup_cons] at nodup
    have pushed := lined.pushed
    rw [held, List.map_cons, List.forall_mem_cons] at pushed
    refine ⟨consistent, pushed.2, nodup.2, fun other member => ?_⟩
    rw [acceptedIds_next, acceptedOf, if_pos handed, returned, List.mem_append,
      Option.mem_toList] at member
    rcases member with before | now
    · rcases lined.accepted other before with ⟨notPending, wasPushed⟩
      rw [held, List.map_cons, List.mem_cons, not_or] at notPending
      exact ⟨notPending.2, wasPushed⟩
    · cases out_call_id with
      | null => cases now
      | valid =>
          cases now
          exact ⟨nodup.1, pushed.1⟩

theorem step_handle (lined : Lined trace state)
    (taken : serverStep state (.handle_queued index) = some (next, reply)) :
    Lined (trace ++ [(.handle_queued index, reply)]) next := by
  have consistent := lined.consistent.step (serverStep_calls taken)
  rcases Server.handle_queued_cases taken with ⟨rpc, after, queue, known, handled, rfl, rfl⟩
  have arrivalAt : state.arrivalAt index = some rpc.arrival := by
    rw [Server.arrivalAt, known, Option.map_some]
  have quiet : acceptedIds (trace ++ [(.handle_queued index, .silent)]) = acceptedIds trace := by
    simp [acceptedIds_next, acceptedOf]
  have stays : ∀ id, state.Pushed id →
      ({ state with queue := queue }.update index fun _ => after).Pushed id :=
    fun id pushed => pushed.stays taken
  have unpushed : queue.pending = state.queue.pending →
      Lined (trace ++ [(.handle_queued index, .silent)])
        ({ state with queue := queue }.update index fun _ => after) := by
    intro same
    refine ⟨consistent, fun id member => ?_, ?_, fun id member => ?_⟩
    · rw [Server.update_queue, same] at member
      exact stays id (lined.pushed id member)
    · rw [Server.update_queue, same]
      exact lined.nodup
    · rw [quiet] at member
      rw [Server.update_queue, same]
      exact ⟨(lined.accepted id member).1, stays id (lined.accepted id member).2⟩
  cases handled with
  | refuses | admits | stamps | draws | inserts => exact unpushed rfl
  | pushes ms id arrival =>
      rw [arrival] at arrivalAt
      have notPushed := not_pushed_of_inserted lined.consistent arrivalAt
      have notPending : id ∉ state.queue.pending.map Prod.fst :=
        fun member => notPushed (lined.pushed id member)
      refine ⟨consistent, fun other member => ?_, ?_, fun other member => ?_⟩
      · rw [Server.update_queue, List.map_append, List.mem_append] at member
        rcases member with before | now
        · exact stays other (lined.pushed other before)
        · cases List.mem_singleton.mp now
          refine ⟨index, ms, ?_⟩
          rw [Server.arrivalAt_handle known, if_pos rfl]
      · rw [Server.update_queue, List.map_append, List.map_singleton]
        rw [← List.concat_eq_append]
        exact lined.nodup.concat notPending
      · rw [quiet] at member
        rcases lined.accepted other member with ⟨absent, pushed⟩
        refine ⟨?_, stays other pushed⟩
        rw [Server.update_queue, List.map_append, List.mem_append, not_or]
        refine ⟨absent, fun now => ?_⟩
        cases List.mem_singleton.mp now
        exact notPushed pushed

theorem step (lined : Lined trace state)
    (taken : serverStep state action = some (next, reply)) :
    Lined (trace ++ [(action, reply)]) next := by
  have others : action.queues = false →
      acceptedOf (action, reply) = [] → Lined (trace ++ [(action, reply)]) next := by
    intro notQueued quiet
    have pending := serverStep_pending taken notQueued
    have pushed : ∀ id, state.Pushed id → next.Pushed id := fun id was => was.stays taken
    refine ⟨lined.consistent.step (serverStep_calls taken), fun id member => ?_, ?_,
      fun id member => ?_⟩
    · rw [pending] at member
      exact pushed id (lined.pushed id member)
    · rw [pending]
      exact lined.nodup
    · rw [acceptedIds_next, quiet, List.append_nil] at member
      rw [pending]
      exact ⟨(lined.accepted id member).1, pushed id (lined.accepted id member).2⟩
  cases action with
  | accept out_call_id out_method => exact lined.step_accept taken
  | handle_queued index => exact lined.step_handle taken
  | _ => exact others rfl rfl

end Lined

/-- The sweep, if this is one, finds no expired call among those that still wait
to be accepted; and the queue is not freed. -/
def SparesWaiting (state : Server) : Action → Prop
  | .reap_loop => ∀ now, state.reaper = .timed now →
      ∀ id call, state.queue.live.find? id = some call → call.expires_at ≤ now → ¬ state.Waiting id
  | .queue_free => False
  | _ => True

/-- Every call that waits to be accepted exists. -/
def WaitingLive (state : Server) : Prop :=
  ∀ id, state.Waiting id → ∃ call, state.queue.live.find? id = some call

/-- A call that waits did so before, or has just gone into `live`. -/
theorem waiting_was {id : Nat} (taken : serverStep state action = some (next, reply))
    (waiting : next.Waiting id) :
    state.Waiting id ∨ ∃ index ms, EntersLive state next index ms id := by
  have others : action.handles = false →
      (id ∈ next.queue.pending.map Prod.fst → id ∈ state.queue.pending.map Prod.fst) →
      state.Waiting id := by
    intro notHandled wasPending
    rcases waiting with ⟨index, ms, inserted⟩ | pending
    · exact .inl ⟨index, ms, arrivalAt_was taken notHandled inserted (by simp)⟩
    · exact .inr (wasPending pending)
  cases action with
  | accept out_call_id out_method =>
      refine .inl (others rfl ?_)
      rcases serverStep_accept_cases taken with
        ⟨rfl, _⟩ | ⟨front, path, pending, answer, held, rfl, _⟩
      · exact fun pending => pending
      · intro pending
        rw [held]
        exact List.mem_cons_of_mem _ pending
  | handle_queued index =>
      rcases Server.handle_queued_cases taken with ⟨rpc, after, queue, known, handled, rfl, rfl⟩
      have arrivalAt : state.arrivalAt index = some rpc.arrival := by
        rw [Server.arrivalAt, known, Option.map_some]
      rcases waiting with ⟨other, ms, inserted⟩ | pending
      · rw [Server.arrivalAt_handle known] at inserted
        split at inserted
        · cases handled with
          | inserts ms' id' arrival =>
              cases inserted
              exact .inr ⟨index, ms, Server.entersLive_of_inserts known arrival⟩
          | _ => cases inserted
        · exact .inl (.inl ⟨other, ms, inserted⟩)
      · cases handled with
        | pushes ms id' arrival =>
            rw [Server.update_queue, List.map_append, List.mem_append] at pending
            rcases pending with before | now
            · exact .inl (.inr before)
            · cases List.mem_singleton.mp now
              exact .inl (.inl ⟨index, ms, by rw [arrivalAt, arrival]⟩)
        | _ => exact .inl (.inr pending)
  | _ =>
      refine .inl (others rfl fun pending => ?_)
      rw [← serverStep_pending taken rfl]
      exact pending

/-- While sweeps spare the waiting calls and the host completes only what it has
accepted, no step takes a waiting call away. -/
theorem removalsOf_of_waiting {id : Nat} (lined : Lined trace state)
    (completes : CompletesAccepted (trace ++ [(action, reply)]))
    (spares : SparesWaiting state action)
    (taken : serverStep state action = some (next, reply)) (waiting : state.Waiting id) :
    removalsOf id (action, reply) = [] := by
  cases action with
  | queue_free => exact spares.elim
  | reap_loop =>
      rcases Server.reap_loop_cases taken with ⟨rfl, _⟩ | ⟨now, timed, rfl, _⟩
      · rfl
      · simp only [removalsOf]
        rw [if_neg]
        intro member
        rcases Server.mem_expired.mp member with ⟨call, held, expired⟩
        exact spares now timed id call held expired waiting
  | complete call_id grpc_status message =>
      have accepted : call_id ∈ acceptedIds trace :=
        completes trace [] call_id grpc_status message reply rfl
      have different : call_id ≠ id := by
        intro same
        rw [same] at accepted
        exact lined.not_waiting_of_accepted accepted waiting
      cases reply with
      | returned rc error =>
          simp only [removalsOf, completionsOf, different, false_and, if_false]
          split <;> rfl
      | _ => rfl
  | _ => rfl

theorem waitingLive_step (lined : Lined trace state)
    (completes : CompletesAccepted (trace ++ [(action, reply)]))
    (spares : SparesWaiting state action)
    (taken : serverStep state action = some (next, reply)) (waitingLive : WaitingLive state) :
    WaitingLive next := by
  intro id waiting
  have change := serverStep_calls taken
  rcases waiting_was taken waiting with before | ⟨index, ms, entered⟩
  · rcases waitingLive id before with ⟨call, held⟩
    rcases Server.Consistent.live_stays lined.consistent change held
        (removalsOf_of_waiting lined completes spares taken before) with ⟨after, heldAfter, _⟩
    exact ⟨after, heldAfter⟩
  · exact ⟨_, by rw [entered.live, IdMap.find?_insert, if_pos rfl]⟩

theorem lined_of_run (run : RunWhere condition serverStep .start trace state) :
    Lined trace state :=
  run.invariant Lined .start fun _ lined _ taken => lined.step taken

theorem waitingLive_of_run (run : RunWhere SparesWaiting serverStep .start trace state) :
    CompletesAccepted trace → WaitingLive state := by
  apply run.invariant fun trace state => CompletesAccepted trace → WaitingLive state
  · intro _ id waiting
    rcases waiting with ⟨index, ms, inserted⟩ | pending
    · simp [Server.start, Server.arrivalAt] at inserted
    · simp [Server.start, CallQueue.new] at pending
  · intro trace state action next reply earlier waitingLive spares taken completes
    exact waitingLive_step (lined_of_run earlier) completes spares taken
      (waitingLive completes.earlier)

/-- In every run in which no sweep meets an expired call that still waits to be
accepted, a call that the host accepts exists. -/
theorem accepted_call_is_live_of_run (run : RunWhere SparesWaiting serverStep .start trace state)
    (completes : CompletesAccepted trace)
    (taken : serverStep state (.accept out_call_id out_method) = some (next, .accepted reply))
    (handed : reply.rc = ZPR_CALL_MESSAGE) :
    ∃ call_id call, reply.out_call_id = out_call_id.store call_id ∧
      next.queue.live.find? call_id = some call := by
  rcases serverStep_accept_cases taken with
    ⟨_, answer, equal, failed⟩ | ⟨id, path, pending, answer, held, rfl, equal, _, returned⟩
  · cases equal
    exact absurd handed failed
  · cases equal
    have waiting : state.Waiting id := .inr (by simp [held])
    rcases waitingLive_of_run run completes id waiting with ⟨call, live⟩
    exact ⟨id, call, returned, live⟩

theorem accepted_call_is_live_at_once : ∃ trace state next reply,
    RunWhere SparesWaiting serverStep .start trace state ∧ CompletesAccepted trace ∧
      serverStep state (.accept .valid { out := .valid, out_cap := 8, out_len := .valid }) =
        some (next, .accepted reply) ∧
      reply.rc = ZPR_CALL_MESSAGE ∧
      ∃ call_id call, reply.out_call_id = Pointer.valid.store call_id ∧
        next.queue.live.find? call_id = some call := by
  have replayed : ∃ trace state next reply, replay serverStep .start
        [.arrive "/a" ⟨[], false⟩, .handle_queued 0, .handle_queued 0, .handle_queued 0,
          .handle_queued 0, .handle_queued 0] = some (trace, state) ∧
      serverStep state (.accept .valid { out := .valid, out_cap := 8, out_len := .valid }) =
        some (next, .accepted reply) ∧
      reply.rc = ZPR_CALL_MESSAGE := ⟨_, _, _, _, rfl, rfl, rfl⟩
  rcases replayed with ⟨trace, state, next, reply, replayed, taken, handed⟩
  have completes : CompletesAccepted trace := by
    apply completesAccepted_of_none
    rw [actions_of_replay replayed]
    simp
  have run : RunWhere SparesWaiting serverStep .start trace state := by
    apply runWhere_of_replay replayed
    simp [SparesWaiting]
  exact ⟨trace, state, next, reply, run, completes, taken, handed,
    accepted_call_is_live_of_run run completes taken handed⟩

/-- The host is away for longer than the deadline. A sweep answers the waiting
call, which stays in `pending`; the host then accepts it, and finds no call. -/
theorem accepted_call_reaped_while_pending : ∃ trace state next reply,
    Run serverStep .start trace state ∧ CompletesAccepted trace ∧
      serverStep state (.accept .valid { out := .valid, out_cap := 8, out_len := .valid }) =
        some (next, .accepted reply) ∧
      reply.rc = ZPR_CALL_MESSAGE ∧ reply.out_call_id = some 1 ∧
      next.queue.live.find? 1 = none := by
  have replayed : ∃ trace state next reply, replay serverStep .start
        [.arrive "/a" ⟨[], false⟩, .handle_queued 0, .handle_queued 0, .handle_queued 0,
          .handle_queued 0, .handle_queued 0, .tick 30000000000, .reap_loop, .reap_loop,
          .reap_loop] = some (trace, state) ∧
      serverStep state (.accept .valid { out := .valid, out_cap := 8, out_len := .valid }) =
        some (next, .accepted reply) ∧
      reply.rc = ZPR_CALL_MESSAGE ∧ reply.out_call_id = some 1 ∧
      next.queue.live.find? 1 = none := ⟨_, _, _, _, rfl, rfl, rfl, rfl, rfl⟩
  rcases replayed with ⟨trace, state, next, reply, replayed, taken, handed, returned, absent⟩
  have completes : CompletesAccepted trace := by
    apply completesAccepted_of_none
    rw [actions_of_replay replayed]
    simp
  exact ⟨trace, state, next, reply, run_of_replay replayed, completes, taken, handed, returned,
    absent⟩

end Zpr.GrpcServer
