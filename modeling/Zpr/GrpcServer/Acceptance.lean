import Zpr.Foundation.Observation
import Zpr.GrpcServer.AcceptedCalls
import Zpr.GrpcServer.QueueChange

namespace Zpr.GrpcServer

open Ffi

/-! # First come, first served

Everything that is ever put at the end of `pending` is handed out from its front, in
the same order and once, whatever buffers the host brings. -/

/-- The calls that `handle_queued` puts at the end of `pending` in one step. -/
def pushedOf : Note Server Action Reply (Nat × String) := fun state action next _ =>
  if action.handles then next.queue.pending.drop state.queue.pending.length else []

/-- All calls ever put there, each with its id and its path. -/
def pushed (trace : List (Action × Reply)) : List (Nat × String) :=
  observe serverStep pushedOf .start (trace.map Prod.fst)

/-- The calls that `zpr_grpc_accept` takes from the front of `pending` in one step. -/
def handedOutOf : Note Server Action Reply (Nat × String) := fun state action next _ =>
  match action with
  | .accept _ _ =>
      state.queue.pending.take (state.queue.pending.length - next.queue.pending.length)
  | _ => []

/-- All calls ever taken from there. -/
def handedOut (trace : List (Action × Reply)) : List (Nat × String) :=
  observe serverStep handedOutOf .start (trace.map Prod.fst)

/-- What an accept that returns `ZPR_CALL_MESSAGE` gives to the host. -/
def returnedOf : Action × Reply → List (Option Nat × Bytes)
  | (.accept _ _, .accepted reply) =>
      if reply.rc = ZPR_CALL_MESSAGE then [(reply.out_call_id, reply.written)] else []
  | _ => []

def returned (trace : List (Action × Reply)) : List (Option Nat × Bytes) :=
  trace.flatMap returnedOf

theorem returned_next (trace : List (Action × Reply)) (event : Action × Reply) :
    returned (trace ++ [event]) = returned trace ++ returnedOf event := by
  simp [returned]

/-- A call as the host is to be told of it. -/
def announced (call : Nat × String) : Option Nat × Bytes := (some call.1, as_bytes call.2)

/-- The host provides a place for the id. -/
def TakesId : Action → Prop
  | .accept out_call_id _ => out_call_id = .valid
  | _ => True

/-- The three outcomes of an accept. -/
inductive AcceptStep (q : CallQueue) (out_call_id : Pointer) (out_method : Buffer) :
    CallQueue → AcceptReply → Prop
  | nothing (empty : q.pending = []) (reply : AcceptReply) (told : reply.rc = ZPR_CALL_NONE) :
      AcceptStep q out_call_id out_method q reply
  | putsBack (id : Nat) (path : String) (pending : List (Nat × String))
      (held : q.pending = (id, path) :: pending) (reply : AcceptReply)
      (failed : reply.rc ≠ ZPR_CALL_MESSAGE)
      (length : reply.out_len = out_method.out_len.store (as_bytes path).length) :
      AcceptStep q out_call_id out_method q reply
  | handsOut (id : Nat) (path : String) (pending : List (Nat × String))
      (held : q.pending = (id, path) :: pending) (reply : AcceptReply)
      (told : reply.rc = ZPR_CALL_MESSAGE) (given : reply.out_call_id = out_call_id.store id)
      (written : reply.written = as_bytes path) :
      AcceptStep q out_call_id out_method { q with pending := pending, accepted := q.accepted + 1 }
        reply

theorem acceptStep (q : CallQueue) (out_call_id : Pointer) (out_method : Buffer) :
    AcceptStep q out_call_id out_method (zpr_grpc_accept q out_call_id out_method).1
      (zpr_grpc_accept q out_call_id out_method).2 := by
  cases held : q.pending with
  | nil =>
      simp only [zpr_grpc_accept, held]
      exact .nothing held _ rfl
  | cons call pending =>
      rcases call with ⟨id, path⟩
      simp only [zpr_grpc_accept, held]
      split
      · rename_i failed
        exact .putsBack id path pending held _ (copy_into_failed failed (by decide))
          (copy_into_out_len _ _)
      · rename_i copied
        exact .handsOut id path pending held _ rfl rfl (copy_into_written_of_ok (not_not.mp copied))

theorem serverStep_acceptStep
    (taken : serverStep state (.accept out_call_id out_method) = some (next, reply)) :
    ∃ queue answer, AcceptStep state.queue out_call_id out_method queue answer ∧
      next = { state with queue := queue } ∧ reply = .accepted answer := by
  simp only [serverStep, Option.some.injEq, Prod.mk.injEq] at taken
  exact ⟨_, _, acceptStep state.queue out_call_id out_method, taken.1.symm, taken.2.symm⟩

theorem QueueChange.accepted_same (change : QueueChange state action queue)
    (elsewhere : action.queues = false) : queue.accepted = state.queue.accepted := by
  cases change with
  | accepts | handles => cases elsewhere
  | counts id removal => cases remover : removal.remover <;> rfl
  | same | configures | stores => rfl

/-- What has been pushed is what has been handed out and what waits. -/
structure InOrder (trace : List (Action × Reply)) (state : Server) : Prop where
  consistent : state.Consistent
  order : pushed trace = handedOut trace ++ state.queue.pending
  nodup : ((pushed trace).map Prod.fst).Nodup
  known : ∀ id, id ∈ (pushed trace).map Prod.fst ↔ state.Pushed id
  counted : state.queue.accepted = (handedOut trace).length

namespace InOrder

theorem start : InOrder [] .start where
  consistent := .start
  order := rfl
  nodup := List.nodup_nil
  known id := by
    constructor
    · intro member
      cases member
    · intro pushed
      rcases pushed with ⟨index, ms, queued⟩
      simp [Server.start, Server.arrivalAt] at queued
  counted := rfl

/-- A step that pushes nothing. -/
theorem step_unpushed (ordered : InOrder trace state)
    (run : RunWhere condition serverStep .start trace state)
    (taken : serverStep state action = some (next, reply))
    (nothing : pushedOf state action next reply = [])
    (noPush : ∀ index ms id, action = .handle_queued index →
      state.arrivalAt index ≠ some (.inserted ms id))
    (order : state.queue.pending = handedOutOf state action next reply ++ next.queue.pending)
    (counted : next.queue.accepted =
      state.queue.accepted + (handedOutOf state action next reply).length) :
    InOrder (trace ++ [(action, reply)]) next := by
  have notes : pushed (trace ++ [(action, reply)]) = pushed trace := by
    rw [pushed, observe_next run taken, nothing, List.append_nil]
    rfl
  have handed : handedOut (trace ++ [(action, reply)]) =
      handedOut trace ++ handedOutOf state action next reply := observe_next run taken
  refine ⟨ordered.consistent.step (serverStep_calls taken), ?_, ?_, fun id => ?_, ?_⟩
  · rw [notes, handed, ordered.order, List.append_assoc, ← order]
  · rw [notes]
    exact ordered.nodup
  · rw [notes, ordered.known]
    refine ⟨fun was => was.stays taken, fun now => ?_⟩
    rcases pushed_was taken now with was | ⟨index, ms, handling, inserted⟩
    · exact was
    · exact absurd inserted (noPush index ms id handling)
  · rw [counted, ordered.counted, handed, List.length_append]

theorem step_accept (ordered : InOrder trace state)
    (run : RunWhere condition serverStep .start trace state)
    (taken : serverStep state (.accept out_call_id out_method) = some (next, reply)) :
    InOrder (trace ++ [(.accept out_call_id out_method, reply)]) next := by
  rcases serverStep_acceptStep taken with ⟨queue, answer, accepted, rfl, rfl⟩
  apply ordered.step_unpushed run taken rfl nofun
  · cases accepted with
    | nothing | putsBack => simp [handedOutOf]
    | handsOut id path pending held => simp [handedOutOf, held]
  · cases accepted with
    | nothing | putsBack => simp [handedOutOf]
    | handsOut id path pending held => simp [handedOutOf, held]

theorem step_handle (ordered : InOrder trace state)
    (run : RunWhere condition serverStep .start trace state)
    (taken : serverStep state (.handle_queued index) = some (next, reply)) :
    InOrder (trace ++ [(.handle_queued index, reply)]) next := by
  rcases Server.handle_queued_cases taken with ⟨rpc, after, queue, known, handled, rfl, rfl⟩
  have arrivalAt : state.arrivalAt index = some rpc.arrival := by
    rw [Server.arrivalAt, known, Option.map_some]
  have unpushed : queue.pending = state.queue.pending → queue.accepted = state.queue.accepted →
      (∀ ms id, rpc.arrival ≠ .inserted ms id) →
      InOrder (trace ++ [(.handle_queued index, .silent)])
        ({ state with queue := queue }.update index fun _ => after) := by
    intro same accepted notInserted
    apply ordered.step_unpushed run taken
    · simp [pushedOf, Action.handles, same]
    · intro target ms id handling inserted
      cases handling
      rw [arrivalAt, Option.some.injEq] at inserted
      exact notInserted ms id inserted
    · exact same.symm
    · exact accepted
  cases handled with
  | pushes ms id arrival =>
      have notes : pushed (trace ++ [(.handle_queued index, .silent)]) =
          pushed trace ++ [(id, rpc.path)] := by
        rw [pushed, observe_next run taken]
        apply congrArg (pushed trace ++ ·)
        exact List.drop_left
      have handed : handedOut (trace ++ [(.handle_queued index, .silent)]) = handedOut trace := by
        rw [handedOut, observe_next run taken]
        exact List.append_nil _
      have queued : ∀ other, ({ state with queue := { state.queue with
          pending := state.queue.pending ++ [(id, rpc.path)] } }.update index fun _ =>
            { rpc with arrival := .queued ms id }).Pushed other ↔
          state.Pushed other ∨ other = id := by
        intro other
        constructor
        · intro now
          rcases pushed_was taken now with was | ⟨target, ms', handling, inserted⟩
          · exact .inl was
          · cases handling
            rw [arrivalAt, arrival] at inserted
            cases inserted
            exact .inr rfl
        · intro either
          rcases either with was | rfl
          · exact was.stays taken
          · exact ⟨index, ms, by rw [Server.arrivalAt_handle known, if_pos rfl]⟩
      have fresh : ¬ state.Pushed id :=
        Lined.not_pushed_of_inserted ordered.consistent (arrivalAt.trans (by rw [arrival]))
      refine ⟨ordered.consistent.step (serverStep_calls taken), ?_, ?_, fun other => ?_, ?_⟩
      · rw [notes, handed, ordered.order, Server.update_queue, List.append_assoc]
      · rw [notes, List.map_append, List.map_singleton, ← List.concat_eq_append]
        exact ordered.nodup.concat fun member => fresh ((ordered.known id).mp member)
      · rw [notes, queued, List.map_append, List.mem_append, ordered.known]
        simp
      · rw [handed]
        exact ordered.counted
  | refuses arrival | admits arrival | stamps arrival =>
      apply unpushed rfl rfl
      simp [arrival]
  | draws ms arrival | inserts ms id arrival =>
      apply unpushed rfl rfl
      simp [arrival]

theorem step (ordered : InOrder trace state)
    (run : RunWhere condition serverStep .start trace state)
    (taken : serverStep state action = some (next, reply)) :
    InOrder (trace ++ [(action, reply)]) next := by
  have others : action.queues = false → pushedOf state action next reply = [] →
      handedOutOf state action next reply = [] → InOrder (trace ++ [(action, reply)]) next := by
    intro elsewhere noPush nothing
    apply ordered.step_unpushed run taken noPush
    · intro index ms id handling
      rw [handling] at elsewhere
      cases elsewhere
    · rw [nothing, serverStep_pending taken elsewhere]
      rfl
    · rw [nothing, (serverStep_queue taken).accepted_same elsewhere]
      rfl
  cases action with
  | accept out_call_id out_method => exact ordered.step_accept run taken
  | handle_queued index => exact ordered.step_handle run taken
  | _ => exact others rfl rfl rfl

end InOrder

theorem inOrder_of_run (run : RunWhere condition serverStep .start trace state) :
    InOrder trace state :=
  run.invariant InOrder .start fun earlier ordered _ taken => ordered.step earlier taken

/-- The host is told of exactly those calls that are handed out. -/
theorem returned_of_run
    (run : RunWhere (fun _ action => TakesId action) serverStep .start trace state) :
    returned trace = (handedOut trace).map announced := by
  induction run with
  | start => rfl
  | @next trace state action next reply earlier takesId taken induction =>
      rw [returned_next, induction, handedOut, handedOut, observe_next earlier taken,
        List.map_append]
      apply congrArg (_ ++ ·)
      cases action with
      | accept out_call_id out_method =>
          cases takesId
          rcases serverStep_acceptStep taken with ⟨queue, answer, accepted, rfl, rfl⟩
          cases accepted with
          | nothing empty _ told => simp [returnedOf, handedOutOf, told, ZPR_CALL_NONE,
              ZPR_CALL_MESSAGE]
          | putsBack id path pending held _ failed => simp [returnedOf, handedOutOf, failed]
          | handsOut id path pending held _ told given written =>
              simp [returnedOf, handedOutOf, held, told, given, written, announced, Pointer.store]
      | _ => rfl

/-- However arrivals and accepts interleave, the calls that have been pushed on
`pending`, each with an id of its own, are those handed out so far, in the same order
and with their whole paths, and then those in `pending`. An accept that hands out
nothing changes nothing, and a buffer that is too short is told how long the path of
the first call is. -/
theorem acceptance_is_first_come_first_served
    (run : RunWhere (fun _ action => TakesId action) serverStep .start trace state) :
    (pushed trace).map announced = returned trace ++ state.queue.pending.map announced ∧
      ((pushed trace).map Prod.fst).Nodup ∧
      ∀ out_call_id out_method next reply,
        serverStep state (.accept out_call_id out_method) = some (next, .accepted reply) →
        (reply.rc ≠ ZPR_CALL_MESSAGE → next = state) ∧
        (reply.rc = ZPR_ERR_SHORT_BUFFER → ∃ id path pending,
          state.queue.pending = (id, path) :: pending ∧
            reply.out_len = out_method.out_len.store (as_bytes path).length) := by
  have ordered := inOrder_of_run run
  refine ⟨?_, ordered.nodup, fun out_call_id out_method next reply taken => ?_⟩
  · rw [ordered.order, List.map_append, returned_of_run run]
  rcases serverStep_acceptStep taken with ⟨queue, answer, accepted, rfl, equal⟩
  cases equal
  cases accepted with
  | nothing empty _ told =>
      refine ⟨fun _ => rfl, fun short => ?_⟩
      rw [told] at short
      cases short
  | putsBack id path pending held _ failed length =>
      exact ⟨fun _ => rfl, fun _ => ⟨id, path, pending, held, length⟩⟩
  | handsOut id path pending held _ told =>
      refine ⟨fun failed => absurd told failed, fun short => ?_⟩
      rw [told] at short
      cases short

/-- A buffer that is too short for the first path, and then one that is not. -/
theorem acceptance_after_short_buffer : ∃ trace state,
    RunWhere (fun _ action => TakesId action) serverStep .start trace state ∧
      returned trace = [(some 1, as_bytes "/long")] ∧
      (pushed trace).map announced = returned trace ++ state.queue.pending.map announced := by
  have replayed : ∃ trace state, replay serverStep .start
        [.arrive "/long" ⟨[], false⟩, .arrive "/b" ⟨[], false⟩, .handle_queued 0,
          .handle_queued 0, .handle_queued 0, .handle_queued 0, .handle_queued 0,
          .accept .valid ⟨.valid, 2, .valid⟩, .accept .valid ⟨.valid, 8, .valid⟩] =
        some (trace, state) ∧
      returned trace = [(some 1, as_bytes "/long")] := ⟨_, _, rfl, rfl⟩
  rcases replayed with ⟨trace, state, replayed, handedOut⟩
  have run : RunWhere (fun _ action => TakesId action) serverStep .start trace state := by
    apply runWhere_of_replay replayed
    simp [TakesId]
  exact ⟨trace, state, run, handedOut, (acceptance_is_first_come_first_served run).1⟩

end Zpr.GrpcServer
