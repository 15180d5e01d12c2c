import Zpr.GrpcServer.QueuedDialogue

namespace Zpr.GrpcServer

open Ffi

/-! # The dialogues of the queued server

The rest of what happens to a call: it goes into `live`, is taken out of it and dropped, or
the server ends. Every run of the server is for each of its calls a run of a dialogue. -/

namespace Server

variable {state next : Server} {index : Nat} {reply : Reply} {rpc after : Rpc}

/-- The call of an RPC is finished when it is taken out of `live`. -/
theorem leaves_speaks {ids : List Nat} (known : state.Known index rpc)
    (left : LeavesLive state next remover outcome ids) (rpcs : next.rpcs = state.rpcs)
    (named : ∀ id, removalsOf id event = if id ∈ ids then [outcome] else [])
    (note : dialogueNote index state event.1 next event.2 =
      ((next.idAt index).elim [] fun id => removalsOf id event).map fun outcome =>
        (.finish outcome, .silent)) :
    state.Speaks next event index := by
  have found := known.found
  rw [← rpcs] at found
  by_cases taken : ∃ id ms, state.enteredAt index = some (id, ms) ∧ id ∈ ids
  · rcases taken with ⟨id, ms, entered, member⟩
    rcases left.held id member with ⟨call, held⟩
    rcases holderAt_leaves left entered member with ⟨before, now⟩
    have gone : next.readingAt index = .gone := by
      simp [readingAt, left.enteredAt, entered, left.live, member]
    rw [Speaks, note, left.idAt, idAt_of_enteredAt entered, Option.elim_some, named, if_pos member,
      dialogue_of_found found, dialogue_of_found known.found, before, now, gone]
    exact Run.single rfl
  · apply speaks_same
    · rw [note, left.idAt, unremoved_of_untaken known.consistent left named taken]
      rfl
    · refine dialogue_same known.found found ?_ ?_ rfl rfl rfl
      · apply readingAt_congr (left.enteredAt index)
        intro id ms entered
        rw [left.live, if_neg]
        intro member
        exact taken ⟨id, ms, entered, member⟩
      · exact holderAt_leaves_other left fun id ms entered member =>
          taken ⟨id, ms, entered, member⟩

/-- A remover that drops its call drops the receiver of its requests. -/
theorem advance_inbound (consistent : state.Consistent)
    (taken : state.advance call_id = some (next, reply))
    (removing : state.removed.find? call_id = some removal)
    (known : state.rpcs[index]? = some rpc) (found : next.rpcs[index]? = some after) :
    after.inbound = rpc.inbound ∨
      removal.call.outbound_tx = index ∧ after.inbound = rpc.inbound.dropReceiver := by
  rcases consistent.removed call_id removal removing with ⟨owns, status⟩
  rcases advance_cases taken with ⟨other, held, _, ⟨stage, rfl⟩ | ⟨stage, rfl⟩ | ⟨stage, rfl⟩⟩
  · cases removing.symm.trans held
    rw [stage, if_pos rfl] at status
    rw [status, send_status] at found
    rcases update_cases known found with ⟨_, rfl⟩ | ⟨_, rfl⟩ <;> exact .inl rfl
  · cases known.symm.trans found
    exact .inl rfl
  · cases removing.symm.trans held
    have noStatus : removal.call.status_tx = none := by simpa [stage] using status
    rcases drop_call_cases owns.inbound noStatus found known with ⟨own, rfl⟩ | ⟨_, rfl⟩
    · exact .inr ⟨own, rfl⟩
    · exact .inl rfl

/-- The outcome of a call is on its way to the client when its last holder drops it. -/
theorem advance_speaks (known : state.Known index rpc)
    (taken : state.advance call_id = some (next, reply))
    (found : next.rpcs[index]? = some after) :
    state.Speaks next (.advance call_id, reply) index := by
  rcases advance_goesOn taken with ⟨rfl, _, removal, moved⟩
  rcases advance_bodies known.consistent taken moved.held known.found found with ⟨connected, body⟩
  rcases (known.consistent.removed call_id removal moved.held).1.entered with ⟨ms, entered⟩
  have reading : next.readingAt index = state.readingAt index :=
    readingAt_congr (moved.enteredAt index) fun id ms _ => by rw [moved.live]
  have inbound := advance_inbound known.consistent taken moved.held known.found found
  have sender : after.inbound.senderAlive = rpc.inbound.senderAlive := by
    rcases inbound with same | ⟨_, dropped⟩
    · rw [same]
    · rw [dropped]
      rfl
  by_cases own : removal.call.outbound_tx = index
  · subst own
    rw [if_pos rfl] at body
    have gone : state.readingAt removal.call.outbound_tx = .gone := by
      simp [readingAt, entered, known.consistent.not_live_of_removed moved.held]
    have drawn : next.idAt removal.call.outbound_tx = some call_id := by
      rw [moved.idAt]
      exact idAt_of_enteredAt entered
    have left : next.removed.find? call_id = removal.next? := by
      rw [moved.removed, if_pos rfl]
    rcases holderAt_goesOn known.consistent moved entered with ⟨before, now⟩
    rcases known.agrees with ⟨removals, agrees⟩
    rw [before] at agrees
    rw [Speaks, dialogue_of_found found, dialogue_of_found known.found, reading, gone, before, now,
      sender, connected, body]
    cases stage : removal.stage with
    | taken =>
        simp only [dialogueNote, left, Removed.next?, stage, bodyAfter, reduceCtorEq, and_false,
          if_false]
        exact .start
    | answered =>
        simp only [dialogueNote, left, Removed.next?, stage, bodyAfter, reduceCtorEq, and_false,
          if_false]
        exact .start
    | counted =>
        rcases agrees with ⟨_, status, _, streaming⟩
        have sent : rpc.body.status_rx = .sent removal.outcome := by
          rw [status, stage]
          rfl
        simp only [dialogueNote, drawn, left, Removed.next?, stage, bodyAfter, and_self, if_true]
        apply Run.single
        simp [dialogueStep, Dialogue.release, Holder.fate, OutboundBody.fate, OutboundBody.outbox,
          streaming, sent, Channel.dropSender, Reading.inbox]
  · rw [if_neg own] at body
    have apart : next.idAt index ≠ some call_id := by
      intro drawn
      rw [moved.idAt] at drawn
      exact own (known.consistent.distinct _ _ _ (idAt_of_enteredAt entered) drawn)
    apply speaks_same
    · simp only [dialogueNote, apart, false_and, if_false]
    · have holder : next.holderAt index = state.holderAt index := by
        apply holderAt_goesOn_other moved
        intro ms' entered'
        exact own (known.consistent.distinct _ _ _ (idAt_of_enteredAt entered)
          (idAt_of_enteredAt entered'))
      rcases inbound with same | ⟨dropped, _⟩
      · exact dialogue_same known.found found reading holder same body connected
      · exact absurd dropped own

/-- The end of the server closes both sides of a call. -/
theorem server_stop_speaks (known : state.Known index rpc)
    (taken : state.server_stop = some (next, reply))
    (found : next.rpcs[index]? = some after) :
    state.Speaks next (.server_stop, reply) index := by
  have calls := (server_stop_calls taken).sameCalls
  have holder := holderAt_same calls index
  rcases server_stop_cases taken with ⟨_, _, _, _, rfl, moved⟩
  have reading : next.readingAt index = state.readingAt index := by
    apply readingAt_congr (calls.enteredAt index)
    intro id ms _
    rw [moved]
  have inside : index < state.rpcs.length := (List.getElem?_eq_some_iff.mp known.found).1
  have here := found
  rw [moved] at here
  simp only [List.getElem?_map, known.found, Option.map_some, Option.some.injEq] at here
  subst here
  have inbox : (state.readingAt index).inbox rpc.shutDown.inbound =
      (state.readingAt index).inbox rpc.inbound := Reading.inbox_congr rfl
  have outbox : rpc.shutDown.body.outbox = [] := rpc.outbox_hangUp
  have fate := rpc.fate_hangUp (state.holderAt index)
  rw [Speaks, dialogue_of_found found, dialogue_of_found known.found, reading, holder, inbox,
    outbox]
  simp only [dialogueNote, if_pos inside, halfClosedAt_of_found found,
    halfClosedAt_of_found known.found]
  have hungUp : Run (dialogueStep callRules)
      ⟨(state.readingAt index).inbox rpc.inbound, true, rpc.body.outbox, rpc.connected,
        (state.holderAt index).fate rpc.body⟩ [(.hangUp, .silent)]
      ⟨(state.readingAt index).inbox rpc.inbound, true, [], false,
        (state.holderAt index).fate rpc.shutDown.body⟩ := by
    apply Run.single
    rw [← fate]
    rfl
  cases alive : rpc.inbound.senderAlive with
  | true =>
      have halfClosed : Run (dialogueStep callRules)
          ⟨(state.readingAt index).inbox rpc.inbound, false, rpc.body.outbox, rpc.connected,
            (state.holderAt index).fate rpc.body⟩ [(.halfClose, .silent)]
          ⟨(state.readingAt index).inbox rpc.inbound, true, rpc.body.outbox, rpc.connected,
            (state.holderAt index).fate rpc.body⟩ := Run.single rfl
      exact halfClosed.append hungUp
  | false => exact hungUp

theorem holderAt_congr (entered : next.enteredAt index = state.enteredAt index)
    (live : next.queue.live = state.queue.live) (removed : next.removed = state.removed) :
    next.holderAt index = state.holderAt index := by
  unfold holderAt
  rw [entered, live, removed]

/-- A call goes into `live` with all that its handler has taken in for it. -/
theorem handle_queued_speaks (known : state.Known index rpc)
    (taken : state.handle_queued target = some (next, reply))
    (found : next.rpcs[index]? = some after) (notRefused : after.arrival ≠ .refused) :
    state.Speaks next (.handle_queued target, reply) index := by
  rcases handle_queued_cases taken with ⟨handling, handled, queue, targetKnown, step, moved, rfl⟩
  have quiet : dialogueNote index state (.handle_queued target) next .silent = [] := by
    simp only [dialogueNote, removalsOf, completionsOf]
    cases next.idAt index <;> rfl
  have same := handle_queued_sameBodies taken index rpc after known.found found
  -- all but the insertion leave `live` alone, and whether the RPC has entered
  have unentered : queue.live = state.queue.live →
      handled.arrival.entered? = handling.arrival.entered? → after.inbound = rpc.inbound →
      state.Speaks next (.handle_queued target, .silent) index := by
    intro live entry inbound
    have entered : next.enteredAt index = state.enteredAt index := by
      rw [moved]
      apply update_rpcs_bind { state with queue := queue } target
      intro other otherKnown
      cases targetKnown.symm.trans otherKnown
      exact entry
    have sameLive : next.queue.live = state.queue.live := by rw [moved, update_queue, live]
    apply speaks_same quiet
    refine dialogue_same known.found found ?_ ?_ inbound same.1 same.2
    · exact readingAt_congr entered fun _ _ _ => by rw [sameLive]
    · apply holderAt_congr entered sameLive
      rw [moved]
      rfl
  have here := found
  rw [moved] at here
  rcases update_cases known.found here with ⟨rfl, rfl⟩ | ⟨different, rfl⟩
  · cases known.found.symm.trans targetKnown
    cases step with
    | refuses => exact absurd rfl notRefused
    | admits arrival | stamps arrival =>
        exact unentered rfl (by simp [arrival, Arrival.entered?]) rfl
    | draws ms arrival | pushes ms id arrival =>
        exact unentered rfl (by simp [arrival, Arrival.entered?]) rfl
    | inserts ms id arrival =>
        have entered := entersLive_of_inserts known.found arrival
        rw [← moved] at entered
        rcases holderAt_enters entered with ⟨before, now⟩
        apply speaks_same quiet
        rw [dialogue_of_found found, dialogue_of_found known.found, before, now,
          readingAt_enters entered]
        simp [readingAt, entered.outside, Reading.inbox, LiveCall.admitted, Holder.fate]
  · cases step with
    | refuses arrival | admits arrival | stamps arrival =>
        exact unentered rfl (by simp [arrival, Arrival.entered?]) rfl
    | draws ms arrival | pushes ms id arrival =>
        exact unentered rfl (by simp [arrival, Arrival.entered?]) rfl
    | inserts ms id arrival =>
        have entered := entersLive_of_inserts targetKnown arrival
        rw [← moved] at entered
        have elsewhere := Ne.symm different
        apply speaks_same quiet
        exact dialogue_same known.found found
          (readingAt_enters_other known.consistent entered elsewhere)
          (holderAt_enters_other known.consistent entered elsewhere) rfl rfl rfl

/-- Nothing is seen of an RPC that has not arrived. -/
theorem dialogueNote_of_unknown
    (taken : serverStep state action = some (next, reply)) (unknown : state.rpcs[index]? = none)
    (stays : next.idAt index = none) : dialogueNote index state action next reply = [] := by
  have away : ∀ id : Nat, next.idAt index ≠ some id := by
    intro id drawn
    rw [stays] at drawn
    cases drawn
  cases action with
  | pump_inbound target =>
      apply if_neg
      rintro rfl
      simp [serverStep, Server.pump_inbound, unknown] at taken
  | poll_frame target =>
      have different : target ≠ index := by
        rintro rfl
        simp [serverStep, Server.poll_frame, unknown] at taken
      cases reply <;> simp [dialogueNote, different, stays]
  | hang_up target =>
      apply if_neg
      rintro rfl
      simp [serverStep, Server.hang_up, unknown] at taken
  | server_stop =>
      apply if_neg
      intro inside
      rw [List.getElem?_eq_getElem inside] at unknown
      cases unknown
  | advance call_id => exact if_neg fun seen => away _ seen.1
  | _ => cases reply <;> simp [dialogueNote, stays]

theorem dialogueNote_of_unremoved {event : Action × Reply}
    (note : dialogueNote index state event.1 next event.2 =
      ((next.idAt index).elim [] fun id => removalsOf id event).map fun outcome =>
        (.finish outcome, .silent))
    (quiet : ∀ id, removalsOf id event = []) :
    dialogueNote index state event.1 next event.2 = [] := by
  rw [note, elim_quiet quiet]
  rfl

theorem call_complete_speaks (known : state.Known index rpc)
    (taken : state.call_complete call_id grpc_status message = (next, reply)) :
    state.Speaks next (.complete call_id grpc_status message, reply) index := by
  rcases call_complete_cases taken with
    ⟨error, rfl, rfl, _⟩ | ⟨msg, call, parsed, held, rfl, rfl⟩
  · refine speaks_same (dialogueNote_of_unremoved rfl fun id => ?_) rfl
    simp only [removalsOf, completionsOf]
    split
    · exact if_neg fun completed => absurd completed.2 (by decide)
    · rfl
  · refine leaves_speaks known (take_leavesLive state .complete (grpc_status, msg) ?_) rfl ?_ rfl
    · intro id member
      cases List.mem_singleton.mp member
      exact ⟨call, held⟩
    · intro id
      simp [removalsOf, completionsOf, parsed, eq_comm]

theorem reap_loop_speaks (known : state.Known index rpc)
    (taken : state.reap_loop = some (next, reply)) :
    state.Speaks next (.reap_loop, reply) index := by
  rcases reap_loop_cases taken with ⟨rfl, rfl | rfl | rfl⟩ | ⟨now, _, rfl, rfl⟩
  · exact speaks_same (dialogueNote_of_unremoved rfl fun _ => rfl) rfl
  · exact speaks_same (dialogueNote_of_unremoved rfl fun _ => rfl) rfl
  · exact speaks_same (dialogueNote_of_unremoved rfl fun _ => rfl) rfl
  · refine leaves_speaks known
      { take_leavesLive { state with reaper := .waiting } .reaper reaperStatus ?_ with } rfl
      (fun _ => rfl) rfl
    intro id member
    rcases mem_expired.mp member with ⟨call, held, _⟩
    exact ⟨call, held⟩

theorem queue_free_speaks (known : state.Known index rpc) :
    state.Speaks state.queue_free.1 (.queue_free, state.queue_free.2) index :=
  leaves_speaks known
    (take_leavesLive state .free freeStatus fun _ member => IdMap.mem_keys.mp member) rfl
    (fun _ => rfl) rfl

/-- Every step of the server is for each single call what its two parties make of it. -/
theorem serverStep_speaks (known : state.Known index rpc)
    (taken : serverStep state action = some (next, reply))
    (found : next.rpcs[index]? = some after) (notRefused : after.arrival ≠ .refused) :
    state.Speaks next (action, reply) index := by
  have others : action.reachesRequests = false → action.movesCalls = false →
      SameBodies state next → dialogueNote index state action next reply =
        (((next.idAt index).elim [] fun id => removalsOf id (action, reply)).map fun outcome =>
          (.finish outcome, .silent)) →
      (∀ id, removalsOf id (action, reply) = []) → state.Speaks next (action, reply) index := by
    intro elsewhere unmoved bodies note quiet
    have same := serverStep_sameRequests taken elsewhere
    have calls := serverStep_sameCalls taken unmoved
    refine speaks_same (dialogueNote_of_unremoved note quiet) ?_
    refine dialogue_same known.found found ?_ (holderAt_same calls index)
      (same.rpcs index rpc after known.found found).2
      (bodies index rpc after known.found found).1 (bodies index rpc after known.found found).2
    apply readingAt_congr (calls.enteredAt index)
    intro id ms _
    rw [same.live]
  cases action with
  | handle_queued target => exact handle_queued_speaks known taken found notRefused
  | pump_inbound target => exact pump_inbound_speaks known taken found
  | poll_frame target =>
      exact poll_frame_speaks known
        (serverStep_notRefused taken known.found found notRefused) taken found
  | hang_up target => exact hang_up_speaks known taken found
  | read_into call_id buffer => exact read_into_speaks known taken found
  | write call_id data bytes => exact call_write_speaks known taken found
  | advance call_id => exact advance_speaks known taken found
  | server_stop => exact server_stop_speaks known taken found
  | complete call_id grpc_status message => exact call_complete_speaks known (Option.some.inj taken)
  | reap_loop => exact reap_loop_speaks known taken
  | queue_free =>
      cases taken
      exact queue_free_speaks known
  | tick | arrive | accept | configure | store_deadline =>
      exact others rfl rfl (serverStep_sameBodies taken rfl) rfl fun _ => rfl

/-- A call begins as its RPC arrives. -/
theorem arrive_speaks (taken : serverStep state action = some (next, reply))
    (unknown : state.rpcs[index]? = none) : state.Speaks next (action, reply) index := by
  have before : state.dialogue index = .opened := by simp only [dialogue, unknown]
  cases found : next.rpcs[index]? with
  | none =>
      apply speaks_same
      · exact dialogueNote_of_unknown taken unknown (by simp [idAt, found])
      · rw [before]
        simp only [dialogue, found]
  | some after =>
      rcases serverStep_new_rpc taken unknown found with ⟨path, body, rfl, rfl⟩
      have outside : next.enteredAt index = none := enteredAt_of_rpc found
      apply speaks_same
      · exact dialogueNote_of_unknown taken unknown (idAt_of_rpc found)
      · rw [before, dialogue_of_found found]
        simp only [readingAt, holderAt, outside]
        rfl

end Server

/-- What happens to a call, however it is interleaved with the rest of the server, is a
dialogue between a client and the host, unless the call is refused. -/
theorem queued_call_is_a_dialogue (run : Run serverStep .start trace state)
    (served : ∀ rpc, state.rpcs[index]? = some rpc → rpc.arrival ≠ .refused) :
    Run (dialogueStep callRules) .opened (dialogueTrace index trace) (state.dialogue index) := by
  refine RunWhere.refines (fun state => state.dialogue index)
    (fun state => ∀ rpc, state.rpcs[index]? = some rpc → rpc.arrival ≠ .refused)
    (fun {state action next reply} taken served rpc known => ?_)
    (fun {trace state action next reply} earlier _ taken served => ?_) run served
  · rcases serverStep_keeps_rpc taken known with ⟨after, found, _⟩
    exact serverStep_notRefused taken known found (served after found)
  · cases known : state.rpcs[index]? with
    | none => exact Server.arrive_speaks taken known
    | some rpc =>
        rcases serverStep_keeps_rpc taken known with ⟨after, found, _⟩
        have notRefused := served after found
        have before := serverStep_notRefused taken known found notRefused
        exact Server.serverStep_speaks (known_of_run earlier known before) taken found notRefused

end Zpr.GrpcServer
