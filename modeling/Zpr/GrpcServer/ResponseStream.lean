import Zpr.GrpcServer.CallInvariant
import Zpr.GrpcServer.ResponseHistory

namespace Zpr.GrpcServer

/-! # The responses of the queued server

Every step of the server is, for each single response, one of the events of
`ResponseChange` or nothing at all. -/

/-- The messages that an event writes to call `id`. -/
def writesOf (id : Nat) : Action × Reply → List Bytes
  | (.write call_id _ bytes, .returned rc _) =>
      if call_id = id ∧ rc = ZPR_CALL_MESSAGE then [bytes] else []
  | _ => []

/-- The answer that an event gets from polling the response body of an RPC. -/
def framesOf (index : Nat) : Action × Reply → List (Option Frame)
  | (.poll_frame rpc, .polled (.ready frame)) => if rpc = index then [frame] else []
  | _ => []

/-- The actions that reach a response body or one of its channels. -/
def Action.reachesBodies : Action → Bool
  | .poll_frame _ | .hang_up _ | .write _ _ _ | .advance _ | .server_stop => true
  | _ => false

namespace Server

def holderAt (state : Server) (index : Nat) : Holder :=
  match state.enteredAt index with
  | none => .handler
  | some (id, _) =>
      match state.queue.live.find? id with
      | some _ => .live
      | none =>
          match state.removed.find? id with
          | some removal => .remover removal.outcome (removal.stage != .taken)
          | none => .nobody

def response (state : Server) (index : Nat) (rpc : Rpc) : Response where
  holder := state.holderAt index
  connected := rpc.connected
  body := rpc.body

theorem holderAt_same (unchanged : SameCalls state next) (index : Nat) :
    next.holderAt index = state.holderAt index := by
  unfold holderAt
  rw [unchanged.enteredAt, unchanged.removed]
  cases entered : state.enteredAt index with
  | none => rfl
  | some entry =>
      have same := unchanged.live entry.1
      cases now : next.queue.live.find? entry.1 <;>
        cases before : state.queue.live.find? entry.1 <;> simp_all

theorem holderAt_draws (drawn : DrawsId state next index) (other : Nat) :
    next.holderAt other = state.holderAt other := by
  unfold holderAt
  rw [drawn.enteredAt, drawn.live, drawn.removed]

theorem holderAt_enters {id : Nat} (entered : EntersLive state next index ms id) :
    state.holderAt index = .handler ∧ next.holderAt index = .live := by
  constructor
  · simp [holderAt, entered.outside]
  · simp [holderAt, entered.enteredAt, entered.live, IdMap.find?_insert]

theorem holderAt_enters_other {id : Nat} (consistent : state.Consistent)
    (entered : EntersLive state next index ms id) (different : other ≠ index) :
    next.holderAt other = state.holderAt other := by
  unfold holderAt
  rw [entered.enteredAt, if_neg different, entered.removed, entered.live]
  cases entry : state.enteredAt other with
  | none => rfl
  | some entry' =>
      have drawn : state.idAt other = some entry'.1 := idAt_of_enteredAt entry
      have differentId : entry'.1 ≠ id := by
        intro equal
        rw [equal] at drawn
        exact different (consistent.distinct _ _ _ drawn entered.drawn)
      simp only [IdMap.find?_insert, if_neg differentId]

theorem holderAt_leaves {id : Nat} {ids : List Nat} (left : LeavesLive state next remover outcome ids)
    (entered : state.enteredAt index = some (id, ms)) (member : id ∈ ids) :
    state.holderAt index = .live ∧ next.holderAt index = .remover outcome false := by
  rcases left.held id member with ⟨call, held⟩
  constructor
  · simp [holderAt, entered, held]
  · simp [holderAt, left.enteredAt, entered, left.live, left.removed, member, held]

theorem holderAt_leaves_other {ids : List Nat}
    (left : LeavesLive state next remover outcome ids)
    (elsewhere : ∀ id ms, state.enteredAt index = some (id, ms) → id ∉ ids) :
    next.holderAt index = state.holderAt index := by
  unfold holderAt
  rw [left.enteredAt]
  cases entered : state.enteredAt index with
  | none => rfl
  | some entry =>
      have notTaken := elsewhere entry.1 entry.2 entered
      simp only [left.live, left.removed, if_neg notTaken]

theorem holderAt_goesOn {id : Nat} (consistent : state.Consistent)
    (moved : RemoverGoesOn state next id removal)
    (entered : state.enteredAt index = some (id, ms)) :
    state.holderAt index = .remover removal.outcome (removal.stage != .taken) ∧
      next.holderAt index = match removal.next? with
        | some after => .remover after.outcome (after.stage != .taken)
        | none => .nobody := by
  have notLive := consistent.not_live_of_removed moved.held
  constructor
  · simp [holderAt, entered, notLive, moved.held]
  · simp [holderAt, moved.enteredAt, entered, moved.live, notLive, moved.removed]

theorem holderAt_goesOn_other {id : Nat} (moved : RemoverGoesOn state next id removal)
    (elsewhere : ∀ ms, state.enteredAt index ≠ some (id, ms)) :
    next.holderAt index = state.holderAt index := by
  unfold holderAt
  rw [moved.enteredAt]
  cases entered : state.enteredAt index with
  | none => rfl
  | some entry =>
      have different : entry.1 ≠ id := by
        intro equal
        exact elsewhere entry.2 (by rw [entered, ← equal])
      simp only [moved.live, moved.removed, if_neg different]

/-- No response body is touched. -/
def SameBodies (state next : Server) : Prop :=
  ∀ (index : Nat) rpc after, state.rpcs[index]? = some rpc → next.rpcs[index]? = some after →
    after.body = rpc.body ∧ after.connected = rpc.connected

theorem sameBodies_of_rpcs {state next : Server} (rpcs : next.rpcs = state.rpcs) :
    SameBodies state next := by
  intro index rpc after known found
  rw [rpcs, known] at found
  cases found
  exact ⟨rfl, rfl⟩

theorem sameBodies_update {state middle : Server} (index : Nat) (change : Rpc → Rpc)
    (rpcs : middle.rpcs = state.rpcs)
    (same : ∀ rpc, (change rpc).body = rpc.body ∧ (change rpc).connected = rpc.connected) :
    SameBodies state (middle.update index change) := by
  intro other rpc after known found
  rw [← rpcs] at known
  rcases update_cases known found with ⟨_, rfl⟩ | ⟨_, rfl⟩
  · exact same rpc
  · exact ⟨rfl, rfl⟩

theorem sameBodies_arrive (state : Server) (new : Rpc) :
    SameBodies state { state with rpcs := state.rpcs ++ [new] } := by
  intro index rpc after known found
  have inside : index < state.rpcs.length := (List.getElem?_eq_some_iff.mp known).1
  rw [List.getElem?_append_left inside, known] at found
  cases found
  exact ⟨rfl, rfl⟩

theorem handle_queued_sameBodies {state : Server}
    (taken : state.handle_queued target = some (next, reply)) : SameBodies state next := by
  rcases handle_queued_cases taken with ⟨handling, handled, queue, targetKnown, step, rfl, rfl⟩
  intro index rpc after known found
  rcases update_cases known found with ⟨rfl, rfl⟩ | ⟨_, rfl⟩
  · cases known.symm.trans targetKnown
    cases step <;> exact ⟨rfl, rfl⟩
  · exact ⟨rfl, rfl⟩

theorem pump_inbound_sameBodies {state : Server}
    (taken : state.pump_inbound index = some (next, reply)) : SameBodies state next := by
  rcases pump_inbound_cases taken with ⟨rpc, pump, inbound, _, _, _, _, rfl⟩
  exact sameBodies_update _ _ rfl fun _ => ⟨rfl, rfl⟩

theorem call_read_into_sameBodies {state : Server}
    (taken : state.call_read_into call_id buffer = some (next, reply)) :
    SameBodies state next := by
  rcases call_read_into_cases taken with ⟨_, rfl, _⟩ | ⟨_, _, _, _, _, _, _, _, _, rfl⟩
  · exact sameBodies_of_rpcs rfl
  · exact sameBodies_update _ _ rfl fun _ => ⟨rfl, rfl⟩

/-- What the event did to the response of one RPC is an event of that response. -/
def Responds (state next : Server) (event : Action × Reply) (index : Nat) (rpc after : Rpc) :
    Prop :=
  ResponseChange (state.response index rpc)
    ((next.idAt index).elim [] fun id => writesOf id event)
    ((next.idAt index).elim [] fun id => removalsOf id event)
    (framesOf index event) (next.response index after)

theorem elim_quiet {Item : Type} {look : Nat → List Item} (quiet : ∀ id, look id = [])
    (id? : Option Nat) : id?.elim [] look = [] := by
  cases id? with
  | none => rfl
  | some id => exact quiet id

theorem responds_of_sameArrivals {rpc after : Rpc} (unchanged : SameArrivals state next)
    (quiet : ∀ id, removalsOf id event = [])
    (change : ResponseChange (state.response index rpc)
      ((state.idAt index).elim [] fun id => writesOf id event) [] (framesOf index event)
      { holder := state.holderAt index, connected := after.connected, body := after.body }) :
    state.Responds next event index rpc after := by
  unfold Responds
  have now : next.response index after =
      { holder := state.holderAt index, connected := after.connected, body := after.body } := by
    simp only [response, holderAt_same unchanged.sameCalls]
  rw [unchanged.sameCalls.idAt, elim_quiet quiet, now]
  exact change

/-- A call that is not among those taken out of `live` is removed with no outcome. -/
theorem unremoved_of_untaken {ids : List Nat} (consistent : state.Consistent)
    (left : LeavesLive state next remover outcome ids)
    (named : ∀ id, removalsOf id event = if id ∈ ids then [outcome] else [])
    (untaken : ¬ ∃ id ms, state.enteredAt index = some (id, ms) ∧ id ∈ ids) :
    (state.idAt index).elim [] (fun id => removalsOf id event) = [] := by
  cases drawn : state.idAt index with
  | none => rfl
  | some id =>
      rw [Option.elim_some, named, if_neg]
      intro member
      rcases left.held id member with ⟨call, held⟩
      rcases (consistent.live id call held).1.entered with ⟨ms, entered⟩
      have own := consistent.distinct _ _ _ drawn (idAt_of_enteredAt entered)
      rw [← own] at entered
      exact untaken ⟨id, ms, entered, member⟩

/-- A step that touches no body changes at most who holds the call. -/
theorem responds_of_sameBodies {rpc after : Rpc} (consistent : state.Consistent)
    (change : CallChange state next event) (elsewhere : event.1.reachesBodies = false)
    (noWrites : ∀ id, writesOf id event = []) (noFrames : framesOf index event = [])
    (same : SameBodies state next) (known : state.rpcs[index]? = some rpc)
    (found : next.rpcs[index]? = some after) :
    state.Responds next event index rpc after := by
  rcases same index rpc after known found with ⟨body, connected⟩
  unfold Responds response
  rw [elim_quiet noWrites, noFrames, body, connected]
  cases change with
  | same unchanged quiet =>
      rw [elim_quiet quiet, holderAt_same unchanged]
      exact .same
  | draws drawing drawn quiet =>
      rw [elim_quiet quiet, holderAt_draws drawn]
      exact .same
  | enters entering ms id entered quiet =>
      rw [elim_quiet quiet]
      by_cases own : index = entering
      · subst own
        rcases holderAt_enters entered with ⟨before, now⟩
        rw [now]
        have isHandler : (state.response index rpc).holder = .handler := before
        exact .entered isHandler
      · rw [holderAt_enters_other consistent entered own]
        exact .same
  | leaves remover outcome ids left named =>
      rw [left.idAt]
      by_cases taken : ∃ id ms, state.enteredAt index = some (id, ms) ∧ id ∈ ids
      · rcases taken with ⟨id, ms, entered, member⟩
        rcases holderAt_leaves left entered member with ⟨before, now⟩
        rw [idAt_of_enteredAt entered, Option.elim_some, named, if_pos member, now]
        have isLive : (state.response index rpc).holder = .live := before
        exact .taken outcome isLive
      · rw [unremoved_of_untaken consistent left named taken, holderAt_leaves_other left fun id ms entered member =>
          taken ⟨id, ms, entered, member⟩]
        exact .same
  | goesOn id removal moved advancing =>
      rw [advancing] at elsewhere
      cases elsewhere

theorem responds_of_quiet {rpc after : Rpc} (unchanged : SameArrivals state next)
    (noRemovals : ∀ id, removalsOf id event = []) (noWrites : ∀ id, writesOf id event = [])
    (change : ResponseChange (state.response index rpc) [] [] (framesOf index event)
      { holder := state.holderAt index, connected := after.connected, body := after.body }) :
    state.Responds next event index rpc after := by
  apply responds_of_sameArrivals unchanged noRemovals
  rw [elim_quiet noWrites]
  exact change

theorem framesOf_other {other : Nat} (different : other ≠ index) (poll : PollFrame) :
    framesOf index (.poll_frame other, .polled poll) = [] := by
  cases poll with
  | pending => rfl
  | ready frame => simp [framesOf, different]

theorem poll_frame_responds {state : Server} {rpc after : Rpc}
    (taken : state.poll_frame target = some (next, reply))
    (known : state.rpcs[index]? = some rpc) (found : next.rpcs[index]? = some after)
    (notRefused : after.arrival ≠ .refused) :
    state.Responds next (.poll_frame target, reply) index rpc after := by
  apply responds_of_quiet (poll_frame_calls taken) (fun _ => rfl) fun _ => rfl
  rcases poll_frame_cases taken with
    ⟨polled, _, targetKnown, connected, ⟨_, _, _, rfl, rfl⟩ | ⟨arrival, rfl, rfl⟩⟩
  · rcases update_cases known found with ⟨rfl, rfl⟩ | ⟨different, rfl⟩
    · cases known.symm.trans targetKnown
      cases result : rpc.body.poll_frame with
      | mk body poll =>
          cases poll with
          | pending => exact .waited body connected result
          | ready frame =>
              simp only [framesOf, if_true]
              exact .polled body frame connected result
    · rw [framesOf_other different]
      exact .same
  · rcases update_cases known found with ⟨rfl, rfl⟩ | ⟨different, rfl⟩
    · cases known.symm.trans targetKnown
      exact absurd arrival notRefused
    · rw [framesOf_other different]
      exact .same

theorem hang_up_responds {state : Server} {rpc after : Rpc}
    (taken : state.hang_up target = some (next, reply))
    (known : state.rpcs[index]? = some rpc) (found : next.rpcs[index]? = some after) :
    state.Responds next (.hang_up target, reply) index rpc after := by
  apply responds_of_quiet (hang_up_calls taken) (fun _ => rfl) fun _ => rfl
  rcases hang_up_cases taken with ⟨_, _, _, _, rfl⟩
  rcases update_cases known found with ⟨_, rfl⟩ | ⟨_, rfl⟩
  · exact .hungUp
  · exact .same

theorem server_stop_responds {state : Server} {rpc after : Rpc}
    (taken : state.server_stop = some (next, reply))
    (known : state.rpcs[index]? = some rpc) (found : next.rpcs[index]? = some after) :
    state.Responds next (.server_stop, reply) index rpc after := by
  apply responds_of_quiet (server_stop_calls taken) (fun _ => rfl) fun _ => rfl
  rcases server_stop_cases taken with ⟨_, _, _, _, _, rfl⟩
  simp only [List.getElem?_map, known, Option.map_some, Option.some.injEq] at found
  subst found
  exact .hungUp

theorem call_write_responds {state : Server} {rpc after : Rpc} (consistent : state.Consistent)
    (taken : state.call_write call_id data bytes = some (next, reply))
    (known : state.rpcs[index]? = some rpc) (found : next.rpcs[index]? = some after) :
    state.Responds next (.write call_id data bytes, reply) index rpc after := by
  apply responds_of_sameArrivals (call_write_calls taken) fun _ => rfl
  rcases call_write_cases taken with
    ⟨rc, error, rfl, failed, rfl⟩ | ⟨call, target, held, targetKnown, alive, rfl, rfl⟩
  · cases known.symm.trans found
    rw [elim_quiet fun id => by simp [writesOf, failed]]
    exact .same
  · rcases (consistent.live call_id call held).1.entered with ⟨ms, entered⟩
    have drawn := idAt_of_enteredAt entered
    rcases update_cases known found with ⟨rfl, rfl⟩ | ⟨different, rfl⟩
    · cases known.symm.trans targetKnown
      have isLive : (state.response call.outbound_tx rpc).holder = .live := by
        simp [response, holderAt, entered, held]
      rw [drawn]
      simp only [Option.elim_some, writesOf, and_self, if_true]
      exact .written bytes isLive alive
    · have noWrites : (state.idAt index).elim [] (fun id =>
          writesOf id (.write call_id data bytes, .returned ZPR_CALL_MESSAGE none)) = [] := by
        cases own : state.idAt index with
        | none => rfl
        | some id =>
            simp only [Option.elim_some, writesOf]
            rw [if_neg]
            intro same
            rw [← same.1] at own
            exact different (consistent.distinct _ _ _ drawn own)
      rw [noWrites]
      exact .same

/-- What the next step of its remover does to the response body of a call. -/
def bodyAfter (removal : Removed) (body : OutboundBody) : OutboundBody :=
  match removal.stage with
  | .taken => { body with status_rx := body.status_rx.send removal.outcome }
  | .answered => body
  | .counted => { body with rx := body.rx.dropSender }

theorem advance_bodies {state : Server} {rpc after : Rpc} (consistent : state.Consistent)
    (taken : state.advance call_id = some (next, reply))
    (held : state.removed.find? call_id = some removal)
    (known : state.rpcs[index]? = some rpc) (found : next.rpcs[index]? = some after) :
    after.connected = rpc.connected ∧
      after.body = if removal.call.outbound_tx = index then bodyAfter removal rpc.body
        else rpc.body := by
  rcases consistent.removed call_id removal held with ⟨owns, status⟩
  rcases advance_cases taken with
    ⟨other, heldOther, _, ⟨stage, rfl⟩ | ⟨stage, rfl⟩ | ⟨stage, rfl⟩⟩
  · cases held.symm.trans heldOther
    rw [stage, if_pos rfl] at status
    rw [status, send_status] at found
    rcases update_cases known found with ⟨own, rfl⟩ | ⟨different, rfl⟩
    · simp [own, bodyAfter, stage]
    · simp [different]
  · cases held.symm.trans heldOther
    cases known.symm.trans found
    simp [bodyAfter, stage]
  · cases held.symm.trans heldOther
    have noStatus : removal.call.status_tx = none := by simpa [stage] using status
    rcases drop_call_cases owns.inbound noStatus found known with ⟨own, rfl⟩ | ⟨different, rfl⟩
    · simp [own, bodyAfter, stage]
    · simp [different]

theorem advance_responds {state : Server} {rpc after : Rpc} (consistent : state.Consistent)
    (taken : state.advance call_id = some (next, reply))
    (known : state.rpcs[index]? = some rpc) (found : next.rpcs[index]? = some after) :
    state.Responds next (.advance call_id, reply) index rpc after := by
  rcases advance_goesOn taken with ⟨rfl, _, removal, moved⟩
  rcases advance_bodies consistent taken moved.held known found with ⟨connected, body⟩
  rcases (consistent.removed call_id removal moved.held).1.entered with ⟨ms, entered⟩
  have noWrites : ∀ id, writesOf id (.advance call_id, .silent) = [] := fun _ => rfl
  have noRemovals : ∀ id, removalsOf id (.advance call_id, .silent) = [] := fun _ => rfl
  unfold Responds
  rw [elim_quiet noWrites, elim_quiet noRemovals]
  by_cases own : removal.call.outbound_tx = index
  · subst own
    rw [if_pos rfl] at body
    rcases holderAt_goesOn consistent moved entered with ⟨before, now⟩
    cases stage : removal.stage with
    | taken =>
        simp only [stage, Removed.next?, bodyAfter, bne_self_eq_false] at before now body
        have isTaken : (state.response removal.call.outbound_tx rpc).holder =
            .remover removal.outcome false := before
        simp only [response, now, body, connected]
        exact .answered removal.outcome isTaken
    | answered =>
        simp only [stage, Removed.next?, bodyAfter] at before now body
        have unchanged : next.response removal.call.outbound_tx after =
            state.response removal.call.outbound_tx rpc := by
          simp only [response, before, now, body, connected]
          rfl
        rw [unchanged]
        exact .same
    | counted =>
        simp only [stage, Removed.next?, bodyAfter] at before now body
        have isAnswered : (state.response removal.call.outbound_tx rpc).holder =
            .remover removal.outcome true := before
        simp only [response, now, body, connected]
        exact .dropped removal.outcome isAnswered
  · rw [if_neg own] at body
    have elsewhere : ∀ ms, state.enteredAt index ≠ some (call_id, ms) := by
      intro ms' entered'
      exact own (consistent.distinct _ _ _ (idAt_of_enteredAt entered)
        (idAt_of_enteredAt entered'))
    have unchanged : next.response index after = state.response index rpc := by
      simp [response, holderAt_goesOn_other moved elsewhere, connected, body]
    rw [unchanged]
    exact .same

end Server

theorem Server.queue_configure_rpcs {state : Server}
    (taken : state.queue_configure max_pending deadline_ms = (next, reply)) :
    next.rpcs = state.rpcs := by
  rcases Server.queue_configure_cases taken with ⟨_, rfl, _⟩ | ⟨_, _, rfl⟩ <;> rfl

/-- The steps that touch no response body. -/
theorem serverStep_sameBodies (taken : serverStep state action = some (next, reply))
    (elsewhere : action.reachesBodies = false) : Server.SameBodies state next := by
  cases action with
  | poll_frame | hang_up | write | advance | server_stop => cases elsewhere
  | handle_queued index => exact Server.handle_queued_sameBodies taken
  | pump_inbound index => exact Server.pump_inbound_sameBodies taken
  | read_into call_id buffer => exact Server.call_read_into_sameBodies taken
  | arrive path body =>
      rcases serverStep_arrive_cases taken with ⟨_, rfl, _⟩
      exact Server.sameBodies_arrive state _
  | tick elapsed =>
      cases taken
      exact Server.sameBodies_of_rpcs rfl
  | accept out_call_id out_method =>
      cases taken
      exact Server.sameBodies_of_rpcs rfl
  | complete call_id grpc_status message =>
      exact Server.sameBodies_of_rpcs (Server.call_complete_rpcs (Option.some.inj taken))
  | configure max_pending deadline_ms =>
      exact Server.sameBodies_of_rpcs (Server.queue_configure_rpcs (Option.some.inj taken))
  | store_deadline position =>
      rcases Server.store_deadline_cases taken with ⟨deadline_ms, _, _, rfl⟩
      exact Server.sameBodies_of_rpcs rfl
  | reap_loop => exact Server.sameBodies_of_rpcs (Server.reap_loop_rpcs taken)
  | queue_free =>
      cases taken
      exact Server.sameBodies_of_rpcs rfl

/-- Every step of the server is one event, or none, of each single response. -/
theorem serverStep_responds {rpc after : Rpc} (consistent : state.Consistent)
    (taken : serverStep state action = some (next, reply))
    (known : state.rpcs[index]? = some rpc) (found : next.rpcs[index]? = some after)
    (notRefused : after.arrival ≠ .refused) :
    state.Responds next (action, reply) index rpc after := by
  have change := serverStep_calls taken
  cases action with
  | poll_frame target => exact Server.poll_frame_responds taken known found notRefused
  | hang_up target => exact Server.hang_up_responds taken known found
  | write call_id data bytes => exact Server.call_write_responds consistent taken known found
  | advance call_id => exact Server.advance_responds consistent taken known found
  | server_stop => exact Server.server_stop_responds taken known found
  | _ =>
      have same := serverStep_sameBodies taken rfl
      exact Server.responds_of_sameBodies consistent change rfl (fun _ => rfl) rfl same known found

end Zpr.GrpcServer
