import Zpr.GrpcServer.PendingLimit
import Zpr.GrpcServer.QueuedHost

namespace Zpr.GrpcServer

open Ffi

/-! # A host program in queued mode gets on

As long as the client has not been shown what it is to see at some stage of the program,
the client, the host or a task has a step to take that leads there. -/

/-- The steps from `live` to the end of a call. -/
def Server.callLeft (state : Server) (id : Nat) : Nat :=
  match state.queue.live.find? id with
  | some _ => 4
  | none => (state.removed.find? id).elim 0 fun removal => removal.stage.left

/-- The steps that are left in the place of an RPC. A step of `handle_queued` can put a
call into `live` or on `pending`. -/
def Server.rpcLeft (state : Server) (id : Nat) (rpc : Rpc) : Nat :=
  6 * rpc.arrival.left + rpc.pump.work + state.queue.pending.length + state.callLeft id

/-- What is left to do until the client has been shown what it is to see at `stage`. -/
def queuedLeft (program : HostProgram) (body : RequestBody) (stage index call_id : Nat)
    (trace : List (Action × Reply)) (state : Server) : Nat :=
  ((response program body.messages stage).length - (frames index trace).length) +
    ((historyAt program body.messages stage).length - (queuedEvents call_id trace).length) +
    (state.rpcs[index]?).elim 0 (state.rpcLeft call_id)

/-- A step that leads on. -/
def QueuedProgress (program : HostProgram) (body : RequestBody) (stage index call_id : Nat)
    (trace : List (Action × Reply)) (state : Server) : Prop :=
  ∃ action next reply after, ServesCall program call_id trace action ∧
    serverStep state action = some (next, reply) ∧ next.rpcs[index]? = some after ∧
    after.connected = true ∧ reapingsOf call_id (action, reply) = [] ∧
    queuedLeft program body stage index call_id (trace ++ [(action, reply)]) next <
      queuedLeft program body stage index call_id trace state

/-! ## The call is in line until it is accepted -/

section Line

variable {program : HostProgram} {call_id : Nat}

/-- The host has accepted the call, or can. -/
def InLine (id : Nat) (trace : List (Action × Reply)) (state : Server) : Prop :=
  id ∈ acceptedIds trace ∨ id ∈ state.queue.pending.map Prod.fst

theorem InLine.step (inLine : InLine call_id trace state)
    (serves : ServesCall program call_id trace action)
    (taken : serverStep state action = some (next, reply)) :
    InLine call_id (trace ++ [(action, reply)]) next := by
  rw [InLine, acceptedIds_next, List.mem_append]
  rcases inLine with accepted | waiting
  · exact .inl (.inl accepted)
  cases action with
  | accept out_call_id out_method =>
      rcases serverStep_accept_cases taken with
        ⟨rfl, _⟩ | ⟨id, path, pending, answer, held, rfl, rfl, handed, given⟩
      · exact .inr waiting
      · have allowed : out_call_id = .valid := serves
        rw [held, List.map_cons, List.mem_cons] at waiting
        rcases waiting with rfl | waiting
        · refine .inl (.inr ?_)
          simp [acceptedOf, handed, given, allowed, Pointer.store]
        · exact .inr waiting
  | handle_queued target =>
      rcases Server.handle_queued_cases taken with ⟨rpc, after, queue, _, handled, rfl, _⟩
      have stays : ∀ entry ∈ state.queue.pending, entry ∈ queue.pending := by
        intro entry member
        cases handled <;> simp [member]
      rcases List.mem_map.mp waiting with ⟨entry, member, rfl⟩
      exact .inr (List.mem_map_of_mem (stays entry member))
  | _ =>
      refine .inr ?_
      rw [serverStep_pending taken rfl]
      exact waiting

/-- `handle_queued` puts the call in line. -/
theorem inLine_of_inserted (inserted : state.arrivalAt target = some (.inserted ms call_id))
    (taken : serverStep state (.handle_queued target) = some (next, reply)) :
    call_id ∈ next.queue.pending.map Prod.fst := by
  rcases Server.handle_queued_cases taken with ⟨rpc, after, queue, known, handled, rfl, _⟩
  rw [Server.arrivalAt, known, Option.map_some, Option.some.injEq] at inserted
  cases handled with
  | pushes _ id arrival =>
      rw [arrival] at inserted
      cases inserted
      simp
  | refuses arrival | admits arrival | stamps arrival =>
      rw [arrival] at inserted
      cases inserted
  | draws _ arrival | inserts _ _ arrival =>
      rw [arrival] at inserted
      cases inserted

/-- A call that `handle_queued` has done with has been accepted or waits in `pending`. -/
theorem accepted_or_waiting
    (run : GuidedRun (ServesCall program call_id) serverStep .start trace state)
    (pushed : state.Pushed call_id) : InLine call_id trace state := by
  induction run with
  | start =>
      rcases pushed with ⟨index, ms, queued⟩
      simp [Server.arrivalAt, Server.start] at queued
  | next earlier serves taken induction =>
      rcases pushed_was taken pushed with was | ⟨target, ms, rfl, inserted⟩
      · exact (induction was).step serves taken
      · exact .inr (inLine_of_inserted inserted taken)

end Line

/-! ## The steps that lead on -/

section Steps

variable {program : HostProgram} {body : RequestBody} {stage index call_id : Nat}
  {trace : List (Action × Reply)} {state next : Server} {rpc after : Rpc} {action : Action}
  {reply : Reply}

/-- A step leads on that shows the client a frame or the program an event, or that leaves
less to do in the place of the RPC. -/
theorem QueuedProgress.of_step (known : state.rpcs[index]? = some rpc)
    (serves : ServesCall program call_id trace action)
    (taken : serverStep state action = some (next, reply))
    (found : next.rpcs[index]? = some after) (connected : after.connected = true)
    (notReaped : reapingsOf call_id (action, reply) = [])
    (place : next.rpcLeft call_id after ≤ state.rpcLeft call_id rpc)
    (leads : next.rpcLeft call_id after < state.rpcLeft call_id rpc ∨
      (framesOf index (action, reply) ≠ [] ∧
        (frames index trace).length < (response program body.messages stage).length) ∨
      (queuedEventsOf call_id (action, reply) ≠ [] ∧
        (queuedEvents call_id trace).length < (historyAt program body.messages stage).length)) :
    QueuedProgress program body stage index call_id trace state := by
  refine ⟨action, next, reply, after, serves, taken, found, connected, notReaped, ?_⟩
  simp only [queuedLeft, known, found, Option.elim_some, frames_next, queuedEvents_next,
    List.length_append]
  rcases leads with smaller | ⟨shows, behind⟩ | ⟨shows, behind⟩
  · omega
  · have positive := List.length_pos_iff.mpr shows
    omega
  · have positive := List.length_pos_iff.mpr shows
    omega

theorem QueuedProgress.of_ready {frame : Option Frame} {left : OutboundBody}
    (serving : Serving trace state index call_id body rpc) (running : state.running = true)
    (arrival : rpc.arrival = .queued ms call_id)
    (behind : (frames index trace).length < (response program body.messages stage).length)
    (ready : rpc.body.poll_frame = (left, .ready frame)) :
    QueuedProgress program body stage index call_id trace state := by
  have notStopped : ¬ state.running = false := by simp [running]
  have notGone : ¬ rpc.connected = false := by simp [serving.connected]
  let polled := state.update index fun rpc => { rpc with body := left }
  have taken : serverStep state (.poll_frame index) = some (polled, .polled (.ready frame)) := by
    show state.poll_frame index = _
    unfold Server.poll_frame
    rw [if_neg notStopped, serving.known]
    simp only [if_neg notGone, arrival, ready]
    rfl
  have found : polled.rpcs[index]? = some { rpc with body := left } := by
    simp [polled, Server.update_rpcs, serving.known]
  have serves : ServesCall program call_id trace (.poll_frame index) := trivial
  refine QueuedProgress.of_step serving.known serves taken found serving.connected rfl
    (Nat.le_refl _) (.inr (.inl ⟨?_, behind⟩))
  simp [framesOf]

/-- `handle_queued` gets on with the RPC. -/
theorem QueuedProgress.of_handling (serving : Serving trace state index call_id body rpc)
    (running : state.running = true) (consistent : state.Consistent)
    (unpushed : ∀ ms, rpc.arrival ≠ .queued ms call_id) :
    QueuedProgress program body stage index call_id trace state := by
  have serves : ServesCall program call_id trace (.handle_queued index) := trivial
  have drawn := serving.drawn
  rw [Server.idAt_of_rpc serving.known] at drawn
  have step : ∀ {handled : Rpc} {queue : CallQueue}, HandleStep state index rpc handled queue →
      handled.connected = true →
      Server.rpcLeft ({ state with queue := queue }.update index fun _ => handled) call_id handled <
        state.rpcLeft call_id rpc →
      QueuedProgress program body stage index call_id trace state := by
    intro handled queue handling connected smaller
    have found : ({ state with queue := queue }.update index fun _ => handled).rpcs[index]? =
        some handled := by
      simp [Server.update_rpcs, serving.known]
    exact QueuedProgress.of_step serving.known serves (handling.taken running serving.known) found
      connected rfl (Nat.le_of_lt smaller) (.inl smaller)
  cases arrival : rpc.arrival with
  | arrived | refused | admitted | stamped => simp [arrival, Arrival.id?] at drawn
  | numbered ms id =>
      simp only [arrival, Arrival.id?, Option.some.injEq] at drawn
      subst drawn
      have outside : state.enteredAt index = none := by
        rw [Server.enteredAt_of_rpc serving.known, arrival]
        rfl
      have absent := consistent.absent serving.drawn outside
      apply step (.inserts ms id arrival) serving.connected
      simp only [Server.rpcLeft, Server.callLeft, Server.update_queue, IdMap.find?_insert, absent.1,
        absent.2, arrival, Arrival.left, if_true, Option.elim_none]
      omega
  | inserted ms id =>
      simp only [arrival, Arrival.id?, Option.some.injEq] at drawn
      subst drawn
      apply step (.pushes ms id arrival) serving.connected
      simp only [Server.rpcLeft, Server.callLeft, Server.update_queue, arrival, Arrival.left,
        List.length_append, List.length_singleton]
      show 6 * 0 + rpc.pump.work + (state.queue.pending.length + 1) + state.callLeft id < _
      unfold Server.callLeft
      omega
  | queued ms id =>
      simp only [arrival, Arrival.id?, Option.some.injEq] at drawn
      subst drawn
      exact absurd arrival (unpushed ms)

/-- The host accepts the call that is first in line. -/
theorem QueuedProgress.of_waiting (serving : Serving trace state index call_id body rpc)
    (waiting : state.queue.pending ≠ []) :
    QueuedProgress program body stage index call_id trace state := by
  cases held : state.queue.pending with
  | nil => exact absurd held waiting
  | cons entry pending =>
      rcases entry with ⟨id, path⟩
      let buffer : Buffer := ⟨.valid, (as_bytes path).length, .valid⟩
      let queue := { state.queue with pending := pending, accepted := state.queue.accepted + 1 }
      let answer : AcceptReply := { copy_into (as_bytes path) buffer with
        rc := ZPR_CALL_MESSAGE, out_call_id := some id }
      have taken : serverStep state (.accept .valid buffer) =
          some ({ state with queue := queue }, .accepted answer) := by
        have fits : (copy_into (as_bytes path) buffer).rc = ZPR_OK := by
          simp [copy_into, buffer]
        simp [serverStep, zpr_grpc_accept, held, fits, queue, answer, Pointer.store]
      have serves : ServesCall program call_id trace (.accept .valid buffer) := rfl
      have smaller : Server.rpcLeft { state with queue := queue } call_id rpc <
          state.rpcLeft call_id rpc := by
        have shorter : pending.length < state.queue.pending.length := by simp [held]
        show 6 * rpc.arrival.left + rpc.pump.work + pending.length + state.callLeft call_id <
          6 * rpc.arrival.left + rpc.pump.work + state.queue.pending.length + state.callLeft call_id
        omega
      exact QueuedProgress.of_step serving.known serves taken serving.known serving.connected rfl
        (Nat.le_of_lt smaller) (.inl smaller)

/-- Neither `handle_queued`, nor the pump, nor the client has moved. -/
structure Rpc.Stays (rpc after : Rpc) : Prop where
  arrival : after.arrival = rpc.arrival
  pump : after.pump = rpc.pump
  connected : after.connected = rpc.connected

theorem stays_update {middle : Server} {target : Nat} {change : Rpc → Rpc}
    (earlier : ∃ before, middle.rpcs[index]? = some before ∧ rpc.Stays before)
    (same : ∀ rpc : Rpc, rpc.Stays (change rpc)) :
    ∃ after, (middle.update target change).rpcs[index]? = some after ∧ rpc.Stays after := by
  rcases earlier with ⟨before, known, stays⟩
  rw [Server.update_rpcs, known]
  split
  · have moved := same before
    exact ⟨_, rfl, moved.arrival.trans stays.arrival, moved.pump.trans stays.pump,
      moved.connected.trans stays.connected⟩
  · exact ⟨before, rfl, stays⟩

theorem advance_stays (taken : state.advance call_id = some (next, reply))
    (known : state.rpcs[index]? = some rpc) :
    ∃ after, next.rpcs[index]? = some after ∧ rpc.Stays after := by
  rcases Server.advance_cases taken with
    ⟨removal, _, _, ⟨_, rfl⟩ | ⟨_, rfl⟩ | ⟨_, rfl⟩⟩
  · cases status : removal.call.status_tx with
    | none => exact ⟨rpc, known, rfl, rfl, rfl⟩
    | some target => exact stays_update ⟨rpc, known, rfl, rfl, rfl⟩ fun _ => ⟨rfl, rfl, rfl⟩
  · exact ⟨rpc, known, rfl, rfl, rfl⟩
  · have received : ∃ after, (Server.update { state with removed := state.removed.erase call_id }
        removal.call.inbound_rx fun rpc =>
          { rpc with inbound := rpc.inbound.dropReceiver }).rpcs[index]? = some after ∧
        rpc.Stays after :=
      stays_update ⟨rpc, known, rfl, rfl, rfl⟩ fun _ => ⟨rfl, rfl, rfl⟩
    unfold Server.drop_call
    cases removal.call.status_tx with
    | none => exact stays_update received fun _ => ⟨rfl, rfl, rfl⟩
    | some target =>
        exact stays_update (stays_update received fun _ => ⟨rfl, rfl, rfl⟩) fun _ => ⟨rfl, rfl, rfl⟩

/-- Whoever has taken the call out of `live` goes on with it. -/
theorem QueuedProgress.of_removed (serving : Serving trace state index call_id body rpc)
    (notLive : state.queue.live.find? call_id = none)
    (held : state.removed.find? call_id = some removal) :
    QueuedProgress program body stage index call_id trace state := by
  rcases exists_advance held with ⟨next, taken, finishing, removed⟩
  rcases advance_stays taken serving.known with ⟨after, found, stays⟩
  have serves : ServesCall program call_id trace (.advance call_id) := trivial
  have connected := stays.connected.trans serving.connected
  have fewer : next.callLeft call_id < state.callLeft call_id := by
    simp only [Server.callLeft, finishing.live, notLive, held, removed, if_true, Option.elim_some]
    cases stage : removal.stage <;> simp [Removed.next?, stage, Stage.left]
  have smaller : next.rpcLeft call_id after < state.rpcLeft call_id rpc := by
    simp only [Server.rpcLeft, stays.arrival, stays.pump, (serverStep_apart taken rfl).pending]
    omega
  exact QueuedProgress.of_step serving.known serves taken found connected rfl (Nat.le_of_lt smaller)
    (.inl smaller)

/-- The pump runs. -/
theorem QueuedProgress.of_pump (serving : Serving trace state index call_id body rpc)
    (running : state.running = true) (working : rpc.pump.phase ≠ .finished)
    (empty : rpc.inbound.buffer = []) (room : 0 < rpc.inbound.capacity)
    (attended : rpc.inbound.receiverAlive = true) :
    QueuedProgress program body stage index call_id trace state := by
  rcases rpc.pump.step_of_room working empty room attended with ⟨pump, inbound, stepped, less, _⟩
  have notStopped : ¬ state.running = false := by simp [running]
  let pumped := state.update index fun rpc => { rpc with pump := pump, inbound := inbound }
  have taken : serverStep state (.pump_inbound index) = some (pumped, .silent) := by
    show state.pump_inbound index = _
    unfold Server.pump_inbound
    rw [if_neg notStopped, serving.known]
    simp only [stepped, Option.map_some]
    rfl
  have found : pumped.rpcs[index]? = some { rpc with pump := pump, inbound := inbound } := by
    simp [pumped, Server.update_rpcs, serving.known]
  have serves : ServesCall program call_id trace (.pump_inbound index) := trivial
  have smaller : pumped.rpcLeft call_id { rpc with pump := pump, inbound := inbound } <
      state.rpcLeft call_id rpc := by
    show 6 * rpc.arrival.left + pump.work + state.queue.pending.length + state.callLeft call_id <
      6 * rpc.arrival.left + rpc.pump.work + state.queue.pending.length + state.callLeft call_id
    omega
  exact QueuedProgress.of_step serving.known serves taken found serving.connected rfl
    (Nat.le_of_lt smaller) (.inl smaller)

end Steps

/-! ## The host's turn -/

/-- A call that has been accepted and not been finished, with all that was written to it
on its way to the client. -/
structure HostsTurn (program : HostProgram) (trace : List (Action × Reply)) (state : Server)
    (index call_id : Nat) (body : RequestBody) (rpc : Rpc) (call : LiveCall) : Prop where
  serving : Serving trace state index call_id body rpc
  accepted : call_id ∈ acceptedIds trace
  held : state.queue.live.find? call_id = some call
  inbound : call.inbound_rx = index
  outbound : call.outbound_tx = index
  empty : rpc.body.rx.buffer = []

section Turn

variable {program : HostProgram} {body : RequestBody} {stage index call_id : Nat}
  {trace : List (Action × Reply)} {state : Server} {rpc : Rpc} {call : LiveCall}

theorem QueuedProgress.of_read (turn : HostsTurn program trace state index call_id body rpc call)
    (reads : program (queuedEvents call_id trace) = .read)
    (behind : (queuedEvents call_id trace).length < (historyAt program body.messages stage).length)
    (told : (call.read_into rpc.inbound buffer).2.2.rc = ZPR_CALL_MESSAGE ∨
      (call.read_into rpc.inbound buffer).2.2.rc = ZPR_CALL_CLIENT_DONE) :
    QueuedProgress program body stage index call_id trace state := by
  let answered := call.read_into rpc.inbound buffer
  let next := Server.update { state with queue := { state.queue with
    live := state.queue.live.insert call_id answered.1 } } index fun rpc =>
      { rpc with inbound := answered.2.1 }
  have taken : serverStep state (.read_into call_id buffer) = some (next, .read answered.2.2) := by
    simp [serverStep, Server.call_read_into, turn.held, turn.inbound, turn.serving.known, next,
      answered]
  have found : next.rpcs[index]? = some { rpc with inbound := answered.2.1 } := by
    simp [next, Server.update_rpcs, turn.serving.known]
  have serves : ServesCall program call_id trace (.read_into call_id buffer) :=
    fun _ => ⟨turn.accepted, reads⟩
  have place : next.rpcLeft call_id { rpc with inbound := answered.2.1 } ≤
      state.rpcLeft call_id rpc := by
    simp [Server.rpcLeft, Server.callLeft, next, turn.held, IdMap.find?_insert]
  refine QueuedProgress.of_step turn.serving.known serves taken found turn.serving.connected rfl place
    (.inr (.inr ⟨?_, behind⟩))
  rcases told with message | done
  · simp [queuedEventsOf, answered, message]
  · simp [queuedEventsOf, answered, done, ZPR_CALL_MESSAGE, ZPR_CALL_CLIENT_DONE]

theorem QueuedProgress.of_write (turn : HostsTurn program trace state index call_id body rpc call)
    (writes : program (queuedEvents call_id trace) = .write msg)
    (behind : (queuedEvents call_id trace).length < (historyAt program body.messages stage).length)
    (room : 0 < rpc.body.rx.capacity) (alive : rpc.body.rx.receiverAlive = true) :
    QueuedProgress program body stage index call_id trace state := by
  let rx := { rpc.body.rx with buffer := [msg] }
  let next := state.update index fun rpc => { rpc with body := { rpc.body with rx := rx } }
  have sent : rpc.body.rx.trySend msg = (rx, .sent) := by
    simp [Channel.trySend, alive, room, turn.empty, rx]
  have taken : serverStep state (.write call_id .valid msg) =
      some (next, .returned ZPR_CALL_MESSAGE none) := by
    simp [serverStep, Server.call_write, turn.held, turn.outbound, turn.serving.known, sent, next]
  have found : next.rpcs[index]? = some { rpc with body := { rpc.body with rx := rx } } := by
    simp [next, Server.update_rpcs, turn.serving.known]
  have serves : ServesCall program call_id trace (.write call_id .valid msg) :=
    fun _ => ⟨turn.accepted, writes, fun _ => rfl⟩
  refine QueuedProgress.of_step turn.serving.known serves taken found turn.serving.connected rfl
    (Nat.le_refl _) (.inr (.inr ⟨?_, behind⟩))
  simp [queuedEventsOf]

theorem QueuedProgress.of_complete (turn : HostsTurn program trace state index call_id body rpc call)
    (nulFree : NulFree program)
    (finishes : program (queuedEvents call_id trace) = .finish status text) :
    QueuedProgress program body stage index call_id trace state := by
  let next := state.take .complete (status, text) [call_id]
  have told : Server.status_message (some (c_string text)) = .ok text :=
    status_message_of_text (nulFree _ _ _ finishes) (.inl rfl)
  have taken : serverStep state (.complete call_id status (some (c_string text))) =
      some (next, .returned ZPR_OK none) := by
    simp [serverStep, Server.call_complete, told, turn.held, next]
  have left : LeavesLive state next .complete (status, text) [call_id] := by
    apply Server.take_leavesLive
    intro id member
    cases List.mem_singleton.mp member
    exact ⟨call, turn.held⟩
  have serves : ServesCall program call_id trace (.complete call_id status (some (c_string text))) :=
    fun _ => ⟨turn.accepted, text, finishes, .inl rfl⟩
  have fewer : next.callLeft call_id < state.callLeft call_id := by
    simp [Server.callLeft, left.live, left.removed, turn.held, Stage.left]
  have smaller : next.rpcLeft call_id rpc < state.rpcLeft call_id rpc := by
    show 6 * rpc.arrival.left + rpc.pump.work + state.queue.pending.length + next.callLeft call_id <
      6 * rpc.arrival.left + rpc.pump.work + state.queue.pending.length + state.callLeft call_id
    omega
  exact QueuedProgress.of_step turn.serving.known serves taken turn.serving.known turn.serving.connected
    rfl (Nat.le_of_lt smaller) (.inl smaller)

/-- A host that asks for the next message gets one or is told that there is none, if need
be with a longer buffer or when the pump has run. -/
theorem QueuedProgress.of_asking (turn : HostsTurn program trace state index call_id body rpc call)
    (lossless : Lossless trace state) (connections : Connections state)
    (reads : program (queuedEvents call_id trace) = .read)
    (behind : (queuedEvents call_id trace).length < (historyAt program body.messages stage).length) :
    QueuedProgress program body stage index call_id trace state := by
  have serving := turn.serving
  cases held : call.pending_msg with
  | some msg =>
      have told : (call.read_into rpc.inbound ⟨.valid, msg.length, .valid⟩).2.2.rc =
          ZPR_CALL_MESSAGE := by
        simp [LiveCall.read_into, held, copy_into]
      exact QueuedProgress.of_read turn reads behind (.inl told)
  | none =>
      cases done : call.client_done with
      | true =>
          have told : (call.read_into rpc.inbound ⟨.valid, 0, .valid⟩).2.2.rc =
              ZPR_CALL_CLIENT_DONE := by
            simp [LiveCall.read_into, held, done]
          exact QueuedProgress.of_read turn reads behind (.inr told)
      | false =>
          rcases rpc.inbound.tryRecv_cases with
            ⟨msg, buffer, _, result⟩ | ⟨empty, alive, _⟩ | ⟨_, _, result⟩
          · have told : (call.read_into rpc.inbound ⟨.valid, msg.length, .valid⟩).2.2.rc =
                ZPR_CALL_MESSAGE := by
              simp [LiveCall.read_into, held, done, result, copy_into]
            exact QueuedProgress.of_read turn reads behind (.inl told)
          · rcases lossless.history_of_drawn serving.drawn with ⟨_, _, same, _, history⟩
            cases serving.known.symm.trans same
            have reading : (state.request index rpc).reading = .live call :=
              Server.reading_of_live lossless.consistent serving.drawn turn.held
            have attended : rpc.inbound.receiverAlive = true :=
              history.attended (by simp [reading])
            have working : rpc.pump.phase ≠ .finished := by
              intro finished
              have dead : rpc.inbound.senderAlive = false := history.closed.mpr finished
              rw [alive] at dead
              cases dead
            have room : 0 < rpc.inbound.capacity := by
              rw [(connections.room index rpc serving.known serving.notRefused).1]
              exact Nat.zero_lt_succ _
            exact QueuedProgress.of_pump serving (serving.running connections) working empty room attended
          · have told : (call.read_into rpc.inbound ⟨.valid, 0, .valid⟩).2.2.rc =
                ZPR_CALL_CLIENT_DONE := by
              simp [LiveCall.read_into, held, done, result]
            exact QueuedProgress.of_read turn reads behind (.inr told)

end Turn

section Progress

variable {program : HostProgram} {body : RequestBody} {stage index call_id : Nat}
  {trace : List (Action × Reply)} {state : Server} {rpc : Rpc} {call : LiveCall}

theorem buffer_of_pending {body : OutboundBody} (streaming : body.state = .streaming)
    (pending : body.poll_frame.2 = .pending) : body.rx.buffer = [] := by
  rcases body.poll_frame_spec with
    ⟨_, _, _, _, shows⟩ | ⟨_, empty, _⟩ | ⟨awaiting | ⟨_, empty, _⟩, _⟩ | ⟨done, _⟩
  · rw [shows] at pending
    cases pending
  · exact empty
  · rw [streaming] at awaiting
    cases awaiting
  · exact empty
  · rw [streaming] at done
    cases done

/-- Once nobody holds the call any more, a poll does not have to wait. -/
theorem not_pending_of_nobody {body : OutboundBody}
    (agrees : Holder.nobody.Agrees body removed) :
    body.poll_frame.2 ≠ .pending := by
  rcases agrees with ⟨outcome, _, dead, ended⟩
  rcases body.poll_frame_spec with
    ⟨_, _, _, _, shows⟩ | ⟨_, _, alive, _⟩ | ⟨atStatus, turns⟩ | ⟨_, ends⟩
  · simp [shows]
  · rw [dead] at alive
    cases alive
  · rcases ended with done | sent
    · simp [OutboundBody.AtStatus, done] at atStatus
    · have closes := turns.trans (OutboundBody.poll_status_of_sent sent)
      simp [closes]
  · simp [ends]

/-- The host goes on with its program when all of its messages have been shown. -/
theorem QueuedProgress.of_turn (nulFree : NulFree program)
    (run : GuidedRun (ServesCall program call_id) serverStep .start trace state)
    (turn : HostsTurn program trace state index call_id body rpc call)
    (behind : (frames index trace).length < (response program body.messages stage).length) :
    QueuedProgress program body stage index call_id trace state := by
  have serving := turn.serving
  have connections := connections_of_run run.run
  rcases queued_reached nulFree run serving with ⟨⟨now, reached⟩, _⟩
  rcases (explained_of_run run.run).history_of_drawn serving.drawn with ⟨_, same, history⟩
  cases serving.known.symm.trans same
  have holder : state.holderAt index = .live := by
    rcases (connections.consistent.live call_id call turn.held).1.entered with ⟨ms, entered⟩
    rw [turn.outbound] at entered
    simp [Server.holderAt, entered, turn.held]
  have agrees := history.agrees
  simp only [Server.response, holder, Holder.Agrees] at agrees
  rcases agrees with ⟨_, _, _, streaming⟩
  have delivered : Delivered rpc.body (writes call_id trace) (removals call_id trace)
    (frames index trace) := history.delivered serving.connected
  simp only [Delivered, streaming, turn.empty, List.map_nil, List.append_nil] at delivered
  have allShown := congrArg List.length delivered
  rw [List.length_map, ← messagesWritten_queuedEvents] at allShown
  rw [allShown] at behind
  cases decided : program (queuedEvents call_id trace) with
  | read =>
      have next : ∃ event, nextEvent program body.messages (queuedEvents call_id trace) =
          some event := by
        simp [nextEvent, decided]
      rcases next with ⟨event, next⟩
      exact QueuedProgress.of_asking turn (lossless_of_run run.run) connections decided
        (history_behind reached behind next)
  | write msg =>
      have alive : rpc.body.rx.receiverAlive = true := history.alive.trans serving.connected
      have room : 0 < rpc.body.rx.capacity := by
        rw [(connections.room index rpc serving.known serving.notRefused).2]
        exact Nat.zero_lt_succ _
      exact QueuedProgress.of_write turn decided
        (history_behind reached behind (nextEvent_of_write decided)) room alive
  | finish status text => exact QueuedProgress.of_complete turn nulFree decided

/-- A call in `live` is the host's, or the host can accept what is before it. -/
theorem QueuedProgress.of_live (nulFree : NulFree program)
    (run : GuidedRun (ServesCall program call_id) serverStep .start trace state)
    (serving : Serving trace state index call_id body rpc)
    (pushed : state.Pushed call_id) (held : state.queue.live.find? call_id = some call)
    (empty : rpc.body.rx.buffer = [])
    (behind : (frames index trace).length < (response program body.messages stage).length) :
    QueuedProgress program body stage index call_id trace state := by
  have consistent := (connections_of_run run.run).consistent
  rcases accepted_or_waiting run pushed with accepted | waiting
  · rcases (consistent.live call_id call held).1 with ⟨sameRpc, ms, entered⟩
    have own := consistent.distinct _ _ _ serving.drawn (Server.idAt_of_enteredAt entered)
    have turn : HostsTurn program trace state index call_id body rpc call :=
      ⟨serving, accepted, held, sameRpc.trans own.symm, own.symm, empty⟩
    exact QueuedProgress.of_turn nulFree run turn behind
  · apply QueuedProgress.of_waiting serving
    intro none
    simp [none] at waiting

/-- A client that has to wait for a call that has been pushed waits for the host, or for
whoever has taken the call out of `live`. -/
theorem QueuedProgress.of_pending (nulFree : NulFree program)
    (run : GuidedRun (ServesCall program call_id) serverStep .start trace state)
    (serving : Serving trace state index call_id body rpc)
    (arrival : rpc.arrival = .queued ms call_id) (pending : rpc.body.poll_frame.2 = .pending)
    (behind : (frames index trace).length < (response program body.messages stage).length) :
    QueuedProgress program body stage index call_id trace state := by
  have entered : state.enteredAt index = some (call_id, ms) := by
    rw [Server.enteredAt_of_rpc serving.known, arrival]
    rfl
  have pushed : state.Pushed call_id := by
    refine ⟨index, ms, ?_⟩
    rw [Server.arrivalAt, serving.known, Option.map_some, arrival]
  rcases (explained_of_run run.run).history_of_drawn serving.drawn with ⟨_, same, history⟩
  cases serving.known.symm.trans same
  have agrees := history.agrees
  simp only [Server.response, Server.holderAt, entered] at agrees
  cases live : state.queue.live.find? call_id with
  | some call =>
      simp only [live, Holder.Agrees] at agrees
      have empty := buffer_of_pending agrees.2.2.2 pending
      exact QueuedProgress.of_live nulFree run serving pushed live empty behind
  | none =>
      cases held : state.removed.find? call_id with
      | some removal => exact QueuedProgress.of_removed serving live held
      | none =>
          simp only [live, held] at agrees
          exact absurd pending (not_pending_of_nobody agrees)

theorem queued_progress (nulFree : NulFree program)
    (run : GuidedRun (ServesCall program call_id) serverStep .start trace state)
    (serving : Serving trace state index call_id body rpc)
    (behind : (frames index trace).length < (response program body.messages stage).length) :
    QueuedProgress program body stage index call_id trace state := by
  have connections := connections_of_run run.run
  have running := serving.running connections
  by_cases pushed : ∃ ms, rpc.arrival = .queued ms call_id
  · rcases pushed with ⟨ms, arrival⟩
    cases polled : rpc.body.poll_frame with
    | mk left poll =>
        cases poll with
        | ready frame => exact QueuedProgress.of_ready serving running arrival behind polled
        | pending =>
            have pending : rpc.body.poll_frame.2 = .pending := by rw [polled]
            exact QueuedProgress.of_pending nulFree run serving arrival pending behind
  · apply QueuedProgress.of_handling serving running connections.consistent
    intro ms arrival
    exact pushed ⟨ms, arrival⟩

/-- Whatever has happened to a call that is served, if its client is still there it can be
shown as much as the program of its host is to show it. -/
theorem exists_queued_extension (nulFree : NulFree program)
    (run : GuidedRun (ServesCall program call_id) serverStep .start trace state)
    (serving : Serving trace state index call_id body rpc) (stage : Nat) :
    ∃ later final after, GuidedRun (ServesCall program call_id) serverStep .start (trace ++ later)
        final ∧ Serving (trace ++ later) final index call_id body after ∧
      (response program body.messages stage).length ≤ (frames index (trace ++ later)).length := by
  have progress : ∀ trace state, GuidedRun (ServesCall program call_id) serverStep .start trace state →
      (∃ rpc, Serving trace state index call_id body rpc) →
      ¬ (response program body.messages stage).length ≤ (frames index trace).length →
      ∃ action next reply, ServesCall program call_id trace action ∧
        serverStep state action = some (next, reply) ∧
        (∃ after, Serving (trace ++ [(action, reply)]) next index call_id body after) ∧
        queuedLeft program body stage index call_id (trace ++ [(action, reply)]) next <
          queuedLeft program body stage index call_id trace state := by
    intro trace state run isServed unfinished
    rcases isServed with ⟨rpc, serving⟩
    rcases queued_progress nulFree run serving (Nat.lt_of_not_le unfinished) with
      ⟨action, next, reply, after, serves, taken, found, connected, notReaped, smaller⟩
    exact ⟨action, next, reply, serves, taken,
      ⟨after, serving.next (lossless_of_run run.run) taken found connected notReaped⟩, smaller⟩
  rcases GuidedRun.exists_extension (queuedLeft program body stage index call_id) progress run
    ⟨rpc, serving⟩ with ⟨later, final, guided, ⟨after, served⟩, longer⟩
  exact ⟨later, final, after, guided, served, longer⟩

end Progress

end Zpr.GrpcServer
