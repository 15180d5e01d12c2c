import Zpr.GrpcServer.RequestSteps
import Zpr.GrpcServer.ResponseFrames

namespace Zpr.GrpcServer

open Ffi

/-! # Reads over a whole run

The histories of all requests, kept by every step of the server, and what they say
about the messages that the host gets to read. -/

def bodiesOf : Action × Reply → List RequestBody
  | (.arrive _ body, _) => [body]
  | _ => []

/-- The request bodies in the order of their arrival. -/
def bodies (trace : List (Action × Reply)) : List RequestBody := trace.flatMap bodiesOf

/-- The messages that the host has read from call `id`. -/
def delivered (id : Nat) (trace : List (Action × Reply)) : List Bytes :=
  trace.flatMap (deliveredOf id)

/-- The messages that the pump of an RPC has sent. -/
def sent (index : Nat) (trace : List (Action × Reply)) : List Bytes :=
  observe serverStep (sentOf index) .start (trace.map Prod.fst)

theorem delivered_next (id : Nat) (trace : List (Action × Reply)) (event : Action × Reply) :
    delivered id (trace ++ [event]) = delivered id trace ++ deliveredOf id event := by
  simp [delivered]

theorem bodies_next (trace : List (Action × Reply)) (event : Action × Reply) :
    bodies (trace ++ [event]) = bodies trace ++ bodiesOf event := by
  simp [bodies]

/-- An RPC arrives with its body, and no step takes an RPC away. -/
theorem serverStep_rpcs_length (taken : serverStep state action = some (next, reply)) :
    next.rpcs.length = state.rpcs.length + (bodiesOf (action, reply)).length := by
  have others : next.arrivals = state.arrivals → next.rpcs.length = state.rpcs.length := by
    intro same
    have lengths := congrArg List.length same
    simpa [Server.arrivals] using lengths
  cases action with
  | arrive path body =>
      rcases serverStep_arrive_cases taken with ⟨_, rfl, _⟩
      simp [bodiesOf]
  | handle_queued index =>
      rcases Server.handle_queued_cases taken with ⟨_, _, _, _, _, rfl, _⟩
      simp [Server.update, bodiesOf]
  | _ => exact others (serverStep_arrivals taken rfl)

/-- The history of every request that is not refused explains its state. -/
structure Lossless (trace : List (Action × Reply)) (state : Server) : Prop where
  consistent : state.Consistent
  undrawn : ∀ id, state.queue.next_id ≤ id → delivered id trace = []
  unseen : ∀ index, state.rpcs[index]? = none → sent index trace = []
  arrivals : state.rpcs.length = (bodies trace).length
  history : ∀ index rpc body, state.rpcs[index]? = some rpc → rpc.arrival ≠ .refused →
    (bodies trace)[index]? = some body →
    RequestHistory (state.request index rpc) body.messages (sent index trace)
      ((state.idAt index).elim [] fun id => delivered id trace)

namespace Lossless

theorem start : Lossless [] .start where
  consistent := .start
  undrawn _ _ := rfl
  unseen _ _ := rfl
  arrivals := rfl
  history index rpc body known := by simp [Server.start] at known

theorem arrived {index : Nat} (lossless : Lossless trace state)
    (known : state.rpcs[index]? = some rpc) : index < (bodies trace).length := by
  rw [← lossless.arrivals]
  exact (List.getElem?_eq_some_iff.mp known).1

/-- An RPC has the body that it arrived with. -/
theorem body_stays {index : Nat} (lossless : Lossless trace state)
    (known : state.rpcs[index]? = some rpc) (event : Action × Reply) :
    (bodies (trace ++ [event]))[index]? = (bodies trace)[index]? := by
  rw [bodies_next, List.getElem?_append_left (lossless.arrived known)]

theorem deliveredOf_of_absent {id : Nat} (taken : serverStep state action = some (next, reply))
    (absent : state.queue.live.find? id = none) : deliveredOf id (action, reply) = [] := by
  cases action with
  | read_into call_id buffer =>
      rcases Server.call_read_into_cases taken with
        ⟨_, rfl, rfl⟩ | ⟨call, _, _, _, answer, held, _, _, rfl, _⟩
      · simp [deliveredOf, ZPR_ERR, ZPR_CALL_MESSAGE]
      · rw [deliveredOf, if_neg]
        intro same
        rw [same.1, absent] at held
        cases held
  | _ => rfl

theorem sentOf_of_unknown (taken : serverStep state action = some (next, reply))
    (unknown : state.rpcs[index]? = none) : sentOf index state action next reply = [] := by
  cases action with
  | pump_inbound target =>
      rcases Server.pump_inbound_cases taken with ⟨rpc, _, _, _, known, _⟩
      rw [sentOf, if_neg]
      intro own
      rw [own, unknown] at known
      cases known
  | _ => rfl

theorem step (lossless : Lossless trace state)
    (run : RunWhere condition serverStep .start trace state)
    (taken : serverStep state action = some (next, reply)) :
    Lossless (trace ++ [(action, reply)]) next := by
  have change := serverStep_calls taken
  have sent_next : ∀ index, sent index (trace ++ [(action, reply)]) =
      sent index trace ++ sentOf index state action next reply :=
    fun index => observe_next run taken
  refine ⟨lossless.consistent.step change, fun id fresh => ?_, fun index unknown => ?_, ?_,
    fun index after body found notRefused brought => ?_⟩
  · have freshBefore := Nat.le_trans change.next_id_le fresh
    have absent := (lossless.consistent.absent_of_le freshBefore).1
    rw [delivered_next, lossless.undrawn id freshBefore, deliveredOf_of_absent taken absent]
    rfl
  · have unknownBefore := serverStep_unknown taken unknown
    rw [sent_next, lossless.unseen index unknownBefore, sentOf_of_unknown taken unknownBefore]
    rfl
  · rw [serverStep_rpcs_length taken, bodies_next, List.length_append, lossless.arrivals]
  · cases known : state.rpcs[index]? with
    | some rpc =>
        have wasNotRefused := serverStep_notRefused taken known found notRefused
        rw [lossless.body_stays known] at brought
        have before := lossless.history index rpc body known wasNotRefused brought
        have after := before.step
          (serverStep_requests lossless.consistent taken known found notRefused)
        rw [← Explained.elim_idAt change lossless.undrawn, ← Explained.elim_append] at after
        simpa only [sent_next, delivered_next] using after
    | none =>
        rcases serverStep_new_rpc taken known found with ⟨path, arrived, rfl, rfl⟩
        have undrawn : next.idAt index = none := Server.idAt_of_rpc found
        have outside : next.enteredAt index = none := Server.enteredAt_of_rpc found
        have running : next.running = true := by
          rcases serverStep_arrive_cases taken with ⟨running, rfl, _⟩
          exact running
        have atEnd : index = (bodies trace).length := by
          have beyond : (bodies trace).length ≤ index := by
            rw [← lossless.arrivals]
            exact List.getElem?_eq_none_iff.mp known
          have within := (List.getElem?_eq_some_iff.mp found).1
          rw [serverStep_rpcs_length taken, lossless.arrivals] at within
          simp only [bodiesOf, List.length_singleton] at within
          omega
        rw [bodies_next, atEnd, List.getElem?_append_right (Nat.le_refl _), Nat.sub_self] at brought
        cases brought
        rw [undrawn, sent_next, lossless.unseen index known]
        simp only [Server.request, Server.readingAt, outside, running]
        exact RequestHistory.arrived body

end Lossless

theorem lossless_of_run (run : RunWhere condition serverStep .start trace state) :
    Lossless trace state :=
  run.invariant Lossless .start fun earlier lossless _ taken => lossless.step earlier taken

/-- The history of the request of an RPC that has drawn an id. -/
theorem Lossless.history_of_drawn {id : Nat} (lossless : Lossless trace state)
    (drawn : state.idAt index = some id) : ∃ rpc body, state.rpcs[index]? = some rpc ∧
      (bodies trace)[index]? = some body ∧
      RequestHistory (state.request index rpc) body.messages (sent index trace)
        (delivered id trace) := by
  rcases Server.rpc_of_drawn drawn with ⟨rpc, known, notRefused⟩
  have brought := List.getElem?_eq_getElem (lossless.arrived known)
  have history := lossless.history index rpc _ known notRefused brought
  rw [drawn, Option.elim_some] at history
  exact ⟨rpc, _, known, brought, history⟩

theorem Server.reading_of_live {id : Nat} {state : Server} {rpc : Rpc}
    (consistent : state.Consistent) (drawn : state.idAt index = some id)
    (held : state.queue.live.find? id = some call) :
    (state.request index rpc).reading = .live call := by
  rcases (consistent.live id call held).1.entered with ⟨ms, entered⟩
  have own := consistent.distinct _ _ _ drawn (Server.idAt_of_enteredAt entered)
  rw [← own] at entered
  simp [Server.request, Server.readingAt, entered, held]

theorem Server.live_of_reading {id : Nat} {state : Server} {rpc : Rpc}
    (drawn : state.idAt index = some id) (reading : (state.request index rpc).reading = .live call) :
    state.queue.live.find? id = some call := by
  simp only [Server.request, Server.readingAt] at reading
  cases entered : state.enteredAt index with
  | none => simp [entered] at reading
  | some entry =>
      have same := drawn.symm.trans (Server.idAt_of_enteredAt entered)
      cases same
      simp only [entered] at reading
      cases held : state.queue.live.find? entry.1 with
      | none => simp [held] at reading
      | some other => simpa [held] using reading

/-! ## The end of a request -/

/-- Where the call is still in `live`, it has seen the end of its request. -/
def DoneIfLive (id : Nat) (state : Server) : Prop :=
  ∀ call, state.queue.live.find? id = some call → call.client_done = true

theorem doneIfLive_step {id : Nat} (lossless : Lossless trace state)
    (entered : state.enteredAt index = some (id, ms)) (done : DoneIfLive id state)
    (taken : serverStep state action = some (next, reply)) : DoneIfLive id next := by
  intro after heldAfter
  have change := serverStep_calls taken
  have drawn := Server.idAt_of_enteredAt entered
  have drawnAfter := Server.idAt_of_enteredAt (change.entered_stays entered)
  have consistentAfter := lossless.consistent.step change
  rcases Server.rpc_of_drawn drawn with ⟨rpc, known, _⟩
  rcases Server.rpc_of_drawn drawnAfter with ⟨rpcAfter, found, notRefused⟩
  have step := serverStep_requests lossless.consistent taken known found notRefused
  apply RequestHistory.done_stays step
  · simp only [Server.request, Server.readingAt, entered]
    split <;> simp
  · intro call reading
    exact done call (Server.live_of_reading drawn reading)
  · exact Server.reading_of_live consistentAfter drawnAfter heldAfter

/-- A call keeps the place that it has once entered. -/
theorem entered_of_run {entry : Nat × Nat} (entered : state.enteredAt index = some entry)
    (rest : RunWhere condition serverStep state later final) :
    final.enteredAt index = some entry := by
  apply rest.stateInvariant (fun state => state.enteredAt index = some entry) entered
  intro state action next reply before _ taken
  exact (serverStep_calls taken).entered_stays before

theorem doneIfLive_of_run {id : Nat} (run : RunWhere condition serverStep .start trace state)
    (entered : state.enteredAt index = some (id, ms)) (done : DoneIfLive id state)
    (rest : RunWhere other serverStep state later final) : DoneIfLive id final := by
  induction rest with
  | start => exact done
  | next earlier _ taken induction =>
      have soFar := (run.mono fun _ _ _ => trivial).append (earlier.mono fun _ _ _ => trivial)
      exact doneIfLive_step (lossless_of_run soFar) (entered_of_run entered earlier) induction taken

/-- A read that finds the end leaves the call with its flag set. -/
theorem read_into_done {id : Nat} (lossless : Lossless trace state)
    (drawn : state.idAt index = some id) (held : state.queue.live.find? id = some call)
    (taken : serverStep state (.read_into id buffer) = some (next, .read reply))
    (told : reply.rc = ZPR_CALL_CLIENT_DONE) (known : state.rpcs[index]? = some rpc) :
    DoneIfLive id next ∧ call.pending_msg = none ∧
      (call.client_done = true ∨ rpc.inbound.buffer = [] ∧ rpc.inbound.senderAlive = false) := by
  rcases Server.call_read_into_cases taken with
    ⟨absent, _⟩ | ⟨other, target, read, inbound, answer, heldOther, targetKnown, answered, equal,
      rfl⟩
  · rw [held] at absent
    cases absent
  · cases held.symm.trans heldOther
    cases equal
    rcases (lossless.consistent.live id call held).1 with ⟨sameRpc, ms, entered⟩
    have own := lossless.consistent.distinct _ _ _ drawn (Server.idAt_of_enteredAt entered)
    rw [sameRpc, ← own] at targetKnown
    cases known.symm.trans targetKnown
    have outcome := call.readStep rpc.inbound buffer
    rw [answered] at outcome
    cases outcome with
    | returnsHeld _ _ _ message | returnsNext _ _ _ _ _ _ message =>
        rw [told] at message
        cases message
    | keepsHeld _ _ _ failed | holdsNext _ _ _ _ _ _ failed => exact absurd told failed.2
    | findsNothing _ _ _ _ none =>
        rw [told] at none
        cases none
    | findsEnd nothing ended =>
        refine ⟨fun after heldAfter => ?_, nothing, ended⟩
        rw [Server.update_queue, IdMap.find?_insert, if_pos rfl] at heldAfter
        cases heldAfter
        rfl

/-- And every read of a call with its flag set finds the end. -/
theorem read_into_of_done {id : Nat} (lossless : Lossless trace state)
    (held : state.queue.live.find? id = some call) (done : call.client_done = true)
    (taken : serverStep state (.read_into id buffer) = some (next, .read reply)) :
    reply.rc = ZPR_CALL_CLIENT_DONE := by
  rcases (lossless.consistent.live id call held).1.entered with ⟨ms, entered⟩
  have drawn := Server.idAt_of_enteredAt entered
  rcases lossless.history_of_drawn drawn with ⟨rpc, body, known, brought, history⟩
  have accounts := history.accounts
  rw [Server.reading_of_live lossless.consistent drawn held] at accounts
  rcases Server.call_read_into_cases taken with
    ⟨absent, _⟩ | ⟨other, target, read, inbound, answer, heldOther, _, answered, equal, _⟩
  · rw [held] at absent
    cases absent
  · cases held.symm.trans heldOther
    cases equal
    have nothing := (accounts.2 done).1
    simp only [LiveCall.read_into, nothing, done, if_true, Prod.mk.injEq] at answered
    rw [← answered.2.2]

/-- When a call has seen the end of its request, all of the request has been returned. -/
theorem Lossless.all_of_done {id : Nat} (lossless : Lossless trace state)
    (drawn : state.idAt index = some id) (held : state.queue.live.find? id = some call)
    (known : state.rpcs[index]? = some rpc) (brought : (bodies trace)[index]? = some body)
    (nothing : call.pending_msg = none)
    (ended : call.client_done = true ∨ rpc.inbound.buffer = [] ∧ rpc.inbound.senderAlive = false) :
    delivered id trace = sent index trace ∧ rpc.pump.phase = .finished ∧
      (state.running = true → delivered id trace = body.messages) := by
  rcases lossless.history_of_drawn drawn with ⟨_, _, sameRpc, sameBody, history⟩
  cases known.symm.trans sameRpc
  cases brought.symm.trans sameBody
  have reading : (state.request index rpc).reading = .live call :=
    Server.reading_of_live lossless.consistent drawn held
  have accounts := history.accounts
  rw [reading] at accounts
  have empty : rpc.inbound.buffer = [] ∧ rpc.inbound.senderAlive = false := by
    rcases ended with flag | empty
    · exact (accounts.2 flag).2
    · exact empty
  have all : delivered id trace = sent index trace := by
    have whole := accounts.1
    simp only [Server.request, nothing, Option.toList_none, empty.1, List.append_nil] at whole
    exact whole.symm
  have finished : rpc.pump.phase = .finished := history.closed.mp empty.2
  refine ⟨all, finished, fun running => ?_⟩
  have attended := history.attended (by simp [reading])
  have pumped := history.pumped attended running
  simp only [Server.request, Pump.toSend, finished, List.append_nil] at pumped
  rw [all, pumped]

/-- However reads of any buffers and the pump's steps interleave: what the pump has sent
is what has been returned, then what the call holds, then what is in the channel; it is
the beginning of the messages of the request. The host is told that the client is done
only when all of it has been returned and the pump has ended, and from then on by every
read of the call. -/
theorem queued_reads_are_lossless (run : Run serverStep .start trace state)
    (drawn : state.idAt index = some call_id) :
    ∃ rpc body, state.rpcs[index]? = some rpc ∧ (bodies trace)[index]? = some body ∧
      delivered call_id trace <+: sent index trace ∧ sent index trace <+: body.messages ∧
      ∀ call, state.queue.live.find? call_id = some call →
        sent index trace =
          delivered call_id trace ++ call.pending_msg.toList ++ rpc.inbound.buffer ∧
        ∀ buffer next reply,
          serverStep state (.read_into call_id buffer) = some (next, .read reply) →
          reply.rc = ZPR_CALL_CLIENT_DONE →
            delivered call_id trace = sent index trace ∧ rpc.pump.phase = .finished ∧
            (state.running = true → delivered call_id trace = body.messages) ∧
            ∀ later final, Run serverStep next later final →
              ∀ still, final.queue.live.find? call_id = some still →
                ∀ again after answer,
                  serverStep final (.read_into call_id again) = some (after, .read answer) →
                  answer.rc = ZPR_CALL_CLIENT_DONE := by
  have lossless := lossless_of_run run
  rcases lossless.history_of_drawn drawn with ⟨rpc, body, known, brought, history⟩
  refine ⟨rpc, body, known, brought, history.returned_prefix, history.isPrefix,
    fun call held => ?_⟩
  have reading : (state.request index rpc).reading = .live call :=
    Server.reading_of_live lossless.consistent drawn held
  have accounts := history.accounts
  rw [reading] at accounts
  refine ⟨accounts.1, fun buffer next reply taken told => ?_⟩
  rcases read_into_done lossless drawn held taken told known with ⟨doneAfter, nothing, ended⟩
  rcases lossless.all_of_done drawn held known brought nothing ended with ⟨all, finished, whole⟩
  refine ⟨all, finished, whole, fun later final rest still heldStill again after answer
    answered => ?_⟩
  rcases (lossless.consistent.live call_id call held).1.entered with ⟨ms, entered⟩
  have enteredNext := (serverStep_calls taken).entered_stays entered
  have runNext : Run serverStep .start (trace ++ [(.read_into call_id buffer, .read reply)]) next :=
    Run.next run taken
  have done := doneIfLive_of_run runNext enteredNext doneAfter rest still heldStill
  exact read_into_of_done (lossless_of_run (runNext.append rest)) heldStill done answered

/-- A message read with a buffer that is too short, and then with one that is not. -/
theorem queued_reads_are_lossless_after_short_buffer : ∃ trace state rpc body call,
    Run serverStep .start trace state ∧ state.idAt 0 = some 1 ∧
      state.rpcs[0]? = some rpc ∧ (bodies trace)[0]? = some body ∧
      state.queue.live.find? 1 = some call ∧ delivered 1 trace = [[7, 8]] ∧
      sent 0 trace = delivered 1 trace ++ call.pending_msg.toList ++ rpc.inbound.buffer ∧
      ∃ next reply, serverStep state (.read_into 1 ⟨.valid, 8, .valid⟩) = some (next, .read reply) ∧
        reply.rc = ZPR_CALL_CLIENT_DONE ∧ delivered 1 trace = body.messages := by
  have replayed : ∃ trace state call next reply, replay serverStep .start
        [.arrive "/a" ⟨[.data [0, 0, 0, 0, 2, 7], .data [8]], false⟩, .handle_queued 0,
          .handle_queued 0, .handle_queued 0, .handle_queued 0, .handle_queued 0,
          .pump_inbound 0, .pump_inbound 0, .pump_inbound 0, .read_into 1 ⟨.valid, 1, .valid⟩,
          .pump_inbound 0, .read_into 1 ⟨.valid, 2, .valid⟩] = some (trace, state) ∧
      state.idAt 0 = some 1 ∧ state.running = true ∧
      state.queue.live.find? 1 = some call ∧ delivered 1 trace = [[7, 8]] ∧
      serverStep state (.read_into 1 ⟨.valid, 8, .valid⟩) = some (next, .read reply) ∧
      reply.rc = ZPR_CALL_CLIENT_DONE := ⟨_, _, _, _, _, rfl, rfl, rfl, rfl, rfl, rfl, rfl⟩
  rcases replayed with
    ⟨trace, state, call, next, reply, replayed, drawn, running, held, read, taken, told⟩
  have run := run_of_replay replayed
  rcases queued_reads_are_lossless run drawn with ⟨rpc, body, known, brought, _, _, accounts⟩
  rcases accounts call held with ⟨whole, ended⟩
  rcases ended _ next reply taken told with ⟨_, _, all, _⟩
  exact ⟨trace, state, rpc, body, call, run, drawn, known, brought, held, read, whole, next, reply,
    taken, told, all running⟩

end Zpr.GrpcServer
