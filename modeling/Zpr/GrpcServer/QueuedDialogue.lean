import Zpr.GrpcServer.Backpressure
import Zpr.GrpcServer.CallDialogue

namespace Zpr.GrpcServer

open Ffi

/-! # What is seen of a queued call

The dialogue of an RPC is read off the state of the server, whoever holds the call. What
the client and the host do is in the state what it is in the dialogue. -/

/-! ## The state of a call -/

/-- What has come in and can still be read. -/
def Reading.inbox (inbound : Channel Bytes) : Reading → List Bytes
  | .handler => inbound.buffer
  | .live call => call.pending_msg.toList ++ inbound.buffer
  | .gone => []

def Holder.fate (body : OutboundBody) : Holder → Fate (Int × String)
  | .handler | .live => .undecided
  | .remover outcome _ => .decided outcome
  | .nobody => body.fate

namespace Server

/-- The dialogue of an RPC; it has not begun where there is no such RPC. -/
def dialogue (state : Server) (index : Nat) : Dialogue Bytes (Int × String) :=
  match state.rpcs[index]? with
  | none => .opened
  | some rpc =>
      { inbox := (state.readingAt index).inbox rpc.inbound
        halfClosed := !rpc.inbound.senderAlive
        outbox := rpc.body.outbox
        connected := rpc.connected
        fate := (state.holderAt index).fate rpc.body }

/-- The client of an RPC sends nothing more. -/
def halfClosedAt (state : Server) (index : Nat) : Bool :=
  (state.rpcs[index]?).elim false fun rpc => !rpc.inbound.senderAlive

end Server

/-! ## The events of a call -/

def readOf (answer : BufferReply) : List CallEvent :=
  if answer.rc = ZPR_CALL_MESSAGE then [(.read, .message answer.written)]
  else if answer.rc = ZPR_CALL_NONE then [(.read, .nothing)]
  else if answer.rc = ZPR_CALL_CLIENT_DONE then [(.read, .ended)]
  else []

/-- A write that fails is seen where it fails for want of a client. -/
def writeOf (bytes : Bytes) (rc : Int) (last_error : Option String) : List CallEvent :=
  if rc = ZPR_CALL_MESSAGE then [(.write bytes, .taken)]
  else if rc = ZPR_CALL_NONE then [(.write bytes, .full)]
  else if last_error = some "the client hung up before this message was sent" then
    [(.write bytes, .gone)]
  else []

/-- The events of the call of one RPC. -/
def dialogueNote (index : Nat) : Note Server Action Reply CallEvent :=
  fun state action next reply =>
    match action, reply with
    | .pump_inbound target, _ =>
        if target = index then
          (if next.readingAt index ≠ .gone then
              (sentOf index state action next reply).map fun msg => (.arrive msg, .silent)
            else []) ++
            halfCloses (state.halfClosedAt index) (next.halfClosedAt index)
        else []
    | .poll_frame target, .polled poll => if target = index then [(.poll, pollOf poll)] else []
    | .hang_up target, _ => if target = index then [(.hangUp, .silent)] else []
    | .read_into call_id _, .read answer =>
        if next.idAt index = some call_id then readOf answer else []
    | .write call_id _ bytes, .returned rc last_error =>
        if next.idAt index = some call_id then writeOf bytes rc last_error else []
    | .advance call_id, _ =>
        -- the last step of the remover drops the call
        if next.idAt index = some call_id ∧ next.removed.find? call_id = none then
          [(.release, .silent)]
        else []
    | .server_stop, _ =>
        if index < state.rpcs.length then
          halfCloses (state.halfClosedAt index) (next.halfClosedAt index) ++ [(.hangUp, .silent)]
        else []
    | action, reply =>
        ((next.idAt index).elim [] fun id => removalsOf id (action, reply)).map fun outcome =>
          (.finish outcome, .silent)

/-- The call of an RPC as its two parties have seen it. -/
def dialogueTrace (index : Nat) (trace : List (Action × Reply)) : List CallEvent :=
  observe serverStep (dialogueNote index) .start (trace.map Prod.fst)

/-! ## What is known of a call -/

/-- The request and the response of an RPC that has not been refused. -/
structure Server.Known (state : Server) (index : Nat) (rpc : Rpc) : Prop where
  consistent : state.Consistent
  found : state.rpcs[index]? = some rpc
  closed : rpc.inbound.senderAlive = false ↔ rpc.pump.phase = .finished
  done : ∀ call, state.readingAt index = .live call → call.client_done = true →
    call.pending_msg = none ∧ rpc.inbound.buffer = [] ∧ rpc.inbound.senderAlive = false
  agrees : ∃ removals, (state.holderAt index).Agrees rpc.body removals
  alive : rpc.body.rx.receiverAlive = rpc.connected
  inRoom : rpc.inbound.capacity = 8
  outRoom : rpc.body.rx.capacity = 8

theorem known_of_run (run : RunWhere condition serverStep .start trace state)
    (found : state.rpcs[index]? = some rpc) (notRefused : rpc.arrival ≠ .refused) :
    state.Known index rpc := by
  have lossless := lossless_of_run run
  have explained := explained_of_run run
  have brought := List.getElem?_eq_getElem (lossless.arrived found)
  have requests := lossless.history index rpc _ found notRefused brought
  have responses := explained.history index rpc found notRefused
  have bounded := requests_of_run Request.Bounded.arrived
    (fun _ _ _ _ _ known change => Request.Bounded.step known change) run index rpc _ found
    notRefused brought
  refine ⟨lossless.consistent, found, requests.closed, fun call reading => ?_,
    ⟨_, responses.agrees⟩, responses.alive, bounded.capacity,
    (responses_bounded_of_run run index rpc found notRefused).1⟩
  have accounts := requests.accounts
  have isLive : (state.request index rpc).reading = .live call := reading
  rw [isLive] at accounts
  exact accounts.2

/-! ## What one step is seen as -/

theorem Reading.inbox_append {inbound other : Channel Bytes} {reading : Reading}
    (attended : reading ≠ .gone) (appended : other.buffer = inbound.buffer ++ [msg]) :
    reading.inbox other = reading.inbox inbound ++ [msg] := by
  cases reading with
  | handler => exact appended
  | live call => simp [inbox, appended]
  | gone => exact absurd rfl attended

theorem Reading.inbox_length_le (inbound : Channel Bytes) (reading : Reading) :
    (reading.inbox inbound).length ≤ inbound.buffer.length + 1 := by
  cases reading with
  | handler => exact Nat.le_succ _
  | live call =>
      simp only [inbox, List.length_append]
      cases call.pending_msg with
      | none => simp
      | some msg => simp [Nat.add_comm]
  | gone => exact Nat.zero_le _

theorem Reading.inbox_congr {inbound other : Channel Bytes} {reading : Reading}
    (same : inbound.buffer = other.buffer) : reading.inbox inbound = reading.inbox other := by
  cases reading with
  | handler => exact same
  | live call => simp [inbox, same]
  | gone => rfl

theorem Rpc.outbox_hangUp (rpc : Rpc) : rpc.hangUp.body.outbox = [] := by
  unfold OutboundBody.outbox
  split <;> rfl

theorem Rpc.fate_hangUp (rpc : Rpc) (holder : Holder) :
    holder.fate rpc.hangUp.body = holder.fate rpc.body := by
  cases holder <;> rfl

/-- A read that finds nothing has looked for it in the channel. -/
theorem LiveCall.read_into_nothing {call : LiveCall} {inbound : Channel Bytes} {buffer : Buffer}
    (told : (call.read_into inbound buffer).2.2.rc = ZPR_CALL_NONE) :
    call.pending_msg = none ∧ inbound.buffer = [] ∧ inbound.senderAlive = true := by
  cases held : call.pending_msg with
  | some msg =>
      by_cases copied : (copy_into msg buffer).rc = ZPR_OK
      · simp [LiveCall.read_into, held, copied, ZPR_CALL_MESSAGE, ZPR_CALL_NONE] at told
      · simp only [LiveCall.read_into, held, ne_eq, copied, not_false_eq_true, if_true] at told
        exact absurd told (copy_into_failed copied (by decide))
  | none =>
      cases done : call.client_done with
      | true =>
          simp [LiveCall.read_into, held, done, ZPR_CALL_CLIENT_DONE, ZPR_CALL_NONE] at told
      | false =>
          rcases inbound.tryRecv_cases with
            ⟨msg, rest, _, received⟩ | ⟨empty, alive, _⟩ | ⟨_, _, received⟩
          · by_cases copied : (copy_into msg buffer).rc = ZPR_OK
            · simp [LiveCall.read_into, held, done, received, copied, ZPR_CALL_MESSAGE,
                ZPR_CALL_NONE] at told
            · simp only [LiveCall.read_into, held, done, received, ne_eq, copied,
                not_false_eq_true, if_true] at told
              exact absurd told (copy_into_failed copied (by decide))
          · exact ⟨rfl, empty, alive⟩
          · simp [LiveCall.read_into, held, done, received, ZPR_CALL_CLIENT_DONE,
              ZPR_CALL_NONE] at told

/-- A read of a live call is answered as the dialogue answers it, or not seen at all. -/
theorem LiveCall.read_dialogue (call : LiveCall) (inbound : Channel Bytes) (buffer : Buffer)
    (done : call.client_done = true →
      call.pending_msg = none ∧ inbound.buffer = [] ∧ inbound.senderAlive = false)
    (outbox : List Bytes) (connected : Bool) :
    Run (dialogueStep callRules)
      ⟨(Reading.live call).inbox inbound, !inbound.senderAlive, outbox, connected, .undecided⟩
      (readOf (call.read_into inbound buffer).2.2)
      ⟨(Reading.live (call.read_into inbound buffer).1).inbox (call.read_into inbound buffer).2.1,
        !(call.read_into inbound buffer).2.1.senderAlive, outbox, connected, .undecided⟩ := by
  have outcome := call.readStep inbound buffer
  have nothing := @LiveCall.read_into_nothing call inbound buffer
  generalize call.read_into inbound buffer = result at outcome nothing
  rcases result with ⟨read, rest, reply⟩
  simp only at outcome nothing ⊢
  have unseen : reply.rc ≠ ZPR_CALL_MESSAGE ∧ reply.rc ≠ ZPR_CALL_CLIENT_DONE →
      reply.rc ≠ ZPR_CALL_NONE → readOf reply = [] := by
    intro failed found
    simp only [readOf, if_neg failed.1, if_neg found, if_neg failed.2]
  cases outcome with
  | returnsHeld msg held reply told written =>
      simp only [readOf, told, written, if_true]
      exact Run.single (by simp [dialogueStep, Dialogue.read, Reading.inbox, held])
  | returnsNext msg buffer empty _ next reply told written =>
      simp only [readOf, told, written, if_true]
      exact Run.single (by simp [dialogueStep, Dialogue.read, Reading.inbox, empty, next])
  | keepsHeld msg held reply failed =>
      rw [unseen failed fun told => by simp [held] at nothing; exact nothing told]
      exact .start
  | holdsNext msg buffer empty _ next reply failed =>
      rw [unseen failed fun told => by simp [next] at nothing; exact nothing told]
      simp only [Reading.inbox, empty, next]
      exact .start
  | findsNothing empty _ exhausted reply told =>
      rcases nothing told with ⟨_, _, alive⟩
      have seen : readOf reply = [(.read, .nothing)] := by
        simp [readOf, told, ZPR_CALL_NONE, ZPR_CALL_MESSAGE]
      rw [seen]
      exact Run.single (by
        simp [dialogueStep, Dialogue.read, Reading.inbox, empty, exhausted, alive])
  | findsEnd empty ended reply told =>
      have closed : inbound.buffer = [] ∧ inbound.senderAlive = false := by
        rcases ended with told | closed
        · exact (done told).2
        · exact closed
      have seen : readOf reply = [(.read, .ended)] := by
        simp [readOf, told, ZPR_CALL_NONE, ZPR_CALL_MESSAGE, ZPR_CALL_CLIENT_DONE]
      rw [seen]
      exact Run.single (by
        simp [dialogueStep, Dialogue.read, Reading.inbox, empty, closed.1, closed.2])

theorem noLiveCall_ne (call_id : Nat) :
    noLiveCall call_id ≠ "the client hung up before this message was sent" := by
  intro same
  have there : "the client hung up before this message was sent".toList.head? = some 't' := by
    decide
  have begins : "no live call with id ".toList = 'n' :: "o live call with id ".toList := by
    decide
  have parts : (noLiveCall call_id).toList =
      "no live call with id ".toList ++ (toString call_id).toList := String.toList_append
  rw [same, begins] at parts
  rw [parts, List.cons_append, List.head?_cons] at there
  exact absurd there (by decide)

namespace Server

variable {state next : Server} {index : Nat} {reply : Reply} {rpc after : Rpc}

/-- What a step is seen as leads from the one state of the call to the other. -/
def Speaks (state next : Server) (event : Action × Reply) (index : Nat) : Prop :=
  Run (dialogueStep callRules) (state.dialogue index)
    (dialogueNote index state event.1 next event.2) (next.dialogue index)

theorem dialogue_of_found (found : state.rpcs[index]? = some rpc) : state.dialogue index =
    { inbox := (state.readingAt index).inbox rpc.inbound
      halfClosed := !rpc.inbound.senderAlive
      outbox := rpc.body.outbox
      connected := rpc.connected
      fate := (state.holderAt index).fate rpc.body } := by
  simp only [dialogue, found]

theorem dialogue_same (known : state.rpcs[index]? = some rpc)
    (found : next.rpcs[index]? = some after)
    (reading : next.readingAt index = state.readingAt index)
    (holder : next.holderAt index = state.holderAt index) (inbound : after.inbound = rpc.inbound)
    (body : after.body = rpc.body) (connected : after.connected = rpc.connected) :
    next.dialogue index = state.dialogue index := by
  rw [dialogue_of_found found, dialogue_of_found known, reading, holder, inbound, body, connected]

theorem speaks_same {event : Action × Reply}
    (quiet : dialogueNote index state event.1 next event.2 = [])
    (same : next.dialogue index = state.dialogue index) : state.Speaks next event index := by
  rw [Speaks, quiet, same]
  exact .start

/-- A call that somebody may still read is undecided. -/
theorem fate_of_attended (attended : state.readingAt index ≠ .gone) (body : OutboundBody) :
    (state.holderAt index).fate body = .undecided := by
  unfold readingAt at attended
  unfold holderAt
  cases entered : state.enteredAt index with
  | none => rfl
  | some entry =>
      simp only [entered] at attended
      cases held : state.queue.live.find? entry.1 with
      | none => simp [held] at attended
      | some call => simp [held, Holder.fate]

theorem halfClosedAt_of_found (found : state.rpcs[index]? = some rpc) :
    state.halfClosedAt index = !rpc.inbound.senderAlive := by
  simp [halfClosedAt, found]

theorem pump_inbound_speaks (known : state.Known index rpc)
    (taken : state.pump_inbound target = some (next, reply))
    (found : next.rpcs[index]? = some after) :
    state.Speaks next (.pump_inbound target, reply) index := by
  have calls := (pump_inbound_calls taken).sameCalls
  have holder := holderAt_same calls index
  rcases pump_inbound_cases taken with
    ⟨pumping, pump, inbound, running, targetKnown, stepped, rfl, moved⟩
  have reading : next.readingAt index = state.readingAt index := by
    apply readingAt_congr (calls.enteredAt index)
    intro id ms _
    rw [moved, update_queue]
  have here := found
  rw [moved] at here
  rcases update_cases known.found here with ⟨rfl, rfl⟩ | ⟨different, rfl⟩
  · cases known.found.symm.trans targetKnown
    have working : rpc.pump.phase ≠ .finished := by
      rcases Pump.step_spec stepped with ⟨_, spec⟩
      exact spec.working
    have open_ : rpc.inbound.senderAlive = true := by
      apply Bool.of_not_eq_false
      intro dead
      exact working (known.closed.mp dead)
    have note : dialogueNote target state (.pump_inbound target) next .silent =
        (if state.readingAt target ≠ .gone then
            (inbound.buffer.drop rpc.inbound.buffer.length).map fun msg => (.arrive msg, .silent)
          else []) ++ halfCloses (!rpc.inbound.senderAlive) (!inbound.senderAlive) := by
      simp only [dialogueNote, if_true, halfClosedAt_of_found known.found,
        halfClosedAt_of_found found, sentOf, bufferAt, known.found, found, Option.elim_some, reading]
    rw [Speaks, note, dialogue_of_found found, dialogue_of_found known.found, reading, holder]
    apply pump_dialogue stepped open_ known.inRoom
      ((state.readingAt target).inbox_length_le rpc.inbound) Reading.inbox_congr
    · intro msg appended
      by_cases gone : state.readingAt target = .gone
      · rw [gone]
        rfl
      · rw [if_pos gone, Reading.inbox_append gone appended]
    · exact fun attended => fate_of_attended attended rpc.body
  · apply speaks_same
    · simp only [dialogueNote, if_neg different]
    · exact dialogue_same known.found found reading holder rfl rfl rfl

/-- A poll is answered as the dialogue answers it. -/
theorem poll_dialogue {holder : Holder} {body : OutboundBody}
    {removals : List (Int × String)} (agrees : holder.Agrees body removals)
    (inbox : List Bytes) (halfClosed : Bool) :
    (Dialogue.mk inbox halfClosed body.outbox true (holder.fate body)).poll callRules =
      some (Dialogue.mk inbox halfClosed body.poll_frame.1.outbox true
        (holder.fate body.poll_frame.1), pollOf body.poll_frame.2) := by
  rcases body.poll_frame_spec with
    ⟨msg, buffer, streaming, held, polled⟩ | ⟨streaming, empty, alive, polled⟩ |
    ⟨atStatus, polled⟩ | ⟨done, polled⟩
  · have same : holder.fate { body with rx := { body.rx with buffer := buffer } } =
        holder.fate body := by
      cases holder <;> rfl
    rw [polled]
    simp only [same]
    simp [Dialogue.poll, OutboundBody.outbox, streaming, held, pollOf, shown, callRules]
  · rw [polled]
    cases holder with
    | handler | live | remover =>
        simp [Dialogue.poll, OutboundBody.outbox, streaming, empty, Holder.fate, pollOf]
    | nobody =>
        rcases agrees with ⟨outcome, _, dropped, _⟩
        rw [alive] at dropped
        cases dropped
  · cases holder with
    | handler | live | remover =>
        rcases atStatus with awaiting | ⟨_, _, dead⟩
        · simp [Holder.Agrees, awaiting] at agrees
        · simp [Holder.Agrees, dead] at agrees
    | nobody =>
        rcases agrees with ⟨outcome, _, _, done | sent⟩
        · simp [OutboundBody.AtStatus, done] at atStatus
        · have answered := polled.trans (OutboundBody.poll_status_of_sent sent)
          rw [answered]
          have nothing : body.outbox = [] := by
            rcases atStatus with awaiting | ⟨streaming, empty, _⟩
            · simp [OutboundBody.outbox, awaiting]
            · simp [OutboundBody.outbox, streaming, empty]
          have unfinished : body.state ≠ .done := by
            rcases atStatus with awaiting | ⟨streaming, _⟩
            · simp [awaiting]
            · simp [streaming]
          rw [nothing]
          simp [Dialogue.poll, OutboundBody.outbox, Holder.fate, OutboundBody.fate, unfinished,
            sent, pollOf, callRules]
  · rw [polled]
    cases holder with
    | handler | live | remover => simp [Holder.Agrees, done] at agrees
    | nobody =>
        simp [Dialogue.poll, OutboundBody.outbox, Holder.fate, OutboundBody.fate, done, pollOf]

theorem poll_frame_speaks (known : state.Known index rpc) (notRefused : rpc.arrival ≠ .refused)
    (taken : state.poll_frame target = some (next, reply))
    (found : next.rpcs[index]? = some after) :
    state.Speaks next (.poll_frame target, reply) index := by
  have calls := (poll_frame_calls taken).sameCalls
  have holder := holderAt_same calls index
  have live : next.queue.live = state.queue.live := by
    rcases poll_frame_cases taken with ⟨_, _, _, _, ⟨_, _, _, _, rfl⟩ | ⟨_, _, rfl⟩⟩ <;> rfl
  have reading : next.readingAt index = state.readingAt index := by
    apply readingAt_congr (calls.enteredAt index)
    intro id ms _
    rw [live]
  rcases poll_frame_cases taken with
    ⟨polled, _, targetKnown, connected, ⟨_, _, _, rfl, moved⟩ | ⟨arrival, rfl, moved⟩⟩
  · have here := found
    rw [moved] at here
    rcases update_cases known.found here with ⟨rfl, rfl⟩ | ⟨different, rfl⟩
    · cases known.found.symm.trans targetKnown
      rcases known.agrees with ⟨removals, agrees⟩
      rw [Speaks, dialogue_of_found found, dialogue_of_found known.found, reading, holder,
        connected]
      simp only [dialogueNote, if_true]
      exact Run.single (poll_dialogue agrees _ _)
    · apply speaks_same
      · simp only [dialogueNote, if_neg different]
      · exact dialogue_same known.found found reading holder rfl rfl rfl
  · have here := found
    rw [moved] at here
    rcases update_cases known.found here with ⟨rfl, rfl⟩ | ⟨different, rfl⟩
    · cases known.found.symm.trans targetKnown
      exact absurd arrival notRefused
    · apply speaks_same
      · simp only [dialogueNote, if_neg different]
      · exact dialogue_same known.found found reading holder rfl rfl rfl

theorem hang_up_speaks (known : state.Known index rpc)
    (taken : state.hang_up target = some (next, reply))
    (found : next.rpcs[index]? = some after) :
    state.Speaks next (.hang_up target, reply) index := by
  have calls := (hang_up_calls taken).sameCalls
  have holder := holderAt_same calls index
  rcases hang_up_cases taken with ⟨_, _, _, rfl, moved⟩
  have reading : next.readingAt index = state.readingAt index := by
    apply readingAt_congr (calls.enteredAt index)
    intro id ms _
    rw [moved, update_queue]
  have here := found
  rw [moved] at here
  rcases update_cases known.found here with ⟨rfl, rfl⟩ | ⟨different, rfl⟩
  · rw [Speaks, dialogue_of_found found, dialogue_of_found known.found, reading, holder]
    simp only [dialogueNote, if_true]
    apply Run.single
    simp only [dialogueStep, Rpc.outbox_hangUp, Rpc.fate_hangUp]
    rfl
  · apply speaks_same
    · simp only [dialogueNote, if_neg different]
    · exact dialogue_same known.found found reading holder rfl rfl rfl

theorem read_into_speaks (known : state.Known index rpc)
    (taken : state.call_read_into call_id buffer = some (next, reply))
    (found : next.rpcs[index]? = some after) :
    state.Speaks next (.read_into call_id buffer, reply) index := by
  have calls := (call_read_into_calls taken).sameCalls
  have holder := holderAt_same calls index
  rcases call_read_into_cases taken with
    ⟨absent, rfl, rfl⟩ |
    ⟨call, target, read, inbound, answer, held, targetKnown, answered, rfl, moved⟩
  · apply speaks_same
    · simp [dialogueNote, readOf, ZPR_ERR, ZPR_CALL_MESSAGE, ZPR_CALL_NONE, ZPR_CALL_CLIENT_DONE]
    · rfl
  · rcases known.consistent.live call_id call held with ⟨owns, _, _⟩
    rcases owns with ⟨sameRpc, ms, entered⟩
    have here := found
    rw [moved] at here
    rcases update_cases known.found here with ⟨own, rfl⟩ | ⟨different, rfl⟩
    · subst own
      cases known.found.symm.trans targetKnown
      rw [← sameRpc] at entered
      have before : state.readingAt call.inbound_rx = .live call := by
        simp [readingAt, entered, held]
      have now : next.readingAt call.inbound_rx = .live read := by
        unfold readingAt
        rw [calls.enteredAt, entered, moved]
        simp [IdMap.find?_insert]
      have drawn : next.idAt call.inbound_rx = some call_id := by
        rw [calls.idAt]
        exact idAt_of_enteredAt entered
      have attended : state.readingAt call.inbound_rx ≠ .gone := by
        rw [before]
        exact Reading.noConfusion
      have undecided := fate_of_attended attended rpc.body
      have outcome := call.read_dialogue rpc.inbound buffer (known.done call before)
        rpc.body.outbox rpc.connected
      rw [answered] at outcome
      rw [Speaks, dialogue_of_found found, dialogue_of_found known.found, before, now, holder,
        undecided]
      simp only [dialogueNote, drawn, if_true]
      exact outcome
    · have apart : next.idAt index ≠ some call_id := by
        intro drawn
        rw [calls.idAt] at drawn
        apply different
        rw [sameRpc]
        exact known.consistent.distinct _ _ _ (idAt_of_enteredAt entered) drawn
      apply speaks_same
      · simp only [dialogueNote, if_neg apart]
      · refine dialogue_same known.found found ?_ holder rfl rfl rfl
        apply readingAt_congr (calls.enteredAt index)
        intro id ms' enteredHere
        rw [moved, update_queue, IdMap.find?_insert, if_neg]
        rintro rfl
        apply apart
        rw [calls.idAt]
        exact idAt_of_enteredAt enteredHere

/-- What a write answers, and when. -/
theorem call_write_answers (taken : state.call_write call_id data bytes = some (next, reply)) :
    (next = state ∧ ∃ error, reply = .returned ZPR_ERR (some error) ∧
      error ≠ "the client hung up before this message was sent") ∨
    ∃ call target, state.queue.live.find? call_id = some call ∧
      state.rpcs[call.outbound_tx]? = some target ∧
      ((target.body.rx.receiverAlive = false ∧ next = state ∧ reply =
          .returned ZPR_ERR (some "the client hung up before this message was sent")) ∨
        (target.body.rx.receiverAlive = true ∧
          target.body.rx.buffer.length < target.body.rx.capacity ∧
          reply = .returned ZPR_CALL_MESSAGE none ∧
          next = state.update call.outbound_tx fun rpc => { rpc with body := { rpc.body with
            rx := { target.body.rx with buffer := target.body.rx.buffer ++ [bytes] } } }) ∨
        (target.body.rx.receiverAlive = true ∧
          target.body.rx.capacity ≤ target.body.rx.buffer.length ∧ next = state ∧
          reply = .returned ZPR_CALL_NONE none)) := by
  unfold call_write at taken
  split at taken
  · cases taken
    exact .inl ⟨rfl, _, rfl, by decide⟩
  · split at taken
    · cases taken
      exact .inl ⟨rfl, _, rfl, noLiveCall_ne call_id⟩
    · rename_i call held
      rcases Option.map_eq_some_iff.mp taken with ⟨target, targetKnown, moved⟩
      refine .inr ⟨call, target, held, targetKnown, ?_⟩
      rcases target.body.rx.trySend_cases bytes with
        ⟨result, dead⟩ | ⟨result, alive, room⟩ | ⟨result, alive, full⟩
      · rw [result] at moved
        cases moved
        exact .inl ⟨dead, rfl, rfl⟩
      · rw [result] at moved
        cases moved
        exact .inr (.inl ⟨alive, room, rfl, rfl⟩)
      · rw [result] at moved
        cases moved
        exact .inr (.inr ⟨alive, full, rfl, rfl⟩)

/-- A write is answered as the dialogue answers it, unless it is no write to this call. -/
theorem call_write_speaks (known : state.Known index rpc)
    (taken : state.call_write call_id data bytes = some (next, reply))
    (found : next.rpcs[index]? = some after) :
    state.Speaks next (.write call_id data bytes, reply) index := by
  have calls := (call_write_calls taken).sameCalls
  have holder := holderAt_same calls index
  rcases call_write_answers taken with
    ⟨rfl, error, rfl, other⟩ | ⟨call, target, held, targetKnown, outcome⟩
  · apply speaks_same
    · have unseen : writeOf bytes ZPR_ERR (some error) = [] := by
        simp [writeOf, ZPR_ERR, ZPR_CALL_MESSAGE, ZPR_CALL_NONE, other]
      simp only [dialogueNote, unseen, ite_self]
    · rfl
  · rcases known.consistent.live call_id call held with ⟨⟨sameRpc, ms, entered⟩, _, _⟩
    by_cases own : call.outbound_tx = index
    · subst own
      cases known.found.symm.trans targetKnown
      have drawn : next.idAt call.outbound_tx = some call_id := by
        rw [calls.idAt]
        exact idAt_of_enteredAt entered
      have live : state.holderAt call.outbound_tx = .live := by
        simp [holderAt, entered, held]
      rcases known.agrees with ⟨removals, agrees⟩
      rw [live] at agrees
      have outbox : rpc.body.outbox = rpc.body.rx.buffer := if_pos agrees.2.2.2
      rcases outcome with ⟨dead, rfl, rfl⟩ | ⟨alive, room, rfl, moved⟩ | ⟨alive, full, rfl, rfl⟩
      · rw [known.alive] at dead
        rw [Speaks, dialogue_of_found known.found, live, dead]
        simp only [dialogueNote, drawn, if_true]
        exact Run.single (by simp [dialogueStep, Dialogue.write, Holder.fate])
      · rw [known.alive] at alive
        rw [known.outRoom] at room
        have reading : next.readingAt call.outbound_tx = state.readingAt call.outbound_tx := by
          apply readingAt_congr (calls.enteredAt call.outbound_tx)
          intro id ms' _
          rw [moved, update_queue]
        have here := found
        rw [moved] at here
        rcases update_cases known.found here with ⟨_, rfl⟩ | ⟨different, _⟩
        · rw [Speaks, dialogue_of_found found, dialogue_of_found known.found, reading, holder, live]
          simp only [dialogueNote, drawn, if_true, outbox, alive]
          simp only [OutboundBody.outbox, agrees.2.2.2, if_true]
          exact Run.single (by simp [dialogueStep, Dialogue.write, Holder.fate, callRules, room])
        · exact absurd rfl different
      · rw [known.alive] at alive
        rw [known.outRoom] at full
        rw [Speaks, dialogue_of_found known.found, live, alive, outbox]
        simp only [dialogueNote, drawn, if_true]
        have noRoom : ¬ rpc.body.rx.buffer.length < 8 := Nat.not_lt.mpr full
        exact Run.single (by simp [dialogueStep, Dialogue.write, Holder.fate, callRules, noRoom])
    · have apart : next.idAt index ≠ some call_id := by
        intro drawn
        rw [calls.idAt] at drawn
        exact own (known.consistent.distinct _ _ _ (idAt_of_enteredAt entered) drawn)
      rcases outcome with ⟨_, rfl, rfl⟩ | ⟨_, _, rfl, moved⟩ | ⟨_, _, rfl, rfl⟩
      · exact speaks_same (by exact if_neg apart) rfl
      · have here := found
        rw [moved] at here
        rcases update_cases known.found here with ⟨same, _⟩ | ⟨_, rfl⟩
        · exact absurd same own
        · refine speaks_same (by exact if_neg apart) ?_
          refine dialogue_same known.found found ?_ holder rfl rfl rfl
          apply readingAt_congr (calls.enteredAt index)
          intro id ms' _
          rw [moved, update_queue]
      · exact speaks_same (by exact if_neg apart) rfl

end Server

end Zpr.GrpcServer
