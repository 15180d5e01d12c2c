import Zpr.GrpcServer.RequestStream

namespace Zpr.GrpcServer

open Ffi

/-! # One request and its history

The request side of one RPC on its own: the pump, the channel and who reads from it.
The history of a request is the messages that the pump has sent and those that reads
have returned. -/

/-- What one step of the pump does to the channel. -/
structure PumpStep (pump : Pump) (tx : Channel Bytes) (next : Pump) (after : Channel Bytes)
    (sent : List Bytes) : Prop where
  working : pump.phase ≠ .finished
  buffer : after.buffer = tx.buffer ++ sent
  receiverAlive : after.receiverAlive = tx.receiverAlive
  closed : tx.senderAlive = true → (after.senderAlive = false ↔ next.phase = .finished)
  refused : tx.receiverAlive = false → sent = []

theorem Pump.step_spec {pump next : Pump} {tx after : Channel Bytes}
    (taken : pump.step tx = some (next, after)) : ∃ sent, PumpStep pump tx next after sent := by
  unfold Pump.step at taken
  cases phase : pump.phase with
  | finished => simp [phase] at taken
  | reading =>
      have working : pump.phase ≠ .finished := by simp [phase]
      cases frames : pump.body.frames with
      | nil =>
          simp only [phase, frames, Option.some.injEq, Prod.mk.injEq] at taken
          rcases taken with ⟨rfl, rfl⟩
          exact ⟨[], working, by simp, rfl, fun _ => by simp [Channel.dropSender], fun _ => rfl⟩
      | cons frame frames' =>
          cases frame with
          | other =>
              simp only [phase, frames, Option.some.injEq, Prod.mk.injEq] at taken
              rcases taken with ⟨rfl, rfl⟩
              exact ⟨[], working, by simp, rfl, fun alive => by simp [alive], fun _ => rfl⟩
          | data chunk =>
              simp only [phase, frames, Option.some.injEq, Prod.mk.injEq] at taken
              rcases taken with ⟨rfl, rfl⟩
              exact ⟨[], working, by simp, rfl, fun alive => by simp [alive, Pump.decode_phase],
                fun _ => rfl⟩
  | sending msg =>
      have working : pump.phase ≠ .finished := by simp [phase]
      rcases tx.trySend_cases msg with ⟨result, dead⟩ | ⟨result, alive, _⟩ | ⟨result, _, _⟩
      · simp only [phase, result, Option.some.injEq, Prod.mk.injEq] at taken
        rcases taken with ⟨rfl, rfl⟩
        exact ⟨[], working, by simp, rfl, fun _ => by simp [Channel.dropSender], fun _ => rfl⟩
      · simp only [phase, result, Option.some.injEq, Prod.mk.injEq] at taken
        rcases taken with ⟨rfl, rfl⟩
        exact ⟨[msg], working, rfl, rfl, fun _ => by simp_all [Pump.decode_phase], by simp [alive]⟩
      · simp [phase, result] at taken

/-- The outcomes of a read: what it returns, and what it leaves in the call and in the
channel. -/
inductive ReadStep (call : LiveCall) (inbound : Channel Bytes) :
    LiveCall → Channel Bytes → BufferReply → Prop
  | returnsHeld (msg : Bytes) (held : call.pending_msg = some msg) (reply : BufferReply)
      (told : reply.rc = ZPR_CALL_MESSAGE) (written : reply.written = msg) :
      ReadStep call inbound { call with pending_msg := none } inbound reply
  | returnsNext (msg : Bytes) (buffer : List Bytes) (nothing : call.pending_msg = none)
      (notDone : call.client_done = false) (next : inbound.buffer = msg :: buffer)
      (reply : BufferReply) (told : reply.rc = ZPR_CALL_MESSAGE) (written : reply.written = msg) :
      ReadStep call inbound call { inbound with buffer := buffer } reply
  | keepsHeld (msg : Bytes) (held : call.pending_msg = some msg) (reply : BufferReply)
      (failed : reply.rc ≠ ZPR_CALL_MESSAGE ∧ reply.rc ≠ ZPR_CALL_CLIENT_DONE) :
      ReadStep call inbound call inbound reply
  | holdsNext (msg : Bytes) (buffer : List Bytes) (nothing : call.pending_msg = none)
      (notDone : call.client_done = false) (next : inbound.buffer = msg :: buffer)
      (reply : BufferReply)
      (failed : reply.rc ≠ ZPR_CALL_MESSAGE ∧ reply.rc ≠ ZPR_CALL_CLIENT_DONE) :
      ReadStep call inbound { call with pending_msg := some msg } { inbound with buffer := buffer }
        reply
  | findsNothing (nothing : call.pending_msg = none) (notDone : call.client_done = false)
      (empty : inbound.buffer = []) (reply : BufferReply) (told : reply.rc = ZPR_CALL_NONE) :
      ReadStep call inbound call inbound reply
  | findsEnd (nothing : call.pending_msg = none)
      (ended : call.client_done = true ∨ inbound.buffer = [] ∧ inbound.senderAlive = false)
      (reply : BufferReply) (told : reply.rc = ZPR_CALL_CLIENT_DONE) :
      ReadStep call inbound { call with client_done := true } inbound reply

theorem LiveCall.readStep (call : LiveCall) (inbound : Channel Bytes) (buffer : Buffer) :
    ReadStep call inbound (call.read_into inbound buffer).1 (call.read_into inbound buffer).2.1
      (call.read_into inbound buffer).2.2 := by
  cases held : call.pending_msg with
  | some msg =>
      by_cases copied : (copy_into msg buffer).rc = ZPR_OK
      · simp only [LiveCall.read_into, held, copied, ne_eq, not_true_eq_false, if_false]
        exact .returnsHeld msg held _ rfl (copy_into_written_of_ok copied)
      · simp only [LiveCall.read_into, held, ne_eq, copied, not_false_eq_true, if_true]
        exact .keepsHeld msg held _
          ⟨copy_into_failed copied (by decide), copy_into_failed copied (by decide)⟩
  | none =>
      cases done : call.client_done with
      | true =>
          have outcome : call.read_into inbound buffer =
              ({ call with client_done := true }, inbound,
                { rc := ZPR_CALL_CLIENT_DONE, out_len := buffer.out_len.store 0,
                  written := [], last_error := none }) := by
            have same : call = { call with pending_msg := none, client_done := true } := by
              rw [← held, ← done]
            simp only [LiveCall.read_into, held, done, if_true]
            exact congrArg (·, _) same
          rw [outcome]
          exact .findsEnd held (.inl done) _ rfl
      | false =>
          rcases inbound.tryRecv_cases with
            ⟨msg, rest, next, received⟩ | ⟨empty, _, received⟩ | ⟨empty, dead, received⟩
          · by_cases copied : (copy_into msg buffer).rc = ZPR_OK
            · have outcome : call.read_into inbound buffer =
                  (call, { inbound with buffer := rest },
                    { copy_into msg buffer with rc := ZPR_CALL_MESSAGE }) := by
                simp [LiveCall.read_into, held, done, received, copied]
              rw [outcome]
              exact .returnsNext msg rest held done next _ rfl (copy_into_written_of_ok copied)
            · have outcome : call.read_into inbound buffer =
                  ({ call with pending_msg := some msg }, { inbound with buffer := rest },
                    copy_into msg buffer) := by
                simp [LiveCall.read_into, held, done, received, copied]
              rw [outcome]
              exact .holdsNext msg rest held done next _
                ⟨copy_into_failed copied (by decide), copy_into_failed copied (by decide)⟩
          · have outcome : call.read_into inbound buffer =
                (call, inbound, { rc := ZPR_CALL_NONE, out_len := buffer.out_len.store 0,
                                  written := [], last_error := none }) := by
              simp [LiveCall.read_into, held, done, received]
            rw [outcome]
            exact .findsNothing held done empty _ rfl
          · have outcome : call.read_into inbound buffer =
                ({ call with client_done := true }, inbound,
                  { rc := ZPR_CALL_CLIENT_DONE, out_len := buffer.out_len.store 0,
                    written := [], last_error := none }) := by
              simp [LiveCall.read_into, held, done, received]
            rw [outcome]
            exact .findsEnd held (.inr ⟨empty, dead⟩) _ rfl

/-! ## The history -/

/-- Who reads a request. -/
inductive Reading
  /-- nobody yet: the call is still to go into `live` -/
  | handler
  | live (call : LiveCall)
  /-- nobody any more -/
  | gone
  deriving DecidableEq, Repr

structure Request where
  reading : Reading
  pump : Pump
  inbound : Channel Bytes
  /-- the runtime, and with it the pump, has not been dropped -/
  running : Bool
  deriving DecidableEq, Repr

/-- One event in the life of a request, with the messages that it sends and those that
it returns. -/
inductive RequestChange (request : Request) : List Bytes → List Bytes → Request → Prop
  | same : RequestChange request [] [] request
  | entered (call : LiveCall) (reading : request.reading = .handler)
      (nothing : call.pending_msg = none) (notDone : call.client_done = false) :
      RequestChange request [] [] { request with reading := .live call }
  | pumped (pump : Pump) (inbound : Channel Bytes) (running : request.running = true)
      (stepped : request.pump.step request.inbound = some (pump, inbound)) :
      RequestChange request (inbound.buffer.drop request.inbound.buffer.length) []
        { request with pump := pump, inbound := inbound }
  | read (call read : LiveCall) (inbound : Channel Bytes) (reply : BufferReply)
      (reading : request.reading = .live call)
      (answered : ReadStep call request.inbound read inbound reply) :
      RequestChange request [] (if reply.rc = ZPR_CALL_MESSAGE then [reply.written] else [])
        { request with reading := .live read, inbound := inbound }
  | left (call : LiveCall) (reading : request.reading = .live call) :
      RequestChange request [] [] { request with reading := .gone }
  | dropped (reading : request.reading = .gone) :
      RequestChange request [] [] { request with inbound := request.inbound.dropReceiver }
  | stopped :
      RequestChange request [] [] { request with
        pump := { request.pump with phase := .finished }
        inbound := request.inbound.dropSender
        running := false }

/-- Where the messages sent are: returned, held by the call, or in the channel. -/
def Reading.Accounts (inbound : Channel Bytes) (sent returned : List Bytes) : Reading → Prop
  | .handler => returned = [] ∧ sent = inbound.buffer
  | .live call =>
      sent = returned ++ call.pending_msg.toList ++ inbound.buffer ∧
        (call.client_done = true →
          call.pending_msg = none ∧ inbound.buffer = [] ∧ inbound.senderAlive = false)
  | .gone => returned <+: sent

/-- The history of a request explains its state. -/
structure RequestHistory (request : Request) (messages sent returned : List Bytes) : Prop where
  closed : request.inbound.senderAlive = false ↔ request.pump.phase = .finished
  attended : request.reading ≠ .gone → request.inbound.receiverAlive = true
  pumped : request.inbound.receiverAlive = true → request.running = true →
    sent ++ request.pump.toSend = messages
  isPrefix : sent <+: messages
  accounts : request.reading.Accounts request.inbound sent returned

namespace RequestHistory

variable {request : Request} {messages sent returned : List Bytes}

theorem arrived (body : RequestBody) :
    RequestHistory ⟨.handler, .spawn body, .create 8, true⟩ (Pump.spawn body).toSend [] [] where
  closed := by simp [Channel.create, Pump.spawn]
  attended _ := rfl
  pumped _ _ := rfl
  isPrefix := List.nil_prefix
  accounts := ⟨rfl, rfl⟩

theorem step_pumped (history : RequestHistory request messages sent returned)
    (running : request.running = true)
    (stepped : request.pump.step request.inbound = some (pump, inbound)) :
    RequestHistory { request with pump := pump, inbound := inbound } messages
      (sent ++ inbound.buffer.drop request.inbound.buffer.length) returned := by
  rcases Pump.step_spec stepped with ⟨new, spec⟩
  have open_ : request.inbound.senderAlive = true := by
    apply Bool.of_not_eq_false
    intro dead
    exact spec.working (history.closed.mp dead)
  have added : inbound.buffer.drop request.inbound.buffer.length = new := by
    rw [spec.buffer, List.drop_left]
  rw [added]
  have pumped : request.inbound.receiverAlive = true →
      sent ++ new ++ pump.toSend = messages := by
    intro alive
    have moved := Pump.step_toSend alive stepped
    rw [spec.buffer, List.append_assoc, List.append_cancel_left_eq] at moved
    rw [List.append_assoc, moved]
    exact history.pumped alive running
  refine ⟨spec.closed open_, fun reading => ?_, fun alive _ => ?_, ?_, ?_⟩
  · rw [spec.receiverAlive]
    exact history.attended reading
  · rw [spec.receiverAlive] at alive
    exact pumped alive
  · cases alive : request.inbound.receiverAlive with
    | true => exact ⟨_, pumped alive⟩
    | false =>
        rw [spec.refused alive, List.append_nil]
        exact history.isPrefix
  · have accounts := history.accounts
    cases reading : request.reading with
    | handler =>
        rw [reading] at accounts
        rcases accounts with ⟨none, all⟩
        exact ⟨none, by rw [all, spec.buffer]⟩
    | live call =>
        rw [reading] at accounts
        rcases accounts with ⟨all, ended⟩
        refine ⟨by rw [all, spec.buffer, List.append_assoc], fun done => ?_⟩
        rw [(ended done).2.2] at open_
        cases open_
    | gone =>
        rw [reading] at accounts
        exact List.IsPrefix.trans accounts (List.prefix_append _ _)

theorem step_read {read : LiveCall} {reply : BufferReply}
    (history : RequestHistory request messages sent returned)
    (reading : request.reading = .live call)
    (answered : ReadStep call request.inbound read inbound reply) :
    RequestHistory { request with reading := .live read, inbound := inbound } messages sent
      (returned ++ if reply.rc = ZPR_CALL_MESSAGE then [reply.written] else []) := by
  have attended := history.attended (by simp [reading])
  have accounts := history.accounts
  rw [reading] at accounts
  rcases accounts with ⟨all, ended⟩
  have frame : inbound.senderAlive = request.inbound.senderAlive ∧
      inbound.receiverAlive = request.inbound.receiverAlive := by
    cases answered <;> exact ⟨rfl, rfl⟩
  refine ⟨?_, fun _ => ?_, fun alive running => ?_, history.isPrefix, ?_⟩
  · rw [frame.1]
    exact history.closed
  · rw [frame.2]
    exact attended
  · exact history.pumped attended running
  · cases answered with
    | returnsHeld msg held _ told written =>
        rw [if_pos told, written]
        refine ⟨by simp [all, held], fun done => ?_⟩
        rw [held] at ended
        cases (ended done).1
    | returnsNext msg buffer nothing notDone next _ told written =>
        rw [if_pos told, written]
        refine ⟨by simp [all, nothing, next], fun done => ?_⟩
        rw [notDone] at done
        cases done
    | keepsHeld msg held _ failed =>
        rw [if_neg failed.1, List.append_nil]
        exact ⟨all, ended⟩
    | holdsNext msg buffer nothing notDone next _ failed =>
        rw [if_neg failed.1, List.append_nil]
        refine ⟨by simp [all, nothing, next], fun done => ?_⟩
        rw [notDone] at done
        cases done
    | findsNothing nothing notDone empty _ told =>
        have notMessage : reply.rc ≠ ZPR_CALL_MESSAGE := by
          rw [told]
          decide
        rw [if_neg notMessage, List.append_nil]
        exact ⟨all, ended⟩
    | findsEnd nothing reached _ told =>
        have notMessage : reply.rc ≠ ZPR_CALL_MESSAGE := by
          rw [told]
          decide
        rw [if_neg notMessage, List.append_nil]
        refine ⟨all, fun _ => ⟨nothing, ?_⟩⟩
        rcases reached with done | ⟨empty, dead⟩
        · exact (ended done).2
        · exact ⟨empty, dead⟩

/-- Every event adds to the history what it sends and what it returns. -/
theorem step (history : RequestHistory request messages sent returned)
    (change : RequestChange request sentNow returnedNow next) :
    RequestHistory next messages (sent ++ sentNow) (returned ++ returnedNow) := by
  cases change with
  | pumped pump inbound running stepped =>
      rw [List.append_nil]
      exact history.step_pumped running stepped
  | read call read inbound reply reading answered =>
      rw [List.append_nil]
      exact history.step_read reading answered
  | same =>
      rw [List.append_nil, List.append_nil]
      exact history
  | entered call reading nothing notDone =>
      rw [List.append_nil, List.append_nil]
      have accounts := history.accounts
      rw [reading] at accounts
      refine ⟨history.closed, fun _ => history.attended (by simp [reading]), history.pumped,
        history.isPrefix, ?_⟩
      refine ⟨by simp [accounts.1, accounts.2, nothing], fun done => ?_⟩
      rw [notDone] at done
      cases done
  | left call reading =>
      rw [List.append_nil, List.append_nil]
      have accounts := history.accounts
      rw [reading] at accounts
      refine ⟨history.closed, fun gone => absurd rfl gone, history.pumped, history.isPrefix, ?_⟩
      exact ⟨_, by rw [accounts.1, List.append_assoc]⟩
  | dropped reading =>
      rw [List.append_nil, List.append_nil]
      have accounts := history.accounts
      refine ⟨history.closed, fun notGone => absurd reading notGone, fun alive => ?_,
        history.isPrefix, ?_⟩
      · cases alive
      · rw [reading] at accounts ⊢
        exact accounts
  | stopped =>
      rw [List.append_nil, List.append_nil]
      refine ⟨by simp [Channel.dropSender], history.attended, fun _ running => ?_,
        history.isPrefix, ?_⟩
      · cases running
      · have accounts := history.accounts
        cases reading : request.reading with
        | handler | gone =>
            rw [reading] at accounts
            exact accounts
        | live call =>
            rw [reading] at accounts
            exact ⟨accounts.1, fun done => ⟨(accounts.2 done).1, (accounts.2 done).2.1, rfl⟩⟩

theorem returned_prefix (history : RequestHistory request messages sent returned) :
    returned <+: sent := by
  have accounts := history.accounts
  cases reading : request.reading with
  | handler =>
      rw [reading] at accounts
      rw [accounts.1]
      exact List.nil_prefix
  | live call =>
      rw [reading] at accounts
      exact ⟨_, by rw [accounts.1, List.append_assoc]⟩
  | gone =>
      rw [reading] at accounts
      exact accounts

/-- A reader that has seen the end of the request stays at the end. -/
theorem done_stays {next : Request} (change : RequestChange request sentNow returnedNow next)
    (begun : request.reading ≠ .handler)
    (done : ∀ call, request.reading = .live call → call.client_done = true)
    (after : LiveCall) (reading : next.reading = .live after) : after.client_done = true := by
  cases change with
  | same | pumped | dropped | stopped => exact done after reading
  | left => cases reading
  | entered call handler => exact absurd handler begun
  | read call read inbound reply readingBefore answered =>
      cases reading
      have flag := done call readingBefore
      cases answered with
      | findsEnd => rfl
      | returnsHeld | returnsNext | keepsHeld | holdsNext | findsNothing => exact flag

end RequestHistory

end Zpr.GrpcServer
