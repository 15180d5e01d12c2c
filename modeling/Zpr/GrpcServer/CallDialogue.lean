import Zpr.Foundation.Dialogue
import Zpr.GrpcServer.OutboundBody
import Zpr.GrpcServer.RequestStream

namespace Zpr.GrpcServer

/-! # A call as its two parties see it

Of everything that happens on the server, a few events are seen of one call: a message of
the client's that comes in, what the host reads and writes, and what the client is shown.
They are those of a dialogue, and the answers are the answers that a dialogue gives. -/

/-- The rules of every call of this server. A read into a buffer that is too short makes
room for one message more than the channel holds. -/
def callRules : DialogueRules Bytes (Int × String) Frame where
  inRoom := 9
  outRoom := 8
  data msg := .data (encode_grpc_frame msg)
  trailers outcome := .trailers (trailers outcome.1 outcome.2)

abbrev CallEvent := DialogueAction Bytes (Int × String) × DialogueReply Bytes Frame

/-- The messages that polling the response is still to show. -/
def OutboundBody.outbox (body : OutboundBody) : List Bytes :=
  if body.state = .streaming then body.rx.buffer else []

/-- The fate of a call that nobody holds any more. -/
def OutboundBody.fate (body : OutboundBody) : Fate (Int × String) :=
  if body.state = .done then
    .told
  else
    match body.status_rx with
    | .sent outcome => .released outcome
    | _ => .undecided

def pollOf : PollFrame → DialogueReply Bytes Frame
  | .ready (some frame) => .shown frame
  | .ready none => .closed
  | .pending => .pending

def halfCloses (before after : Bool) : List CallEvent :=
  if before = false ∧ after = true then [(.halfClose, .silent)] else []

/-- The pump leaves the channel's messages alone, or adds one where there is room. -/
theorem Pump.step_moves {pump next : Pump} {tx after : Channel Bytes}
    (taken : pump.step tx = some (next, after)) :
    after.buffer = tx.buffer ∧ (after.senderAlive = tx.senderAlive ∨ after.senderAlive = false) ∨
      ∃ msg, after.buffer = tx.buffer ++ [msg] ∧ after.senderAlive = tx.senderAlive ∧
        tx.buffer.length < tx.capacity := by
  unfold Pump.step at taken
  cases phase : pump.phase with
  | finished => simp [phase] at taken
  | reading =>
      simp only [phase] at taken
      split at taken
      · cases taken
        exact .inl ⟨rfl, .inl rfl⟩
      · cases taken
        exact .inl ⟨rfl, .inl rfl⟩
      · cases taken
        exact .inl ⟨rfl, .inr rfl⟩
  | sending msg =>
      rcases tx.trySend_cases msg with ⟨result, _⟩ | ⟨result, _, room⟩ | ⟨result, _⟩
      · simp only [phase, result, Option.some.injEq, Prod.mk.injEq] at taken
        rw [← taken.2]
        exact .inl ⟨rfl, .inr rfl⟩
      · simp only [phase, result, Option.some.injEq, Prod.mk.injEq] at taken
        rw [← taken.2]
        exact .inr ⟨msg, rfl, rfl, room⟩
      · simp [phase, result] at taken

/-- What the pump does is seen as a message, where somebody may still read it, or as the
end of the request. -/
theorem pump_dialogue {pump next : Pump} {tx after : Channel Bytes} {inbox afterwards : List Bytes}
    {attended : Prop} [Decidable attended] {fate : Fate (Int × String)}
    (taken : pump.step tx = some (next, after)) (open_ : tx.senderAlive = true)
    (capacity : tx.capacity = 8) (fits : inbox.length ≤ tx.buffer.length + 1)
    (kept : after.buffer = tx.buffer → afterwards = inbox)
    (grown : ∀ msg, after.buffer = tx.buffer ++ [msg] →
      afterwards = if attended then inbox ++ [msg] else inbox)
    (undecided : attended → fate = .undecided) (outbox : List Bytes) (connected : Bool) :
    Run (dialogueStep callRules) ⟨inbox, !tx.senderAlive, outbox, connected, fate⟩
      ((if attended then (after.buffer.drop tx.buffer.length).map fun msg => (.arrive msg, .silent)
        else []) ++ halfCloses (!tx.senderAlive) (!after.senderAlive))
      ⟨afterwards, !after.senderAlive, outbox, connected, fate⟩ := by
  rcases Pump.step_moves taken with ⟨same, _⟩ | ⟨msg, appended, still, room⟩
  · rw [kept same, same, List.drop_length, List.map_nil, ite_self, List.nil_append, open_]
    cases alive : after.senderAlive with
    | true => exact .start
    | false => exact Run.single (by simp [dialogueStep])
  · rw [grown msg appended, appended, List.drop_left, still, open_]
    rw [capacity] at room
    by_cases reads : attended
    · have enough : inbox.length < 9 := by omega
      rw [if_pos reads, if_pos reads, undecided reads]
      exact Run.single (by simp [dialogueStep, Dialogue.arrive, callRules, enough])
    · rw [if_neg reads, if_neg reads]
      exact .start

end Zpr.GrpcServer
