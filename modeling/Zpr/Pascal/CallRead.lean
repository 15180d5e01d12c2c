import Zpr.Foundation.GrowingRead
import Zpr.GrpcServer.UnreadMessages
import Zpr.Pascal.GrpcCall
import Zpr.Pascal.ReadInto

namespace Zpr.Pascal

open Ffi GrpcServer

/-! # The growing read of a call

`TZprGrpcCall.Read` calls `zpr_grpc_call_read_into` until its array is long enough. While it
does, clients, tasks and the host's other threads go on, and the call can be taken out of
`live`; only reads of this call are left to it. -/

structure ReadLocals where
  Buf : TBytes
  Got : Nat

/-- Before the first call: 64 KiB. -/
def ReadLocals.start : ReadLocals where
  Buf := SetLength [] 65536
  Got := 0

/-- The last `case Rc of`, on the array as the call has left it. -/
def readOutcome (Rc : Int) (Buf : TBytes) (Got : Nat) : TZprReadResult × TBytes :=
  if Rc = 1 then (.zrMessage, SetLength Buf Got)
  else if Rc = 0 then (.zrNone, [])
  else if Rc = 2 then (.zrClientDone, [])
  else (.zrError, [])

/-- The rest of a round, once `zpr_grpc_call_read_into` has returned. -/
def judgeRead (locals : ReadLocals) (reply : BufferReply) :
    Round ReadLocals (TZprReadResult × TBytes) :=
  let Got := reply.out_len.getD locals.Got
  let Buf := overwrite locals.Buf reply.written
  if reply.rc = -2 then .again { Buf := SetLength Buf Got, Got := Got }
  else .done (readOutcome reply.rc Buf Got)

def TZprGrpcCall.Read (FId : Nat) :
    RetryLoop Server Action Reply ReadLocals (TZprReadResult × TBytes) where
  step := serverStep
  call locals := .read_into FId (outBuffer locals.Buf)
  judge locals
    | .read reply => judgeRead locals reply
    | _ => .done (.zrError, [])
  others _ action := ∀ buffer, action ≠ .read_into FId buffer

/-- What `Read` has to make of the messages that wait when it is called. Its last call to
the library leads from `last` to `final`. -/
def ReadsWhole (FId : Nat) (waiting : List Bytes) (last final : Server)
    (result : TZprReadResult × TBytes) : Prop :=
  match waiting with
  | [] => (result = (.zrNone, []) ∨ result = (.zrClientDone, [])) ∧
      last.unread FId = [] ∧ final.unread FId = []
  | msg :: rest =>
      if last.queue.live.find? FId = none then
        result = (.zrError, []) ∧ final = last
      else
        result = (.zrMessage, msg) ∧
          ∃ more, last.unread FId = msg :: rest ++ more ∧ final.unread FId = rest ++ more

namespace TZprGrpcCall

/-- The next message has room in the array, or there is no such call any more. -/
def Fits (FId : Nat) (locals : ReadLocals) (state : Server) : Prop :=
  state.queue.live.find? FId = none ∨
    ∃ msg rest, state.unread FId = msg :: rest ∧ msg.length ≤ locals.Buf.length

/-- What a round makes of a read of the queue of messages. -/
theorem judgeRead_cases (read : NextRead (outBuffer locals.Buf) waiting reply left) :
    (∃ msg rest, waiting = msg :: rest ∧ left = rest ∧ msg.length ≤ locals.Buf.length ∧
      judgeRead locals reply = .done (.zrMessage, msg)) ∨
    (∃ msg rest larger, waiting = msg :: rest ∧ left = waiting ∧
      locals.Buf.length < msg.length ∧ judgeRead locals reply = .again larger ∧
      larger.Buf.length = msg.length) ∨
    waiting = [] ∧ left = [] ∧ (judgeRead locals reply = .done (.zrNone, []) ∨
      judgeRead locals reply = .done (.zrClientDone, [])) := by
  cases read with
  | returns msg _ copied =>
      have fits : msg.length ≤ locals.Buf.length := by
        apply Nat.le_of_not_lt
        intro short
        rw [(copy_into_outBuffer_of_lt short).1] at copied
        cases copied
      refine .inl ⟨msg, left, rfl, rfl, fits, ?_⟩
      simp only [copy_into_outBuffer_of_le fits, judgeRead, readOutcome, ZPR_CALL_MESSAGE,
        Option.getD_some, SetLength_overwrite]
      rfl
  | fails msg rest failed =>
      have short : locals.Buf.length < msg.length := by
        apply Nat.lt_of_not_le
        intro fits
        rw [copy_into_outBuffer_of_le fits] at failed
        exact failed rfl
      rcases copy_into_outBuffer_of_lt short with ⟨rc, out_len⟩
      refine .inr (.inl ⟨msg, rest, { Buf := SetLength (overwrite locals.Buf
        (copy_into msg (outBuffer locals.Buf)).written) msg.length, Got := msg.length },
        rfl, rfl, short, ?_, length_SetLength _ _⟩)
      simp only [judgeRead, rc, out_len, ZPR_ERR_SHORT_BUFFER, Option.getD_some, if_true]
  | nothing _ told =>
      refine .inr (.inr ⟨rfl, rfl, ?_⟩)
      rcases told with none | clientDone
      · exact .inl (by simp [judgeRead, none, ZPR_CALL_NONE, readOutcome])
      · exact .inr (by simp [judgeRead, clientDone, ZPR_CALL_CLIENT_DONE, readOutcome])

/-- Without the call there is an error, and nothing changes. -/
theorem judge_of_absent {FId : Nat} (absent : state.queue.live.find? FId = none)
    (taken : serverStep state ((Read FId).call locals) = some (next, reply)) :
    next = state ∧ (Read FId).judge locals reply = .done (.zrError, []) := by
  have answer := serverStep_read_into_of_absent absent (outBuffer locals.Buf)
  cases answer.symm.trans taken
  exact ⟨rfl, by simp [Read, judgeRead, readOutcome, ZPR_ERR]⟩

/-- With the call it is a read of what is unread. -/
theorem judge_of_live {FId : Nat} (known : Known FId state)
    (held : state.queue.live.find? FId = some call)
    (taken : serverStep state ((Read FId).call locals) = some (next, reply)) :
    ∃ answer, (Read FId).judge locals reply = judgeRead locals answer ∧
      NextRead (outBuffer locals.Buf) (state.unread FId) answer (next.unread FId) := by
  rcases known with ⟨⟨trace, run⟩, _⟩
  rcases (lossless_of_run run).read_into_of_live held (outBuffer locals.Buf) with
    ⟨_, answer, found, read⟩
  cases found.symm.trans taken
  exact ⟨answer, rfl, read⟩

theorem read_settles (FId : Nat) : (Read FId).Settles (Known FId) (Fits FId) where
  answers := by
    intro state locals known
    cases held : state.queue.live.find? FId with
    | none => exact ⟨_, _, serverStep_read_into_of_absent held (outBuffer locals.Buf)⟩
    | some call =>
        rcases known with ⟨⟨trace, run⟩, _⟩
        rcases (lossless_of_run run).read_into_of_live held (outBuffer locals.Buf) with
          ⟨next, answer, taken, _⟩
        exact ⟨next, _, taken⟩
  valid := known_next
  asked := by
    intro state locals next reply larger known taken judged
    cases held : state.queue.live.find? FId with
    | none =>
        rw [(judge_of_absent held taken).2] at judged
        cases judged
    | some call =>
        rcases judge_of_live known held taken with ⟨answer, same, read⟩
        rw [same] at judged
        rcases judgeRead_cases read with
          ⟨msg, rest, _, _, _, done⟩ | ⟨msg, rest, room, waiting, left, _, more, length⟩ |
            ⟨_, _, done | done⟩
        · rw [done] at judged
          cases judged
        · rw [more] at judged
          cases judged
          exact .inr ⟨msg, rest, left.trans waiting, Nat.le_of_eq length.symm⟩
        · rw [done] at judged
          cases judged
        · rw [done] at judged
          cases judged
  kept := by
    intro state locals action next reply known fits other taken
    cases still : next.queue.live.find? FId with
    | none => exact .inl still
    | some after =>
        rcases fits with absent | ⟨msg, rest, waiting, room⟩
        · exact .inl (absent_next known absent taken)
        · cases held : state.queue.live.find? FId with
          | none => exact .inl (absent_next known held taken)
          | some call =>
              rcases known with ⟨⟨trace, run⟩, _⟩
              rcases unread_grows run held other taken still with ⟨more, grown⟩
              exact .inr ⟨msg, rest ++ more, by rw [grown, waiting, List.cons_append], room⟩
  enough := by
    intro state locals next reply known fits taken
    cases held : state.queue.live.find? FId with
    | none => exact ⟨_, (judge_of_absent held taken).2⟩
    | some call =>
        rcases judge_of_live known held taken with ⟨answer, same, read⟩
        rcases fits with absent | ⟨msg, rest, waiting, room⟩
        · rw [held] at absent
          cases absent
        · rcases judgeRead_cases read with
            ⟨_, _, _, _, _, done⟩ | ⟨other, others, _, sameWaiting, _, short, _⟩ | ⟨empty, _⟩
          · exact ⟨_, same.trans done⟩
          · cases waiting.symm.trans sameWaiting
            omega
          · cases waiting.symm.trans empty

/-- What the first call leaves for the second: the message that did not fit, and behind it
whatever has arrived in the meantime, unless the call is gone. -/
theorem unread_of_run {FId : Nat} (known : Known FId state)
    (run : RunWhere (Read FId).others serverStep state trace last)
    (still : last.queue.live.find? FId = some after) :
    ∃ more, last.unread FId = state.unread FId ++ more := by
  induction run generalizing after with
  | start => exact ⟨[], (List.append_nil _).symm⟩
  | @next _ found _ _ _ earlier other taken induction =>
      have knownFound := (read_settles FId).valid_of_run known earlier
      cases held : found.queue.live.find? FId with
      | none =>
          rw [absent_next knownFound held taken] at still
          cases still
      | some call =>
          rcases induction held with ⟨more, grown⟩
          rcases knownFound with ⟨⟨_, before⟩, _⟩
          rcases unread_grows before held other taken still with ⟨new, grownNow⟩
          exact ⟨more ++ new, by rw [grownNow, grown, List.append_assoc]⟩

/-- A round that ends the loop does what `Read` has to do, if what has been waiting since
the start is still there. -/
theorem readsWhole_of_done {FId : Nat} {waiting : List Bytes} (known : Known FId last)
    (stays : ∀ after, last.queue.live.find? FId = some after →
      ∃ more, last.unread FId = waiting ++ more ∧ (waiting = [] → more = []))
    (begun : waiting = [] → last.queue.live.find? FId ≠ none)
    (taken : serverStep last ((Read FId).call locals) = some (final, reply))
    (judged : (Read FId).judge locals reply = .done result) :
    ReadsWhole FId waiting last final result := by
  cases held : last.queue.live.find? FId with
  | none =>
      rcases judge_of_absent held taken with ⟨same, error⟩
      rw [error] at judged
      cases judged
      cases waiting with
      | nil => exact absurd held (begun rfl)
      | cons msg rest =>
          rw [ReadsWhole, if_pos held]
          exact ⟨rfl, same⟩
  | some call =>
      rcases stays call held with ⟨more, unread, empty⟩
      rcases judge_of_live known held taken with ⟨answer, same, read⟩
      rw [same] at judged
      rcases judgeRead_cases read with
        ⟨msg, rest, all, left, _, done⟩ | ⟨_, _, _, _, _, _, again, _⟩ | ⟨none, left, done⟩
      · rw [done] at judged
        cases judged
        cases waiting with
        | nil =>
            rw [unread, empty rfl] at all
            cases all
        | cons first others =>
            rw [unread, List.cons_append] at all
            cases all
            rw [ReadsWhole, if_neg (by simp [held])]
            exact ⟨rfl, more, unread, left⟩
      · rw [again] at judged
        cases judged
      · cases waiting with
        | nil =>
            refine ⟨?_, none, left⟩
            rcases done with done | done
            · rw [done] at judged
              cases judged
              exact .inl rfl
            · rw [done] at judged
              cases judged
              exact .inr rfl
        | cons msg rest =>
            rw [unread] at none
            cases none

end TZprGrpcCall

open TZprGrpcCall in
/-- However the other parties' steps fall between its calls: `Read` of a live call makes at
most two of them, each of them returns, and the last one brings the next message, whole and
alone, if one was waiting, and otherwise no bytes. Only a call that is taken out of `live`
between the two is read in vain. -/
theorem read_returns_whole_messages {FId : Nat} (run : Run serverStep .start trace state)
    (held : state.queue.live.find? FId = some call)
    (before : (Read FId).Before .start state calls locals last) :
    ∃ final reply, serverStep last ((Read FId).call locals) = some (final, reply) ∧
      match (Read FId).judge locals reply with
      | .again _ => calls = 0
      | .done result => calls ≤ 1 ∧ ReadsWhole FId (state.unread FId) last final result := by
  have known := known_of_live run held
  have settles := read_settles FId
  have knownLast := settles.valid_of_before known before
  rcases settles.answers locals knownLast with ⟨final, reply, taken⟩
  refine ⟨final, reply, taken, ?_⟩
  rcases settles.before_cases known before with
    ⟨none, rfl, rfl⟩ | ⟨one, fits, next, short, _, first, again, between⟩
  · split
    · exact none
    · rename_i result judged
      refine ⟨by omega, readsWhole_of_done knownLast ?_ ?_ taken judged⟩
      · intro _ _
        exact ⟨[], (List.append_nil _).symm, fun _ => rfl⟩
      · intro _ absent
        rw [held] at absent
        cases absent
  · have waits : ∃ msg rest, state.unread FId = msg :: rest ∧
        next.unread FId = state.unread FId := by
      rcases judge_of_live known held first with ⟨answer, same, read⟩
      rw [same] at again
      rcases judgeRead_cases read with
        ⟨_, _, _, _, _, done⟩ | ⟨msg, rest, _, waiting, left, _⟩ | ⟨_, _, done | done⟩
      · rw [done] at again
        cases again
      · exact ⟨msg, rest, waiting, left⟩
      · rw [done] at again
        cases again
      · rw [done] at again
        cases again
    rcases waits with ⟨msg, rest, waiting, left⟩
    rcases settles.enough knownLast fits taken with ⟨result, done⟩
    rw [done]
    dsimp only
    refine ⟨by omega, readsWhole_of_done knownLast ?_ ?_ taken done⟩
    · intro after still
      rcases unread_of_run (settles.valid known first) between still with ⟨more, grown⟩
      refine ⟨more, by rw [grown, left], fun empty => ?_⟩
      rw [waiting] at empty
      cases empty
    · intro empty
      rw [waiting] at empty
      cases empty

/-- A call with a message of two bytes and an empty one behind it. -/
theorem read_returns_two_bytes : ∃ trace state call final reply,
    Run serverStep .start trace state ∧ state.queue.live.find? 1 = some call ∧
      state.unread 1 = [[7, 8], []] ∧
      serverStep state ((TZprGrpcCall.Read 1).call .start) = some (final, reply) ∧
      (TZprGrpcCall.Read 1).judge .start reply = .done (.zrMessage, [7, 8]) ∧
      final.unread 1 = [[]] := by
  have replayed : ∃ trace state call, replay serverStep .start
        [.arrive "/a" ⟨[.data [0, 0, 0, 0, 2, 7, 8], .data [0, 0, 0, 0, 0]], false⟩,
          .handle_queued 0, .handle_queued 0, .handle_queued 0, .handle_queued 0,
          .pump_inbound 0, .pump_inbound 0, .pump_inbound 0, .pump_inbound 0] =
        some (trace, state) ∧
      state.queue.live.find? 1 = some call ∧ state.unread 1 = [[7, 8], []] :=
    ⟨_, _, _, rfl, rfl, rfl⟩
  rcases replayed with ⟨trace, state, call, replayed, held, waiting⟩
  have run := run_of_replay replayed
  rcases read_returns_whole_messages run held .first with ⟨final, reply, taken, judged⟩
  have fits : TZprGrpcCall.Fits 1 .start state := by
    refine .inr ⟨[7, 8], [[]], waiting, ?_⟩
    rw [ReadLocals.start, length_SetLength]
    decide
  rcases (TZprGrpcCall.read_settles 1).enough (known_of_live run held) fits taken with
    ⟨result, done⟩
  rw [done] at judged
  rcases judged with ⟨_, whole⟩
  rw [waiting, ReadsWhole, if_neg (by simp [held])] at whole
  rcases whole with ⟨rfl, more, unread, left⟩
  rw [waiting] at unread
  have nothing : more = [] := List.append_cancel_left (unread.symm.trans (List.append_nil _).symm)
  rw [nothing, List.append_nil] at left
  exact ⟨trace, state, call, final, reply, run, held, waiting, taken, done, left⟩

end Zpr.Pascal
