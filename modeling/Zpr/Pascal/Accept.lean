import Zpr.Foundation.GrowingRead
import Zpr.GrpcServer.QueueChange
import Zpr.Pascal.GrpcCall

namespace Zpr.Pascal

open Ffi GrpcServer

/-! # Accepting a call

`TZprGrpcQueuedServer.Accept` calls `zpr_grpc_accept` until its array is long enough, cuts
the array to the length of the path, and takes the path from there as a C string. The array
is not one. -/

structure AcceptLocals where
  CallId : Nat
  Method : TBytes
  MethodLen : Nat

def AcceptLocals.start : AcceptLocals where
  CallId := 0
  Method := SetLength [] 512
  MethodLen := 0

inductive AcceptResult
  /-- nil -/
  | nothing
  | call (call : TZprGrpcCall)
  /-- reading goes on to where there is no memory -/
  | fault
  deriving DecidableEq, Repr

/-- The C string at the start of `memory`. -/
def cstringAt (memory : Bytes) : Option Bytes :=
  if 0 ∈ memory then some (memory.takeWhile (· ≠ 0)) else none

/-- `UTF8String(PAnsiChar(BytesPtr(Method)))`, where `following` is the memory behind the
array. -/
def methodPath (following : Bytes) (Method : TBytes) : Option Bytes :=
  match BytesPtr Method with
  | .null => some []
  | .valid => cstringAt (Method ++ following)

/-- What is made of `Method` once the call has been handed over. -/
def acceptedCall (following : Bytes) (CallId : Nat) (Method : TBytes) : AcceptResult :=
  match methodPath following Method with
  | some path => .call (.Create CallId path)
  | none => .fault

/-- The rest of a round, once `zpr_grpc_accept` has returned. -/
def judgeAccept (following : Bytes) (locals : AcceptLocals) (reply : AcceptReply) :
    Round AcceptLocals AcceptResult :=
  let CallId := reply.out_call_id.getD locals.CallId
  let MethodLen := reply.out_len.getD locals.MethodLen
  let Method := overwrite locals.Method reply.written
  if reply.rc = -2 then
    .again { CallId := CallId, Method := SetLength Method MethodLen, MethodLen := MethodLen }
  else if reply.rc ≠ 1 then
    .done .nothing
  else
    .done (acceptedCall following CallId (SetLength Method MethodLen))

/-- Nobody else accepts while `Accept` does. -/
def TZprGrpcQueuedServer.Accept (following : Bytes) :
    RetryLoop Server Action Reply AcceptLocals AcceptResult where
  step := serverStep
  call locals := .accept .valid (outBuffer locals.Method)
  judge locals
    | .accepted reply => judgeAccept following locals reply
    | _ => .done .nothing
  others _ action := ∀ out_call_id out_method, action ≠ .accept out_call_id out_method

/-- However the steps of the others fall: at most two calls of the library are made, each
of them returns, and `Accept` returns the call with its path, byte for byte. -/
def ReportsPath (following : Bytes) (state : Server) (id : Nat) (path : String) : Prop :=
  ∀ calls locals last,
    (TZprGrpcQueuedServer.Accept following).Before .start state calls locals last →
      ∃ final reply,
        serverStep last ((TZprGrpcQueuedServer.Accept following).call locals) = some (final, reply) ∧
        match (TZprGrpcQueuedServer.Accept following).judge locals reply with
        | .again _ => calls = 0
        | .done result => calls ≤ 1 ∧ result = .call (.Create id (as_bytes path))

/-! ## The path as a C string -/

theorem cstringAt_eq_iff {bytes following : Bytes} (noNul : 0 ∉ bytes) :
    cstringAt (bytes ++ following) = some bytes ↔ following.head? = some 0 := by
  have passed : ∀ byte ∈ bytes, decide (byte ≠ 0) = true := by
    intro byte member
    apply decide_eq_true
    intro zero
    exact noNul (zero ▸ member)
  have whole : (bytes ++ following).takeWhile (· ≠ 0) = bytes ++ following.takeWhile (· ≠ 0) :=
    List.takeWhile_append_of_pos passed
  cases following with
  | nil => simp [cstringAt, noNul]
  | cons first rest =>
      by_cases zero : first = 0
      · rw [cstringAt, if_pos (by simp [zero]), whole]
        simp [zero]
      · constructor
        · intro read
          rw [cstringAt] at read
          split at read
          · rw [whole] at read
            have lengths := congrArg List.length (Option.some.inj read)
            simp [zero] at lengths
          · cases read
        · intro head
          cases head
          exact absurd rfl zero

theorem as_bytes_eq_nil {path : String} : as_bytes path = [] ↔ path = "" := by
  constructor
  · intro empty
    by_contra nonempty
    rw [as_bytes_eq_cstr] at empty
    exact cstr_ne_nil nonempty empty
  · rintro rfl
    rfl

/-- The path arrives unchanged exactly if nothing has to be read, or a NUL stands behind. -/
theorem acceptedCall_eq_iff {path : String} (noNul : 0 ∉ as_bytes path) (following : Bytes)
    (id : Nat) : acceptedCall following id (as_bytes path) = .call (.Create id (as_bytes path)) ↔
      path = "" ∨ following.head? = some 0 := by
  by_cases empty : as_bytes path = []
  · rw [empty]
    exact iff_of_true rfl (.inl (as_bytes_eq_nil.mp empty))
  · have notEmpty : path ≠ "" := fun same => empty (as_bytes_eq_nil.mpr same)
    have nonzero : ¬ (as_bytes path).length = 0 := by
      intro zero
      exact empty (List.length_eq_zero_iff.mp zero)
    have read : methodPath following (as_bytes path) = cstringAt (as_bytes path ++ following) := by
      simp only [methodPath, BytesPtr, nonzero, if_false]
    rw [or_iff_right notEmpty, ← cstringAt_eq_iff noNul, acceptedCall, read]
    cases cstringAt (as_bytes path ++ following) with
    | none => simp
    | some found => simp [TZprGrpcCall.Create]

/-! ## The loop -/

theorem accept_of_lt {q : CallQueue} {id : Nat} (waiting : q.pending = (id, path) :: rest)
    {B : TBytes}
    (short : B.length < (as_bytes path).length) (out_call_id : Pointer) :
    zpr_grpc_accept q out_call_id (outBuffer B) =
      (q, { copy_into (as_bytes path) (outBuffer B) with out_call_id := none }) := by
  have failed : (copy_into (as_bytes path) (outBuffer B)).rc ≠ ZPR_OK := by
    rw [(copy_into_outBuffer_of_lt short).1]
    decide
  simp only [zpr_grpc_accept, waiting, ne_eq, failed, not_false_eq_true, if_true]

theorem accept_of_le {q : CallQueue} {id : Nat} (waiting : q.pending = (id, path) :: rest)
    {B : TBytes}
    (fits : (as_bytes path).length ≤ B.length) (out_call_id : Pointer) :
    zpr_grpc_accept q out_call_id (outBuffer B) =
      ({ q with pending := rest, accepted := q.accepted + 1 },
        { rc := ZPR_CALL_MESSAGE, out_len := some (as_bytes path).length,
          written := as_bytes path, last_error := none, out_call_id := out_call_id.store id }) := by
  simp only [zpr_grpc_accept, waiting, copy_into_outBuffer_of_le fits, ne_eq, not_true_eq_false,
    if_false]

namespace TZprGrpcQueuedServer

/-- With nothing to accept there is no call. -/
theorem judge_of_empty (following : Bytes) {state : Server} (empty : state.queue.pending = [])
    (taken : serverStep state ((Accept following).call locals) = some (next, reply)) :
    (Accept following).judge locals reply = .done .nothing := by
  simp only [Accept, serverStep, zpr_grpc_accept, empty] at taken
  cases taken
  rfl

/-- A round that finds a call: it has room for the path or it asks for as much. -/
theorem judge_of_waiting (following : Bytes) {state : Server} {id : Nat}
    (waiting : state.queue.pending = (id, path) :: rest)
    (taken : serverStep state ((Accept following).call locals) = some (next, reply)) :
    ((as_bytes path).length ≤ locals.Method.length ∧
      (Accept following).judge locals reply = .done (acceptedCall following id (as_bytes path))) ∨
    locals.Method.length < (as_bytes path).length ∧ next.queue.pending = (id, path) :: rest ∧
      ∃ larger, (Accept following).judge locals reply = .again larger ∧
        larger.Method.length = (as_bytes path).length := by
  rcases Nat.lt_or_ge locals.Method.length (as_bytes path).length with short | fits
  · rcases copy_into_outBuffer_of_lt short with ⟨rc, out_len⟩
    simp only [Accept, serverStep, accept_of_lt waiting short] at taken
    cases taken
    refine .inr ⟨short, waiting, AcceptLocals.mk locals.CallId (SetLength (overwrite
      locals.Method (copy_into (as_bytes path) (outBuffer locals.Method)).written)
        (as_bytes path).length) (as_bytes path).length, ?_, length_SetLength _ _⟩
    simp only [Accept, judgeAccept, rc, out_len, ZPR_ERR_SHORT_BUFFER, Option.getD_some,
      Option.getD_none, if_true]
  · simp only [Accept, serverStep, accept_of_le waiting fits] at taken
    cases taken
    refine .inl ⟨fits, ?_⟩
    simp only [Accept, judgeAccept, ZPR_CALL_MESSAGE, Option.getD_some, SetLength_overwrite,
      Pointer.store]
    rfl

theorem accept_answers (following : Bytes) (locals : AcceptLocals) (state : Server) :
    ∃ next reply, serverStep state ((Accept following).call locals) = some (next, reply) :=
  ⟨_, _, rfl⟩

/-- The path at the front of the queue has room in the array. -/
def Fits (locals : AcceptLocals) (state : Server) : Prop :=
  ∃ id path rest, state.queue.pending = (id, path) :: rest ∧
    (as_bytes path).length ≤ locals.Method.length

theorem accept_settles (following : Bytes) :
    (Accept following).Settles (fun _ => True) Fits where
  answers locals _ := accept_answers following locals _
  valid _ _ := trivial
  asked := by
    intro state locals next reply larger _ taken judged
    cases waiting : state.queue.pending with
    | nil =>
        rw [judge_of_empty following waiting taken] at judged
        cases judged
    | cons head rest =>
        rcases judge_of_waiting following waiting taken with
          ⟨_, done⟩ | ⟨_, stays, other, again, length⟩
        · rw [done] at judged
          cases judged
        · rw [again] at judged
          cases judged
          exact ⟨head.1, head.2, rest, stays, Nat.le_of_eq length.symm⟩
  kept := by
    intro state locals action next reply _ fits other taken
    rcases fits with ⟨id, path, rest, waiting, room⟩
    rcases (serverStep_queue taken).pending_grows other with ⟨more, grown⟩
    exact ⟨id, path, rest ++ more, by rw [grown, waiting, List.cons_append], room⟩
  enough := by
    intro state locals next reply _ fits taken
    rcases fits with ⟨id, path, rest, waiting, room⟩
    rcases judge_of_waiting following waiting taken with ⟨_, done⟩ | ⟨short, _⟩
    · exact ⟨_, done⟩
    · omega

/-- The call at the front stays there while the others go on. -/
theorem waiting_of_run (following : Bytes) {state last : Server} {id : Nat}
    (waiting : state.queue.pending = (id, path) :: rest)
    (run : RunWhere (Accept following).others serverStep state trace last) :
    ∃ more, last.queue.pending = (id, path) :: more := by
  apply run.stateInvariant (fun state => ∃ more, state.queue.pending = (id, path) :: more)
  · exact ⟨rest, waiting⟩
  · intro _ _ _ _ before other taken
    rcases before with ⟨more, stands⟩
    rcases (serverStep_queue taken).pending_grows other with ⟨new, grown⟩
    exact ⟨more ++ new, by rw [grown, stands, List.cons_append]⟩

/-- At each call of the loop the same call is at the front. -/
theorem waiting_of_before (following : Bytes) {state last : Server} {id : Nat}
    (waiting : state.queue.pending = (id, path) :: rest)
    (before : (Accept following).Before .start state calls locals last) :
    ∃ more, last.queue.pending = (id, path) :: more := by
  induction before with
  | first => exact ⟨rest, waiting⟩
  | again _ taken judged run induction =>
      rcases induction with ⟨more, stands⟩
      rcases judge_of_waiting following stands taken with ⟨_, done⟩ | ⟨_, stays, _⟩
      · rw [done] at judged
        cases judged
      · exact waiting_of_run following stays run

/-- The loop comes to an end, with what is made of the path. -/
theorem exists_done (following : Bytes) {state : Server} {id : Nat}
    (waiting : state.queue.pending = (id, path) :: rest) :
    ∃ calls locals last, (Accept following).Before .start state calls locals last ∧
      ∃ final reply, serverStep last ((Accept following).call locals) = some (final, reply) ∧
        (Accept following).judge locals reply =
          .done (acceptedCall following id (as_bytes path)) := by
  have settles := accept_settles following
  rcases accept_answers following AcceptLocals.start state with ⟨next, reply, taken⟩
  rcases judge_of_waiting following waiting taken with ⟨_, done⟩ | ⟨_, stays, larger, again, length⟩
  · exact ⟨0, .start, state, .first, next, reply, taken, done⟩
  · rcases accept_answers following larger next with ⟨final, answer, takenAgain⟩
    refine ⟨1, larger, next, .again .first taken again .start, final, answer, takenAgain, ?_⟩
    rcases judge_of_waiting following stays takenAgain with ⟨_, done⟩ | ⟨short, _⟩
    · exact done
    · omega

end TZprGrpcQueuedServer

open TZprGrpcQueuedServer in
/-- For a call at the front of `pending`, whatever the others do in the meantime: `Accept`
returns it with exactly its path if and only if the path is empty or the byte behind the
array is a NUL. -/
theorem accept_reports_path_iff {state : Server} {id : Nat} {path : String}
    {rest : List (Nat × String)} (waiting : state.queue.pending = (id, path) :: rest)
    (noNul : 0 ∉ as_bytes path) (following : Bytes) :
    ReportsPath following state id path ↔ path = "" ∨ following.head? = some 0 := by
  rw [← acceptedCall_eq_iff noNul following id]
  constructor
  · intro reports
    rcases exists_done following waiting with
      ⟨calls, locals, last, before, final, reply, taken, done⟩
    rcases reports calls locals last before with ⟨_, _, sameStep, reported⟩
    cases taken.symm.trans sameStep
    rw [done] at reported
    exact reported.2
  · intro exactPath calls locals last before
    have settles := accept_settles following
    rcases accept_answers following locals last with ⟨final, reply, taken⟩
    refine ⟨final, reply, taken, ?_⟩
    rcases waiting_of_before following waiting before with ⟨more, stands⟩
    have outcome : ∀ result, (Accept following).judge locals reply = .done result →
        result = .call (.Create id (as_bytes path)) := by
      intro result judged
      rcases judge_of_waiting following stands taken with ⟨_, done⟩ | ⟨_, _, _, again, _⟩
      · rw [done] at judged
        cases judged
        exact exactPath
      · rw [again] at judged
        cases judged
    rcases settles.before_cases trivial before with ⟨none, _⟩ | ⟨one, fits, _⟩
    · split
      · exact none
      · rename_i result judged
        exact ⟨by omega, outcome result judged⟩
    · rcases settles.enough trivial fits taken with ⟨result, done⟩
      rw [done]
      exact ⟨by omega, outcome result done⟩

/-- The byte behind the array happens to be a NUL. -/
theorem accept_reports_path_before_nul : ∃ trace state, Run serverStep .start trace state ∧
    state.queue.pending = [(1, "/a")] ∧ ReportsPath [0] state 1 "/a" := by
  have replayed : ∃ trace state, replay serverStep .start
        [.arrive "/a" ⟨[], false⟩, .handle_queued 0, .handle_queued 0, .handle_queued 0,
          .handle_queued 0, .handle_queued 0] = some (trace, state) ∧
      state.queue.pending = [(1, "/a")] := ⟨_, _, rfl, rfl⟩
  rcases replayed with ⟨trace, state, replayed, waiting⟩
  exact ⟨trace, state, run_of_replay replayed, waiting,
    (accept_reports_path_iff waiting (by decide) [0]).mpr (.inr rfl)⟩

/-- Behind the array stands a `b`: the call of `/a` is returned as one of `/ab`. -/
theorem accept_reads_past_the_path : ∃ trace state, Run serverStep .start trace state ∧
    state.queue.pending = [(1, "/a")] ∧
      (∃ final reply, serverStep state
          ((TZprGrpcQueuedServer.Accept [0x62, 0]).call .start) = some (final, reply) ∧
        (TZprGrpcQueuedServer.Accept [0x62, 0]).judge .start reply =
          .done (.call (.Create 1 (as_bytes "/ab")))) ∧
      ¬ ReportsPath [0x62, 0] state 1 "/a" := by
  have replayed : ∃ trace state, replay serverStep .start
        [.arrive "/a" ⟨[], false⟩, .handle_queued 0, .handle_queued 0, .handle_queued 0,
          .handle_queued 0, .handle_queued 0] = some (trace, state) ∧
      state.queue.pending = [(1, "/a")] := ⟨_, _, rfl, rfl⟩
  rcases replayed with ⟨trace, state, replayed, waiting⟩
  rcases TZprGrpcQueuedServer.accept_answers [0x62, 0] .start state with
    ⟨final, reply, taken⟩
  have done : (TZprGrpcQueuedServer.Accept [0x62, 0]).judge .start reply =
      .done (.call (.Create 1 (as_bytes "/ab"))) := by
    rcases TZprGrpcQueuedServer.judge_of_waiting [0x62, 0] waiting taken with ⟨_, done⟩ | ⟨short, _⟩
    · exact done
    · rw [AcceptLocals.start, length_SetLength] at short
      exact absurd short (by decide)
  refine ⟨trace, state, run_of_replay replayed, waiting, ⟨final, reply, taken, done⟩, fun reports => ?_⟩
  rcases reports 0 .start state .first with ⟨_, _, sameStep, reported⟩
  cases taken.symm.trans sameStep
  rw [done] at reported
  exact absurd reported.2 (by decide)

end Zpr.Pascal
