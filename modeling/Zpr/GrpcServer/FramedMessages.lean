import Zpr.GrpcServer.CallbackHistory
import Zpr.GrpcServer.ConnectedCalls
import Zpr.GrpcServer.FrameDecoding
import Zpr.GrpcServer.ResponseFrames

namespace Zpr.GrpcServer

open Ffi

/-! # The frames of the messages that are sent

Every message that a write takes becomes one DATA frame. What the client makes of these
frames depends on whether their headers tell the truth. -/

/-- The bytes of the DATA frames that a body has shown, in order. -/
def dataFrames (frames : List (Option Frame)) : List Bytes :=
  frames.filterMap fun frame =>
    match frame with
    | some (.data bytes) => some bytes
    | _ => none

theorem dataFrames_append (frames more : List (Option Frame)) :
    dataFrames (frames ++ more) = dataFrames frames ++ dataFrames more :=
  List.filterMap_append

theorem dataFrames_shown (messages : List Bytes) :
    dataFrames (messages.map shown) = messages.map encode_grpc_frame := by
  induction messages with
  | nil => rfl
  | cons msg messages induction => exact congrArg (encode_grpc_frame msg :: ·) induction

theorem dataFrames_closing (polls : Nat) (outcome : Int × String) :
    dataFrames (closing polls outcome) = [] := by
  have after : dataFrames (List.replicate polls none) = [] := by
    rw [dataFrames, List.filterMap_replicate_of_none rfl]
  exact after

theorem dataFrames_expectedFrames (writes : List Bytes) (removals : List (Int × String))
    (polls : Nat) :
    dataFrames (expectedFrames writes removals polls) = writes.map encode_grpc_frame := by
  have silent : dataFrames (removals.flatMap (closing polls)) = [] := by
    induction removals with
    | nil => rfl
    | cons outcome removals induction =>
        rw [List.flatMap_cons, dataFrames_append, dataFrames_closing, induction]
        rfl
  rw [expectedFrames, dataFrames_append, dataFrames_shown, silent, List.append_nil]

/-! ## Truthful headers -/

/-- What is promised about the messages that writes have taken and the DATA frames that
have been emitted for them. -/
structure FramedTruthfully (taken data : List Bytes) : Prop where
  lengths : ∀ (place : Nat) msg frame, taken[place]? = some msg → data[place]? = some frame →
    lengthField frame = some msg.length
  /-- the client finds the messages, and the end of the last frame -/
  recovered : uncompressed.decode data.flatten = (taken.take data.length, [])
  /-- what there is no frame for has not been taken -/
  refused : ∀ msg ∈ taken, ∃ frame, uncompressed.next frame = some (msg, [])

section

variable {taken data : List Bytes}

theorem eq_map_of_emitted (emitted : data <+: taken.map encode_grpc_frame) :
    data = (taken.take data.length).map encode_grpc_frame := by
  rw [List.map_take]
  exact List.prefix_iff_eq_take.mp emitted

/-- The client stays aligned exactly as long as the messages it is sent fit. -/
theorem recovered_iff (emitted : data <+: taken.map encode_grpc_frame) :
    uncompressed.decode data.flatten = (taken.take data.length, []) ↔
      ∀ msg ∈ taken.take data.length, msg.length < 2 ^ 32 := by
  have joined : data.flatten = uncompressed.encodeAll (taken.take data.length) := by
    conv_lhs => rw [eq_map_of_emitted emitted]
    rfl
  rw [uncompressed.decode_eq_iff, joined, List.append_nil]
  constructor
  · intro decoded
    exact decoded.1
  · intro fit
    exact ⟨fit, rfl, uncompressed.next_nil⟩

/-- The headers tell the truth exactly as long as the messages fit. -/
theorem lengths_iff (emitted : data <+: taken.map encode_grpc_frame) :
    (∀ (place : Nat) msg frame, taken[place]? = some msg → data[place]? = some frame →
      lengthField frame = some msg.length) ↔
      ∀ msg ∈ taken.take data.length, msg.length < 2 ^ 32 := by
  have said : ∀ msg, lengthField (encode_grpc_frame msg) = some (msg.length % 2 ^ 32) := by
    intro msg
    have header := lengthField_encode msg []
    rwa [List.append_nil] at header
  have same : ∀ place : Nat,
      data[place]? = (taken.take data.length)[place]?.map encode_grpc_frame := by
    intro place
    conv_lhs => rw [eq_map_of_emitted emitted]
    exact List.getElem?_map
  constructor
  · intro lengths msg member
    rcases List.mem_iff_getElem?.mp member with ⟨place, held⟩
    have written := held
    rw [List.getElem?_take, Option.ite_none_right_eq_some] at written
    have header := lengths place msg (encode_grpc_frame msg) written.2 (by rw [same, held]; rfl)
    rw [said, Option.some.injEq] at header
    have bound := Nat.mod_lt msg.length (Nat.two_pow_pos 32)
    omega
  · intro fit place msg frame written shows
    rw [same] at shows
    rcases Option.map_eq_some_iff.mp shows with ⟨other, held, rfl⟩
    have equal := held
    rw [List.getElem?_take, Option.ite_none_right_eq_some] at equal
    cases written.symm.trans equal.2
    rw [said, Nat.mod_eq_of_lt (fit msg (List.mem_of_getElem? held))]

theorem framedTruthfully_iff (emitted : data <+: taken.map encode_grpc_frame) :
    FramedTruthfully taken data ↔ ∀ msg ∈ taken, msg.length < 2 ^ 32 := by
  constructor
  · intro truthful msg member
    rcases truthful.refused msg member with ⟨frame, framed⟩
    exact (uncompressed.next_eq_some_iff.mp framed).1
  · intro fit
    have emittedFit : ∀ msg ∈ taken.take data.length, msg.length < 2 ^ 32 :=
      fun msg member => fit msg (List.mem_of_mem_take member)
    constructor
    · exact (lengths_iff emitted).mpr emittedFit
    · exact (recovered_iff emitted).mpr emittedFit
    · intro msg member
      have framed := uncompressed.next_encode (fit msg member) []
      exact ⟨_, framed⟩

end

/-! ## Queued mode -/

theorem dataFrames_of_run (run : Run serverStep .start trace state)
    (drawn : state.idAt index = some call_id) :
    dataFrames (frames index trace) <+: (writes call_id trace).map encode_grpc_frame := by
  rcases (explained_of_run run).history_of_drawn drawn with ⟨rpc, _, history⟩
  rcases history.isPrefix with ⟨polls, later, equal⟩
  rw [← dataFrames_expectedFrames (writes call_id trace) (removals call_id trace) polls, ← equal,
    dataFrames_append]
  exact List.prefix_append _ _

/-! ## Callback mode -/

/-- The messages that the handler has sent. Without a pointer that is an empty one. -/
def callbackWritesOf : CallbackAction × CallbackReply → List Bytes
  | (.write data bytes, .returned rc _) =>
      if rc = ZPR_OK then [if data = .null then [] else bytes] else []
  | _ => []

def callbackWrites (trace : CallbackTrace) : List Bytes := trace.flatMap callbackWritesOf

theorem callbackWrites_next (trace : CallbackTrace) (event : CallbackAction × CallbackReply) :
    callbackWrites (trace ++ [event]) = callbackWrites trace ++ callbackWritesOf event := by
  simp [callbackWrites]

/-- The status is no message. -/
theorem OutboundBody.dataFrames_poll_status (body : OutboundBody) :
    dataFrames (callbackFramesOf (.poll_frame, .polled body.poll_status.2)) = [] := by
  cases polled : body.status_rx <;>
    simp [poll_status, Oneshot.poll, polled, callbackFramesOf, dataFrames]

/-- What has been emitted, what is in the channel and what a client that has hung up will
never see are the messages that have been sent. -/
def Accounted (taken data : List Bytes) (rx : Channel Bytes) : Prop :=
  ∃ lost, (rx.receiverAlive = true → lost = []) ∧
    data ++ (rx.buffer ++ lost).map encode_grpc_frame = taken.map encode_grpc_frame

namespace Accounted

variable {taken data : List Bytes} {rx : Channel Bytes}

theorem emitted (accounted : Accounted taken data rx) :
    data <+: taken.map encode_grpc_frame := by
  rcases accounted with ⟨lost, _, equal⟩
  exact ⟨_, equal⟩

theorem write (accounted : Accounted taken data rx) (alive : rx.receiverAlive = true)
    (msg : Bytes) :
    Accounted (taken ++ [msg]) data { rx with buffer := rx.buffer ++ [msg] } := by
  rcases accounted with ⟨lost, none, equal⟩
  refine ⟨[], fun _ => rfl, ?_⟩
  rw [none alive, List.append_nil] at equal
  rw [List.append_nil, List.map_append, List.map_append, ← List.append_assoc, equal]

theorem hang_up (accounted : Accounted taken data rx) :
    Accounted taken data rx.dropReceiver := by
  rcases accounted with ⟨lost, _, equal⟩
  exact ⟨rx.buffer ++ lost, fun alive => absurd alive Bool.false_ne_true, equal⟩

/-- An event that shows no message. -/
theorem unshown (accounted : Accounted taken data rx)
    (silent : dataFrames (callbackFramesOf event) = []) :
    Accounted taken (data ++ dataFrames (callbackFramesOf event)) rx := by
  rw [silent, List.append_nil]
  exact accounted

/-- An event that does not send one either. -/
theorem quiet (accounted : Accounted taken data rx) (unsent : callbackWritesOf event = [])
    (silent : dataFrames (callbackFramesOf event) = []) :
    Accounted (taken ++ callbackWritesOf event) (data ++ dataFrames (callbackFramesOf event))
      rx := by
  rw [unsent, List.append_nil]
  exact accounted.unshown silent

theorem poll (body : OutboundBody) (accounted : Accounted taken data body.rx) :
    Accounted taken
      (data ++ dataFrames (callbackFramesOf (.poll_frame, .polled body.poll_frame.2)))
      body.poll_frame.1.rx := by
  rcases body.poll_frame_spec with
    ⟨msg, buffer, _, held, shows⟩ | ⟨_, _, _, waits⟩ | ⟨_, turns⟩ | ⟨_, ends⟩
  · rcases accounted with ⟨lost, none, equal⟩
    rw [shows]
    refine ⟨lost, none, ?_⟩
    rw [← equal, held, List.append_assoc]
    rfl
  · rw [waits]
    exact accounted.unshown rfl
  · rw [turns, OutboundBody.poll_status_rx]
    exact accounted.unshown (OutboundBody.dataFrames_poll_status _)
  · rw [ends]
    exact accounted.unshown rfl

end Accounted

/-- Every step of the call keeps the account. -/
theorem accounted_step {trace : CallbackTrace} {call : CallbackCall}
    (accounted : Accounted (callbackWrites trace) (dataFrames (callbackFrames trace)) call.body.rx)
    (taken : callbackStep call action = some (next, reply)) :
    Accounted (callbackWrites (trace ++ [(action, reply)]))
      (dataFrames (callbackFrames (trace ++ [(action, reply)]))) next.body.rx := by
  rw [callbackWrites_next, callbackFrames_next, dataFrames_append]
  cases action with
  | pump_inbound =>
      rcases Option.map_eq_some_iff.mp taken with ⟨_, _, moved⟩
      cases moved
      exact accounted.quiet rfl rfl
  | poll_frame =>
      rcases Option.ite_none_right_eq_some.mp taken with ⟨_, moved⟩
      cases moved
      rw [show callbackWritesOf (.poll_frame, .polled call.body.poll_frame.2) = [] from rfl,
        List.append_nil]
      exact accounted.poll call.body
  | hang_up =>
      cases taken
      exact accounted.hang_up.quiet rfl rfl
  | read out =>
      rcases Option.ite_none_right_eq_some.mp taken with ⟨_, read⟩
      rcases Option.map_eq_some_iff.mp read with ⟨_, _, moved⟩
      cases moved
      exact accounted.quiet rfl rfl
  | write data bytes =>
      rcases Option.ite_none_right_eq_some.mp taken with ⟨_, written⟩
      rcases Option.map_eq_some_iff.mp written with ⟨⟨rx, answer⟩, sent, moved⟩
      cases moved
      rcases call.body.rx.trySend_cases (if data = .null then [] else bytes) with
        ⟨result, _⟩ | ⟨result, alive, _⟩ | ⟨result, _⟩
      · rw [zpr_grpc_stream_write, result] at sent
        cases sent
        exact accounted.quiet rfl rfl
      · rw [zpr_grpc_stream_write, result] at sent
        cases sent
        exact (accounted.write alive _).unshown rfl
      · rw [zpr_grpc_stream_write, result] at sent
        cases sent
  | returns out_status out_msg =>
      rcases Option.ite_none_right_eq_some.mp taken with ⟨_, moved⟩
      cases moved
      exact accounted.quiet rfl rfl
  | reclaim =>
      cases handler : call.handler with
      | returned outcome =>
          rw [callbackStep, handler] at taken
          cases taken
          exact accounted.quiet rfl rfl
      | running | reclaimed | ended =>
          rw [callbackStep, handler] at taken
          cases taken
  | send_status =>
      cases handler : call.handler with
      | reclaimed outcome =>
          rw [callbackStep, handler] at taken
          cases taken
          exact accounted.quiet rfl rfl
      | running | returned | ended =>
          rw [callbackStep, handler] at taken
          cases taken

theorem callbackDataFrames_of_run (opened : handle path body = .ok start)
    (run : Run callbackStep start trace call) :
    dataFrames (callbackFrames trace) <+: (callbackWrites trace).map encode_grpc_frame := by
  have accounted : Accounted (callbackWrites trace) (dataFrames (callbackFrames trace))
      call.body.rx := by
    apply run.invariant fun trace (call : CallbackCall) =>
      Accounted (callbackWrites trace) (dataFrames (callbackFrames trace)) call.body.rx
    · unfold handle at opened
      split at opened
      · cases opened
      · cases opened
        exact ⟨[], fun _ => rfl, rfl⟩
    · intro _ _ _ _ _ _ accounted _ taken
      exact accounted_step accounted taken
  exact accounted.emitted

/-! ## Both modes -/

/-- In both modes and every run, the messages taken are framed truthfully exactly if each of
them is shorter than 2^32 bytes. -/
theorem messages_framed_truthfully_iff (run : Run serverStep .start trace state)
    (drawn : state.idAt index = some call_id) (opened : handle path body = .ok start)
    (callbackRun : Run callbackStep start callbackTrace call) :
    (FramedTruthfully (writes call_id trace) (dataFrames (frames index trace)) ↔
      ∀ msg ∈ writes call_id trace, msg.length < 2 ^ 32) ∧
    (FramedTruthfully (callbackWrites callbackTrace) (dataFrames (callbackFrames callbackTrace)) ↔
      ∀ msg ∈ callbackWrites callbackTrace, msg.length < 2 ^ 32) :=
  ⟨framedTruthfully_iff (dataFrames_of_run run drawn),
    framedTruthfully_iff (callbackDataFrames_of_run opened callbackRun)⟩

/-- One message in each mode. -/
theorem messages_framed_truthfully_of_one_byte : ∃ trace state start callbackTrace call,
    Run serverStep .start trace state ∧ state.idAt 0 = some 1 ∧
      handle "/a" ⟨[], false⟩ = .ok start ∧ Run callbackStep start callbackTrace call ∧
      writes 1 trace = [[7]] ∧ callbackWrites callbackTrace = [[7]] ∧
      FramedTruthfully (writes 1 trace) (dataFrames (frames 0 trace)) ∧
      FramedTruthfully (callbackWrites callbackTrace)
        (dataFrames (callbackFrames callbackTrace)) := by
  have queued : ∃ trace state, replay serverStep .start
      [.arrive "/a" ⟨[], false⟩, .handle_queued 0, .handle_queued 0, .handle_queued 0,
        .handle_queued 0, .handle_queued 0, .write 1 .valid [7], .poll_frame 0] =
          some (trace, state) ∧ state.idAt 0 = some 1 ∧ writes 1 trace = [[7]] :=
    ⟨_, _, rfl, rfl, rfl⟩
  have inCallback : ∃ start trace call, handle "/a" ⟨[], false⟩ = .ok start ∧
      replay callbackStep start [.write .valid [7], .poll_frame] = some (trace, call) ∧
      callbackWrites trace = [[7]] :=
    ⟨_, _, _, rfl, rfl, rfl⟩
  rcases queued with ⟨trace, state, replayed, drawn, written⟩
  rcases inCallback with ⟨start, callbackTrace, call, opened, callbackReplayed, callbackWritten⟩
  rcases messages_framed_truthfully_iff (run_of_replay replayed) drawn opened
    (run_of_replay callbackReplayed) with ⟨exactly, callbackExactly⟩
  exact ⟨trace, state, start, callbackTrace, call, run_of_replay replayed, drawn, opened,
    run_of_replay callbackReplayed, written, callbackWritten,
    exactly.mpr (by rw [written]; decide), callbackExactly.mpr (by rw [callbackWritten]; decide)⟩

/-- Any message can be written, and shown, as the first of a call. -/
theorem exists_run_of_write (first : UInt8) (rest : Bytes) : ∃ trace state,
    Run serverStep .start trace state ∧ state.idAt 0 = some 1 ∧
      writes 1 trace = [first :: rest] ∧
      dataFrames (frames 0 trace) = [encode_grpc_frame (first :: rest)] := by
  have replayed : ∃ trace state, replay serverStep .start
      [.arrive "/a" ⟨[], false⟩, .handle_queued 0, .handle_queued 0, .handle_queued 0,
        .handle_queued 0, .handle_queued 0, .write 1 .valid (first :: rest), .poll_frame 0] =
          some (trace, state) ∧ state.idAt 0 = some 1 ∧ writes 1 trace = [first :: rest] ∧
      dataFrames (frames 0 trace) = [encode_grpc_frame (first :: rest)] :=
    ⟨_, _, rfl, rfl, rfl, rfl⟩
  rcases replayed with ⟨trace, state, replayed, drawn, written, emitted⟩
  exact ⟨trace, state, run_of_replay replayed, drawn, written, emitted⟩

/-- A message of 2^32 bytes is taken, and its frame says that it is empty. -/
theorem long_message_framed_as_empty : ∃ trace state frame,
    Run serverStep .start trace state ∧ state.idAt 0 = some 1 ∧
      writes 1 trace = [List.replicate (2 ^ 32) 0] ∧ dataFrames (frames 0 trace) = [frame] ∧
      lengthField frame = some 0 ∧
      ¬ FramedTruthfully (writes 1 trace) (dataFrames (frames 0 trace)) := by
  have long : (List.replicate (2 ^ 32) (0 : UInt8)).length = 2 ^ 32 := List.length_replicate
  have something : List.replicate (2 ^ 32) (0 : UInt8) ≠ [] :=
    List.ne_nil_of_length_pos (by rw [long]; exact Nat.two_pow_pos 32)
  -- nothing below looks at the bytes
  generalize List.replicate (2 ^ 32) (0 : UInt8) = msg at long something ⊢
  cases msg with
  | nil => exact absurd rfl something
  | cons first rest =>
      rcases exists_run_of_write first rest with ⟨trace, state, run, drawn, written, emitted⟩
      have declared : lengthField (encode_grpc_frame (first :: rest)) = some 0 := by
        have header := lengthField_encode (first :: rest) []
        rwa [List.append_nil, long, Nat.mod_self] at header
      refine ⟨trace, state, _, run, drawn, written, emitted, declared, ?_⟩
      intro truthful
      rw [written, emitted] at truthful
      have length := truthful.lengths 0 (first :: rest) _ rfl rfl
      rw [declared, long] at length
      exact absurd (Option.some.inj length) (by decide)

end Zpr.GrpcServer
