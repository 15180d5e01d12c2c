import Mathlib.Data.List.Basic
import Zpr.Foundation.Execution
import Zpr.GrpcServer.CallQueue
import Zpr.GrpcServer.PumpInbound

namespace Zpr.GrpcServer

open Ffi

/-! # One request stream: the pump, its channel and the host's reads

`pump_inbound` as a task that waits for body frames and for room in the
channel, interleaved with a host that reads in queued mode
(`zpr_grpc_call_read_into`) or in callback mode (`zpr_grpc_stream_read`). -/

/-- The request body that the client sends: its frames, and whether it then
ends in a transport error or reset rather than in a clean end of stream. -/
structure RequestBody where
  frames : List BodyFrame
  failed : Bool
  deriving DecidableEq, Repr

/-- The messages that the pump sends when it decodes a whole request body. -/
def RequestBody.messages (body : RequestBody) : List Bytes := (pump_inbound body.frames).1.flatten

inductive PumpPhase
  /-- in `body.frame().await` -/
  | reading
  /-- in `tx.send(msg).await` -/
  | sending (msg : Bytes)
  /-- returned, and `tx` dropped -/
  | finished
  deriving DecidableEq, Repr

structure Pump where
  body : RequestBody
  buf : Bytes
  phase : PumpPhase
  deriving DecidableEq, Repr

namespace Pump

def spawn (body : RequestBody) : Pump where
  body := body
  buf := []
  phase := .reading

/-- The condition of `while let Some(msg) = try_decode_one(&mut buf)`. -/
def decode (pump : Pump) : Pump :=
  match try_decode_one pump.buf with
  | (some msg, buf) => { pump with buf := buf, phase := .sending msg }
  | (none, buf) => { pump with buf := buf, phase := .reading }

/-- Run the pump up to its next `await`. -/
def step (pump : Pump) (tx : Channel Bytes) : Option (Pump × Channel Bytes) :=
  match pump.phase with
  | .reading =>
      match pump.body.frames with
      | .data chunk :: frames =>
          some (decode { pump with
            body := { pump.body with frames := frames }, buf := pump.buf ++ chunk }, tx)
      | .other :: frames =>
          some ({ pump with body := { pump.body with frames := frames } }, tx)
      | [] =>
          -- `Some(Err(_)) => return` and `None => return` alike
          some ({ pump with phase := .finished }, tx.dropSender)
  | .sending msg =>
      match tx.trySend msg with
      | (tx, .sent) => some (pump.decode, tx)
      | (_, .full) => none
      | (tx, .closed) => some ({ pump with phase := .finished }, tx.dropSender)
  | .finished => none

/-- The messages that the pump has still to send. -/
def toSend (pump : Pump) : List Bytes :=
  match pump.phase with
  | .reading => (pump_frames pump.buf pump.body.frames).1.flatten
  | .sending msg =>
      let now := decode_loop pump.buf
      msg :: now.1 ++ (pump_frames now.2 pump.body.frames).1.flatten
  | .finished => []

theorem decode_toSend (pump : Pump) : pump.decode.toSend =
    (decode_loop pump.buf).1 ++
      (pump_frames (decode_loop pump.buf).2 pump.body.frames).1.flatten := by
  cases decoded : try_decode_one pump.buf with
  | mk msg buf =>
      cases msg with
      | none => simp [decode, decoded, toSend, decode_loop_of_none decoded]
      | some msg => simp [decode, decoded, toSend, decode_loop_of_some decoded]

/-- Task by task or in one go, the pump sends the same messages in the same
order. -/
theorem step_toSend {pump next : Pump} {tx after : Channel Bytes}
    (alive : tx.receiverAlive = true) (taken : pump.step tx = some (next, after)) :
    after.buffer ++ next.toSend = tx.buffer ++ pump.toSend := by
  unfold step at taken
  cases phase : pump.phase with
  | finished => simp [phase] at taken
  | reading =>
      cases frames : pump.body.frames with
      | nil =>
          simp only [phase, frames, Option.some.injEq, Prod.mk.injEq] at taken
          rcases taken with ⟨rfl, rfl⟩
          simp [toSend, phase, frames, pump_frames]
      | cons frame frames' =>
          cases frame with
          | other =>
              simp only [phase, frames, Option.some.injEq, Prod.mk.injEq] at taken
              rcases taken with ⟨rfl, rfl⟩
              simp [toSend, phase, frames, pump_frames, pump_frame]
          | data chunk =>
              simp only [phase, frames, Option.some.injEq, Prod.mk.injEq] at taken
              rcases taken with ⟨rfl, rfl⟩
              rw [decode_toSend]
              simp [toSend, phase, frames, pump_frames, pump_frame]
  | sending msg =>
      rcases tx.trySend_cases msg with
        ⟨_, dead⟩ | ⟨result, _, _⟩ | ⟨result, _, _⟩
      · rw [alive] at dead
        cases dead
      · simp only [phase, result, Option.some.injEq, Prod.mk.injEq] at taken
        rcases taken with ⟨rfl, rfl⟩
        rw [decode_toSend]
        simp [toSend, phase]
      · simp [phase, result] at taken

/-! ### The pump ends -/

/-- A bound on the number of steps that the pump still takes. -/
def work (pump : Pump) : Nat :=
  pump.body.frames.length + (received pump.body.frames).length + pump.buf.length +
    match pump.phase with
    | .reading => 1
    | .sending msg => msg.length + 6
    | .finished => 0

theorem decode_work (pump : Pump) : pump.decode.work ≤
    pump.body.frames.length + (received pump.body.frames).length + pump.buf.length + 1 := by
  cases decoded : try_decode_one pump.buf with
  | mk msg buf =>
      cases msg with
      | none =>
          have shorter := try_decode_one_length_le decoded
          simp only [decode, decoded, work]
          omega
      | some msg =>
          have length := congrArg List.length (try_decode_one_eq_some decoded).2
          simp only [List.length_append, encode_grpc_frame_length] at length
          simp only [decode, decoded, work]
          omega

theorem decode_phase (pump : Pump) : pump.decode.phase ≠ .finished := by
  unfold decode
  split <;> simp

theorem step_capacity {pump next : Pump} {tx after : Channel Bytes}
    (taken : pump.step tx = some (next, after)) : after.capacity = tx.capacity := by
  unfold step at taken
  cases phase : pump.phase with
  | finished => simp [phase] at taken
  | reading =>
      simp only [phase] at taken
      split at taken <;> cases taken <;> rfl
  | sending msg =>
      rcases tx.trySend_cases msg with ⟨result, _⟩ | ⟨result, _⟩ | ⟨result, _⟩
      · simp only [phase, result, Option.some.injEq, Prod.mk.injEq] at taken
        rw [← taken.2]
        rfl
      · simp only [phase, result, Option.some.injEq, Prod.mk.injEq] at taken
        rw [← taken.2]
      · simp [phase, result] at taken

/-- With room in its channel a running pump is never stuck, and gets closer to
its end. -/
theorem step_of_room (pump : Pump) {tx : Channel Bytes} (running : pump.phase ≠ .finished)
    (empty : tx.buffer = []) (room : 0 < tx.capacity) (alive : tx.receiverAlive = true) :
    ∃ next after, pump.step tx = some (next, after) ∧
      next.work + after.buffer.length < pump.work ∧
      after.capacity = tx.capacity ∧ after.receiverAlive = true ∧
      (next.phase = .finished → after.senderAlive = false) := by
  cases phase : pump.phase with
  | finished => exact absurd phase running
  | reading =>
      cases frames : pump.body.frames with
      | nil =>
          refine ⟨{ pump with phase := .finished }, tx.dropSender, by simp [step, phase, frames],
            ?_, rfl, alive, fun _ => rfl⟩
          simp [work, phase, frames, empty]
      | cons frame frames' =>
          cases frame with
          | other =>
              refine ⟨{ pump with body := { pump.body with frames := frames' } }, tx,
                by simp [step, phase, frames], ?_, rfl, alive, ?_⟩
              · simp only [work, phase, frames, empty, received, List.length_cons,
                  List.length_nil]
                omega
              · simp [phase]
          | data chunk =>
              let arrived : Pump := { pump with
                body := { pump.body with frames := frames' }, buf := pump.buf ++ chunk }
              have bound := arrived.decode_work
              have before : pump.work = frames'.length + 1 + (received arrived.body.frames).length +
                  arrived.buf.length + 1 := by
                simp only [work, phase, frames, arrived, received, List.length_cons,
                  List.length_append]
                omega
              refine ⟨arrived.decode, tx, by simp [step, phase, frames, arrived], ?_, rfl,
                alive, fun finished => absurd finished arrived.decode_phase⟩
              have sameFrames : arrived.body.frames.length = frames'.length := rfl
              rw [before, empty, List.length_nil]
              omega
  | sending msg =>
      have sent : tx.trySend msg = ({ tx with buffer := [msg] }, .sent) := by
        simp [Channel.trySend, alive, empty, room]
      have bound := pump.decode_work
      refine ⟨pump.decode, { tx with buffer := [msg] }, by simp [step, phase, sent], ?_, rfl,
        alive, fun finished => absurd finished pump.decode_phase⟩
      have current : pump.work = pump.body.frames.length +
          (received pump.body.frames).length + pump.buf.length + (msg.length + 6) := by
        simp [work, phase]
      rw [current, List.length_singleton]
      omega

end Pump

/-! ## The host's side -/

/-- One read by the host: `none` while it blocks. -/
abbrev HostRead (Reader Call Reply : Type) :=
  Reader → Channel Bytes → Call → Option (Reader × Channel Bytes × Reply)

structure RequestStream (Reader : Type) where
  pump : Pump
  inbound : Channel Bytes
  reader : Reader

inductive RequestAction (Call : Type)
  | pump
  | read (call : Call)

def requestStep (read : HostRead Reader Call Reply) :
    PartialStep (RequestStream Reader) (RequestAction Call) (Option Reply)
  | state, .pump =>
      (state.pump.step state.inbound).map fun (pump, inbound) =>
        ({ state with pump := pump, inbound := inbound }, none)
  | state, .read call =>
      (read state.reader state.inbound call).map fun (reader, inbound, reply) =>
        ({ state with reader := reader, inbound := inbound }, some reply)

/-- The request stream of a fresh call: `mpsc::channel::<Vec<u8>>(8)`. -/
def RequestStream.opened (body : RequestBody) (reader : Reader) : RequestStream Reader where
  pump := .spawn body
  inbound := .create 8
  reader := reader

/-- What `zpr_grpc_stream_read` returns and stores at `*out`. -/
structure StreamReadReply where
  rc : Int
  out : Option Bytes
  deriving DecidableEq, Repr

/-- Callback mode. `blocking_recv` waits for a message or for the channel to
close. -/
def zpr_grpc_stream_read : HostRead Unit Pointer StreamReadReply :=
  fun stream inbound out =>
    match inbound.tryRecv with
    | (inbound, .item msg) => some (stream, inbound, { rc := 1, out := out.store msg })
    | (inbound, .disconnected) => some (stream, inbound, { rc := 0, out := out.store [] })
    | (_, .empty) => none

/-- Queued mode, for a call that stays live. -/
def callRead : HostRead LiveCall Buffer BufferReply :=
  fun call inbound buffer => some (call.read_into inbound buffer)

/-- A host that can always take the next message off the channel, and is told
so when the channel has closed. -/
structure Drains (read : HostRead Reader Call Reply) (Ready : Reader → Prop)
    (Done : Reply → Prop) : Prop where
  take : ∀ reader (inbound : Channel Bytes) item buffer, Ready reader →
    inbound.buffer = item :: buffer → ∃ call after reply, Ready after ∧
      read reader inbound call = some (after, { inbound with buffer := buffer }, reply)
  finish : ∀ reader (inbound : Channel Bytes), Ready reader → inbound.buffer = [] →
    inbound.senderAlive = false → ∃ call after left reply, Done reply ∧
      read reader inbound call = some (after, left, reply)

namespace RequestStream

/-- The host is there to read, and the pump to send. -/
structure Readable (Ready : Reader → Prop) (state : RequestStream Reader) : Prop where
  ready : Ready state.reader
  room : 0 < state.inbound.capacity
  alive : state.inbound.receiverAlive = true
  closed : state.pump.phase = .finished → state.inbound.senderAlive = false

/-- The request has ended, and the host has read all of it. -/
def Exhausted (state : RequestStream Reader) : Prop :=
  state.pump.phase = .finished ∧ state.inbound.buffer = []

/-- The host reads whatever there is, and the pump runs while there is nothing. -/
theorem Readable.progress {read : HostRead Reader Call Reply} {Ready : Reader → Prop}
    {Done : Reply → Prop} {state : RequestStream Reader} (drains : Drains read Ready Done)
    (readable : state.Readable Ready) (unfinished : ¬ state.Exhausted) :
    ∃ action next reply, requestStep read state action = some (next, reply) ∧
      next.Readable Ready ∧ next.pump.work + next.inbound.buffer.length <
        state.pump.work + state.inbound.buffer.length := by
  cases held : state.inbound.buffer with
  | cons item buffer =>
      rcases drains.take state.reader state.inbound item buffer readable.ready held with
        ⟨call, reader, reply, ready, taken⟩
      refine ⟨.read call, { state with reader := reader, inbound := { state.inbound with
        buffer := buffer } }, some reply, by simp [requestStep, taken],
        ⟨ready, readable.room, readable.alive, readable.closed⟩, ?_⟩
      simp
  | nil =>
      have working : state.pump.phase ≠ .finished := fun finished => unfinished ⟨finished, held⟩
      rcases state.pump.step_of_room working held readable.room readable.alive with
        ⟨pump, inbound, taken, smaller, sameCapacity, alive, closed⟩
      refine ⟨.pump, { state with pump := pump, inbound := inbound }, none,
        by simp [requestStep, taken], ⟨readable.ready, ?_, alive, closed⟩, smaller⟩
      show 0 < inbound.capacity
      rw [sameCapacity]
      exact readable.room

/-- Whatever the body, a host that keeps reading is told in the end that the
client is done. -/
theorem exists_run_done {read : HostRead Reader Call Reply} {Ready : Reader → Prop}
    {Done : Reply → Prop} {state : RequestStream Reader} (drains : Drains read Ready Done)
    (readable : state.Readable Ready) :
    ∃ trace final call reply, Run (requestStep read) state trace final ∧
      (.read call, some reply) ∈ trace ∧ Done reply := by
  have progress : ∀ state : RequestStream Reader, state.Readable Ready → ¬ state.Exhausted →
      ∃ action next reply, True ∧ requestStep read state action = some (next, reply) ∧
        next.Readable Ready ∧ next.pump.work + next.inbound.buffer.length <
          state.pump.work + state.inbound.buffer.length := by
    intro state readable unfinished
    rcases readable.progress drains unfinished with ⟨action, next, reply, leadsOn⟩
    exact ⟨action, next, reply, trivial, leadsOn⟩
  rcases exists_run_of_progress (fun state => state.pump.work + state.inbound.buffer.length)
    progress readable with ⟨trace, last, run, readableLast, ended, nothing⟩
  rcases drains.finish last.reader last.inbound readableLast.ready nothing
    (readableLast.closed ended) with ⟨call, reader, left, reply, done, taken⟩
  have told : requestStep read last (.read call) =
      some ({ last with reader := reader, inbound := left }, some reply) := by
    simp [requestStep, taken]
  exact ⟨_, _, call, reply, Run.next run told, by simp, done⟩

end RequestStream

end Zpr.GrpcServer
