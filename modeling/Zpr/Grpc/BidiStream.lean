import Mathlib.Algebra.Group.Nat.Defs
import Zpr.Foundation.Channel
import Zpr.Grpc.ClientStream

namespace Zpr.Grpc.Bidi

open Ffi

/-! # A client-streaming call over the bidirectional API

Three parties: a host that runs the documented program (open, send every message,
close the sending half, read the reply), the library, which carries the request
stream up and the response down, and a server. The connection stands, no timeout
is set, and nothing that is sent gets lost. -/

/-- Both halves of a call, as the host holds them: `tx` is there until the sending
half is closed. -/
structure GrpcBidiStream where
  tx : Bool
  reader : GrpcClientStream
  deriving DecidableEq, Repr

/-- The largest capacity that `tokio::sync::mpsc::channel` does not panic on. -/
def MAX_PERMITS : Nat := (2 ^ 64 - 1) / 8

/-- The channel behind `ReqStream`, unless making it panics, which `guard` catches. -/
def requestChannel (send_capacity : Nat) : Option (Channel Bytes) :=
  let cap := if send_capacity = 0 then 8 else send_capacity
  if cap ≤ MAX_PERMITS then some (.create cap) else none

def zpr_grpc_bidi_send (stream : Option GrpcBidiStream) (rx : Channel Bytes) (data : Pointer)
    (bytes : Bytes) : Channel Bytes × Int × Option String :=
  match stream with
  | none => (rx, ZPR_ERR, some "null handle passed to zpr_grpc_bidi_send")
  | some s =>
      if bytes ≠ [] ∧ data = .null then
        (rx, ZPR_ERR, some "null data with a non-zero length")
      else if s.tx = false then
        (rx, ZPR_ERR, some "the sending half is already closed")
      else
        match rx.trySend bytes with
        | (rx, .sent) => (rx, 1, none)
        | (rx, .full) => (rx, 0, none)
        | (rx, .closed) => (rx, ZPR_ERR, some "the server hung up before this message was sent")

def zpr_grpc_bidi_close_send (stream : Option GrpcBidiStream) (rx : Channel Bytes) :
    Option GrpcBidiStream × Channel Bytes × Int × Option String :=
  match stream with
  | none => (none, rx, ZPR_ERR, some "null handle passed to zpr_grpc_bidi_close_send")
  | some s => (some { s with tx := false }, rx.dropSender, ZPR_OK, none)

/-- `none` while the call blocks. -/
def zpr_grpc_bidi_read_into (stream : Option GrpcBidiStream) (buffer : Buffer) :
    Option (Option GrpcBidiStream × BufferReply) :=
  match stream with
  | none =>
      some (none, { rc := ZPR_ERR, out_len := none, written := []
                    last_error := some "null handle passed to zpr_grpc_bidi_read_into" })
  | some s =>
      (zpr_grpc_client_stream_read_into s.reader buffer).map fun (reader, reply) =>
        (some { s with reader := reader }, reply)

/-! ## The server and the wire -/

/-- When a server sends the head of its response. -/
inductive Head
  | atOnce
  | afterRequestEnd
  deriving DecidableEq, Repr

/-- A client-streaming server answers once, when it has read every request. -/
structure ServerProgram where
  head : Head
  answer : List Bytes → Bytes

inductive Upload
  | message (bytes : Bytes)
  | endStream
  deriving DecidableEq, Repr

inductive Download
  | head
  | message (bytes : Bytes)
  | trailers
  deriving DecidableEq, Repr

/-- What a server has sent so far. -/
inductive Progress
  | nothing
  | head
  | reply
  | trailers
  deriving DecidableEq, Repr

structure Server where
  requests : List Bytes
  /-- it has read the end of the request stream -/
  ended : Bool
  progress : Progress
  deriving DecidableEq, Repr

/-- Where the host's program stands. -/
inductive Host
  | start (send_capacity : Nat) (messages : List Bytes)
  /-- inside `zpr_grpc_bidi_open`, which waits for `Grpc::streaming` -/
  | opening (messages : List Bytes)
  | sending (messages : List Bytes)
  | reading
  | delivered (reply : Bytes)
  | failed
  deriving DecidableEq, Repr

structure State where
  host : Host
  stream : Option GrpcBidiStream
  /-- the channel behind `ReqStream`, once the call has been made -/
  rx : Option (Channel Bytes)
  /-- `ReqStream` has yielded its end -/
  uploaded : Bool
  up : List Upload
  server : Server
  down : List Download
  deriving DecidableEq, Repr

def State.start (send_capacity : Nat) (messages : List Bytes) : State where
  host := .start send_capacity messages
  stream := none
  rx := none
  uploaded := false
  up := []
  server := { requests := [], ended := false, progress := .nothing }
  down := []

inductive Action
  | open_call
  | open_returns
  | send
  | close_send
  | read_into (buffer : Buffer)
  /-- the library polls `ReqStream` -/
  | poll_next
  /-- the server reads from the request stream -/
  | serve
  /-- the server sends what comes next -/
  | respond
  /-- the library takes what comes next off the response -/
  | deliver
  deriving DecidableEq, Repr

namespace State

/-- The first half of `zpr_grpc_bidi_open`: the channel is made and the request goes
out. -/
def open_call (state : State) : Option State :=
  match state.host with
  | .start send_capacity messages =>
      match requestChannel send_capacity with
      | some rx => some { state with host := .opening messages, rx := some rx }
      | none => some { state with host := .failed }
  | _ => none

/-- The second half: `Grpc::streaming` completes with the head of the response, and
only now is there a handle. -/
def open_returns (state : State) : Option State :=
  match state.host, state.down with
  | .opening messages, .head :: down =>
      some { state with
        host := .sending messages
        stream := some { tx := true, reader := { mode := .Pull .opened, pending := none } }
        down := down }
  | _, _ => none

def send (state : State) : Option State :=
  match state.host, state.rx with
  | .sending (message :: messages), some rx =>
      match zpr_grpc_bidi_send state.stream rx .valid message with
      | (rx, 1, _) => some { state with host := .sending messages, rx := some rx }
      | (_, 0, _) => some state
      | (_, _, _) => some { state with host := .failed }
  | _, _ => none

def close_send (state : State) : Option State :=
  match state.host, state.rx with
  | .sending [], some rx =>
      match zpr_grpc_bidi_close_send state.stream rx with
      | (stream, rx, 0, _) =>
          some { state with host := .reading, stream := stream, rx := some rx }
      | (_, _, _, _) => some { state with host := .failed }
  | _, _ => none

def read_into (state : State) (buffer : Buffer) : Option State :=
  match state.host with
  | .reading =>
      (zpr_grpc_bidi_read_into state.stream buffer).map fun (stream, reply) =>
        if reply.rc = 1 then
          { state with host := .delivered reply.written, stream := stream }
        else if reply.rc = ZPR_ERR_SHORT_BUFFER then
          -- to be called again with a larger buffer
          { state with stream := stream }
        else
          { state with host := .failed, stream := stream }
  | _ => none

def poll_next (state : State) : Option State :=
  match state.uploaded, state.rx with
  | false, some rx =>
      match rx.tryRecv with
      | (rx, .item bytes) =>
          some { state with rx := some rx, up := state.up ++ [.message bytes] }
      | (_, .empty) => none
      | (rx, .disconnected) =>
          some { state with rx := some rx, uploaded := true, up := state.up ++ [.endStream] }
  | _, _ => none

def serve (state : State) : Option State :=
  match state.up with
  | .message bytes :: up =>
      some { state with
        up := up
        server := { state.server with requests := state.server.requests ++ [bytes] } }
  | .endStream :: up => some { state with up := up, server := { state.server with ended := true } }
  | [] => none

def respond (program : ServerProgram) (state : State) : Option State :=
  let sends (progress : Progress) (download : Download) : State :=
    { state with
      server := { state.server with progress := progress }, down := state.down ++ [download] }
  match state.rx, state.server.progress with
  | some _, .nothing =>
      if program.head = .atOnce ∨ state.server.ended then some (sends .head .head) else none
  | some _, .head =>
      if state.server.ended then
        some (sends .reply (.message (program.answer state.server.requests)))
      else
        none
  | some _, .reply => some (sends .trailers .trailers)
  | _, _ => none

def deliver (state : State) : Option State :=
  match state.stream, state.down with
  | some ⟨tx, ⟨.Pull inner, pending⟩⟩, .message bytes :: down =>
      some { state with
        stream := some ⟨tx, ⟨.Pull (inner.arrive (.message bytes)), pending⟩⟩, down := down }
  | some ⟨tx, ⟨.Pull inner, pending⟩⟩, .trailers :: down =>
      some { state with
        stream := some ⟨tx, ⟨.Pull (inner.arrive .finished), pending⟩⟩, down := down }
  | _, _ => none

end State

def bidiStep (program : ServerProgram) : PartialStep State Action Unit := fun state action =>
  (match action with
    | .open_call => state.open_call
    | .open_returns => state.open_returns
    | .send => state.send
    | .close_send => state.close_send
    | .read_into buffer => state.read_into buffer
    | .poll_next => state.poll_next
    | .serve => state.serve
    | .respond => state.respond program
    | .deliver => state.deliver).map fun next => (next, ())

/-! ## Whether the reply arrives -/

/-- The host has its reply. -/
def State.Delivered (state : State) : Prop :=
  ∃ reply, state.host = .delivered reply

/-- No party can take a step. -/
def Stuck (program : ServerProgram) (state : State) : Prop :=
  ∀ action, bidiStep program state action = none

/-- No reachable state, before the reply is delivered, leaves every party waiting. -/
def DeadlockFree (program : ServerProgram) (send_capacity : Nat) (messages : List Bytes) : Prop :=
  ∀ state, Reachable (bidiStep program) (.start send_capacity messages) state →
    ¬ state.Delivered → ¬ Stuck program state

/-- `zpr_grpc_bidi_open` waits for a head that the server will not send before the
end of a request stream whose sender is still a local of this very call. -/
def State.waitingForHead (send_capacity : Nat) (messages : List Bytes) (rx : Channel Bytes) :
    State :=
  { State.start send_capacity messages with host := .opening messages, rx := some rx }

theorem requestChannel_eq (made : requestChannel send_capacity = some rx) :
    rx.senderAlive = true ∧ rx.buffer = [] := by
  simp only [requestChannel, Option.ite_none_right_eq_some, Option.some.injEq] at made
  rcases made with ⟨_, rfl⟩
  exact ⟨rfl, rfl⟩

theorem stuck_waitingForHead {answer : List Bytes → Bytes} {messages : List Bytes}
    (made : requestChannel send_capacity = some rx) :
    Stuck ⟨.afterRequestEnd, answer⟩ (.waitingForHead send_capacity messages rx) := by
  rcases requestChannel_eq made with ⟨alive, empty⟩
  intro action
  cases action with
  | poll_next =>
      have nothing : rx.tryRecv = (rx, .empty) := by simp [Channel.tryRecv, alive, empty]
      simp [bidiStep, State.poll_next, State.waitingForHead, State.start, nothing]
  | _ => rfl

theorem stuck_failed {program : ServerProgram} {messages : List Bytes} :
    Stuck program { State.start send_capacity messages with host := .failed } := by
  intro action
  cases action <;> rfl

/-- Against a server that sends its head late, no run gets beyond the opening. -/
theorem reachable_cases {answer : List Bytes → Bytes}
    (reachable : Reachable (bidiStep ⟨.afterRequestEnd, answer⟩) (.start send_capacity messages)
      state) :
    state = .start send_capacity messages ∨
      state = { State.start send_capacity messages with host := .failed } ∨
      ∃ rx, requestChannel send_capacity = some rx ∧
        state = .waitingForHead send_capacity messages rx := by
  apply reachable.invariant fun state => state = .start send_capacity messages ∨
    state = { State.start send_capacity messages with host := .failed } ∨
    ∃ rx, requestChannel send_capacity = some rx ∧
      state = .waitingForHead send_capacity messages rx
  · exact .inl rfl
  · intro state action next reply known taken
    rcases known with rfl | rfl | ⟨rx, made, rfl⟩
    · cases action with
      | open_call =>
          simp only [bidiStep, State.open_call, State.start] at taken
          cases made : requestChannel send_capacity with
          | none =>
              rw [made] at taken
              cases taken
              exact .inr (.inl rfl)
          | some rx =>
              rw [made] at taken
              cases taken
              exact .inr (.inr ⟨rx, rfl, rfl⟩)
      | _ => cases taken
    · rw [stuck_failed] at taken
      cases taken
    · rw [stuck_waitingForHead made] at taken
      cases taken

/-- Whatever the host wants to send and however much the channel may hold, the
program comes to a halt inside `zpr_grpc_bidi_open`, and the reply never arrives. -/
theorem client_streaming_deadlocks (answer : List Bytes → Bytes) (send_capacity : Nat)
    (messages : List Bytes) :
    ¬ DeadlockFree ⟨.afterRequestEnd, answer⟩ send_capacity messages ∧
      ∀ state, Reachable (bidiStep ⟨.afterRequestEnd, answer⟩) (.start send_capacity messages)
        state → ¬ state.Delivered := by
  have undelivered : ∀ state, Reachable (bidiStep ⟨.afterRequestEnd, answer⟩)
      (.start send_capacity messages) state → ¬ state.Delivered := by
    intro state reachable delivered
    rcases delivered with ⟨reply, host⟩
    rcases reachable_cases reachable with rfl | rfl | ⟨rx, _, rfl⟩ <;> cases host
  refine ⟨fun deadlockFree => ?_, undelivered⟩
  have opened : ∃ state, Reachable (bidiStep ⟨.afterRequestEnd, answer⟩)
      (.start send_capacity messages) state ∧ Stuck ⟨.afterRequestEnd, answer⟩ state := by
    cases made : requestChannel send_capacity with
    | none =>
        have fails : bidiStep ⟨.afterRequestEnd, answer⟩ (.start send_capacity messages)
            .open_call = some ({ State.start send_capacity messages with host := .failed }, ()) := by
          simp [bidiStep, State.open_call, State.start, made]
        exact ⟨_, Reachable.start.next fails, stuck_failed⟩
    | some rx =>
        have waits : bidiStep ⟨.afterRequestEnd, answer⟩ (.start send_capacity messages)
            .open_call = some (.waitingForHead send_capacity messages rx, ()) := by
          simp [bidiStep, State.open_call, State.waitingForHead, State.start, made]
        exact ⟨_, Reachable.start.next waits, stuck_waitingForHead made⟩
  rcases opened with ⟨state, reachable, stuck⟩
  exact deadlockFree state reachable (undelivered state reachable) stuck

/-- One message and the default capacity. -/
theorem one_message_deadlocks : ∃ state,
    Reachable (bidiStep ⟨.afterRequestEnd, fun requests => requests.flatten⟩) (.start 0 [[7]])
      state ∧
    state.host = .opening [[7]] ∧ ¬ state.Delivered ∧
    Stuck ⟨.afterRequestEnd, fun requests => requests.flatten⟩ state := by
  have opens : bidiStep ⟨.afterRequestEnd, fun requests => requests.flatten⟩ (.start 0 [[7]])
      .open_call = some (.waitingForHead 0 [[7]] (.create 8), ()) := rfl
  refine ⟨_, Reachable.start.next opens, rfl, ?_, ?_⟩
  · intro delivered
    rcases delivered with ⟨reply, host⟩
    cases host
  · intro action
    cases action <;> rfl

end Zpr.Grpc.Bidi
