import Mathlib.Algebra.Group.Nat.Defs
import Zpr.Foundation.Execution
import Zpr.GrpcServer.OutboundBody
import Zpr.GrpcServer.RequestStream

namespace Zpr.GrpcServer

open Ffi

/-! # The queued server

The state that the connection tasks, the host's threads and the reaper share,
and one step for each critical section, atomic access or channel operation of
theirs. Steps of different parties interleave in any order. -/

/-- How far `handle_queued` has got with an RPC. -/
inductive Arrival
  | arrived
  | refused
  /-- past the check of `pending` -/
  | admitted
  /-- has loaded `deadline_ms` -/
  | stamped (ms : Nat)
  /-- has drawn an id -/
  | numbered (ms id : Nat)
  /-- put into `live` -/
  | inserted (ms id : Nat)
  /-- pushed on `pending`; `handle_queued` has returned -/
  | queued (ms id : Nat)
  deriving DecidableEq, Repr

namespace Arrival

/-- The id that an RPC has drawn. -/
def id? : Arrival → Option Nat
  | .numbered _ id | .inserted _ id | .queued _ id => some id
  | _ => none

/-- The id under which an RPC has been put into `live`, and the deadline in
milliseconds that it was stamped with. -/
def entered? : Arrival → Option (Nat × Nat)
  | .inserted ms id | .queued ms id => some (id, ms)
  | _ => none

/-- No thread is executing `handle_queued` for the RPC. -/
def settled : Arrival → Bool
  | .arrived | .refused | .queued _ _ => true
  | _ => false

end Arrival

/-- One RPC: its task `pump_inbound`, its two channels, its status and its
response body. A refused RPC has an `immediate_error` for a body instead. -/
structure Rpc where
  path : String
  arrival : Arrival
  pump : Pump
  inbound : Channel Bytes
  body : OutboundBody
  /-- the frames of the immediate error that are still to be sent -/
  refusal : List Frame
  /-- the client keeps the response open -/
  connected : Bool
  deriving DecidableEq, Repr

namespace Rpc

/-- The start of `handle_queued`: channels made, `pump_inbound` spawned. -/
def arrive (path : String) (body : RequestBody) : Rpc where
  path := path
  arrival := .arrived
  pump := .spawn body
  inbound := .create 8
  body := .opened
  refusal := []
  connected := true

/-- The response body is dropped, and with it its receivers. -/
def hangUp (rpc : Rpc) : Rpc :=
  { rpc with connected := false, body := { rpc.body with rx := rpc.body.rx.dropReceiver } }

/-- The runtime is dropped, and with it every task and body of the RPC. -/
def shutDown (rpc : Rpc) : Rpc :=
  { rpc.hangUp with
    pump := { rpc.pump with phase := .finished }
    inbound := rpc.inbound.dropSender }

end Rpc

/-- Who takes a call out of `live`. -/
inductive Remover
  | complete
  | reaper
  | free
  deriving DecidableEq, Repr

/-- What has been done with a call since it was taken out of `live`. -/
inductive Stage
  | taken
  /-- its status has been sent -/
  | answered
  /-- its counter has been increased; only dropping it is left -/
  | counted
  deriving DecidableEq, Repr

/-- A call out of `live` that its remover has not dropped yet. -/
structure Removed where
  call : LiveCall
  outcome : Int × String
  remover : Remover
  stage : Stage
  deriving DecidableEq, Repr

def Remover.count (remover : Remover) (queue : CallQueue) : CallQueue :=
  match remover with
  | .complete => { queue with completed := queue.completed + 1 }
  | .reaper => { queue with reaped := queue.reaped + 1 }
  | .free => queue

/-- Where `reap_loop` stands. -/
inductive Reaper
  /-- between two ticks, or busy with the calls of the last sweep -/
  | waiting
  /-- has found a non-zero `deadline_ms` -/
  | armed
  /-- has read the clock -/
  | timed (now : Nat)
  deriving DecidableEq, Repr

structure Server where
  queue : CallQueue
  /-- the RPCs in the order of their arrival -/
  rpcs : List Rpc
  removed : IdMap Removed
  reaper : Reaper
  /-- the `deadline_ms` that running configure calls have still to store -/
  configuring : List Nat
  now : Nat
  /-- the server's runtime has not been dropped -/
  running : Bool

/-- What the host, a client, a task or the clock does next. -/
inductive Action
  | tick (elapsed : Nat)
  | arrive (path : String) (body : RequestBody)
  | handle_queued (rpc : Nat)
  | pump_inbound (rpc : Nat)
  | poll_frame (rpc : Nat)
  | hang_up (rpc : Nat)
  | accept (out_call_id : Pointer) (out_method : Buffer)
  | read_into (call_id : Nat) (buffer : Buffer)
  | write (call_id : Nat) (data : Pointer) (bytes : Bytes)
  | complete (call_id : Nat) (grpc_status : Int) (message : Option Bytes)
  /-- the remover of a call goes on with it -/
  | advance (call_id : Nat)
  | configure (max_pending deadline_ms : Nat)
  /-- a configure call goes on to its second store -/
  | store_deadline (index : Nat)
  | reap_loop
  | queue_free
  | server_stop
  deriving DecidableEq, Repr

/-- What an action shows to whoever took it. A call that gives its result in an
early step goes on afterwards: `returned ZPR_OK` settles the return code. -/
inductive Reply
  | silent
  | accepted (reply : AcceptReply)
  | read (reply : BufferReply)
  | returned (rc : Int) (last_error : Option String)
  /-- the ids of the calls taken out of `live` -/
  | removed (ids : List Nat)
  | polled (poll : PollFrame)
  deriving DecidableEq, Repr

namespace Server

/-- `zpr_grpc_server_start_queued`. -/
def start : Server where
  queue := .new
  rpcs := []
  removed := ∅
  reaper := .waiting
  configuring := []
  now := 0
  running := true

def update (state : Server) (rpc : Nat) (change : Rpc → Rpc) : Server :=
  { state with rpcs := state.rpcs.modify rpc change }

/-! ### `handle_queued` -/

/-- When a call that goes into `live` now expires. -/
def expires_at (state : Server) (ms : Nat) : Nat :=
  state.now + from_millis (if ms = 0 then (2 ^ 64 - 1) / 4 else ms)

def handle_queued (state : Server) (index : Nat) : Option (Server × Reply) :=
  if state.running = false then
    none
  else
    match state.rpcs[index]? with
    | none => none
    | some rpc =>
        match rpc.arrival with
        | .arrived =>
            -- both branches run with `pending` locked, which the first releases
            -- before it answers
            if state.queue.max_pending ≤ state.queue.pending.length then
              some ({ state with queue := { state.queue with
                  refused := state.queue.refused + 1 } }.update index fun _ =>
                    { rpc with
                      arrival := .refused
                      refusal := immediate_error GRPC_RESOURCE_EXHAUSTED
                        "the server has more calls queued than it can accept"
                      inbound := rpc.inbound.dropReceiver }, .silent)
            else
              some (state.update index fun _ => { rpc with arrival := .admitted }, .silent)
        | .admitted =>
            some (state.update index fun _ =>
              { rpc with arrival := .stamped state.queue.deadline_ms }, .silent)
        | .stamped ms =>
            some ({ state with queue := { state.queue with
                next_id := state.queue.next_id + 1 } }.update index fun _ =>
                  { rpc with arrival := .numbered ms state.queue.next_id }, .silent)
        | .numbered ms id =>
            some ({ state with queue := { state.queue with
                live := state.queue.live.insert id
                  (.admitted index (state.expires_at ms)) } }.update index fun _ =>
                  { rpc with arrival := .inserted ms id }, .silent)
        | .inserted ms id =>
            some ({ state with queue := { state.queue with
                pending := state.queue.pending ++ [(id, rpc.path)] } }.update index fun _ =>
                  { rpc with arrival := .queued ms id }, .silent)
        | .refused | .queued _ _ => none

/-! ### The connection task -/

def pump_inbound (state : Server) (index : Nat) : Option (Server × Reply) :=
  if state.running = false then
    none
  else
    match state.rpcs[index]? with
    | none => none
    | some rpc =>
        (rpc.pump.step rpc.inbound).map fun (pump, inbound) =>
          (state.update index fun rpc => { rpc with pump := pump, inbound := inbound }, .silent)

def poll_frame (state : Server) (index : Nat) : Option (Server × Reply) :=
  if state.running = false then
    none
  else
    match state.rpcs[index]? with
    | none => none
    | some rpc =>
        if rpc.connected = false then
          none
        else
          match rpc.arrival with
          | .queued _ _ =>
              let polled := rpc.body.poll_frame
              some (state.update index fun rpc => { rpc with body := polled.1 },
                .polled polled.2)
          | .refused =>
              some (state.update index fun rpc => { rpc with refusal := rpc.refusal.tail },
                .polled (.ready rpc.refusal.head?))
          | _ => none

/-- The client resets the RPC or disconnects, and its response body is dropped. -/
def hang_up (state : Server) (index : Nat) : Option (Server × Reply) :=
  match state.rpcs[index]? with
  | none => none
  | some rpc =>
      match rpc.arrival with
      | .queued _ _ | .refused => some (state.update index Rpc.hangUp, .silent)
      | _ => none

/-! ### The host's calls -/

def call_read_into (state : Server) (call_id : Nat) (buffer : Buffer) :
    Option (Server × Reply) :=
  match state.queue.live.find? call_id with
  | none =>
      some (state, .read { rc := ZPR_ERR, out_len := buffer.out_len.store 0, written := [],
                           last_error := some (noLiveCall call_id) })
  | some call =>
      (state.rpcs[call.inbound_rx]?).map fun rpc =>
        let (read, inbound, reply) := call.read_into rpc.inbound buffer
        ({ state with queue := { state.queue with
            live := state.queue.live.insert call_id read } }.update call.inbound_rx fun rpc =>
              { rpc with inbound := inbound }, .read reply)

def call_write (state : Server) (call_id : Nat) (data : Pointer) (bytes : Bytes) :
    Option (Server × Reply) :=
  if bytes ≠ [] ∧ data = .null then
    some (state, .returned ZPR_ERR (some "null data with a non-zero length"))
  else
    match state.queue.live.find? call_id with
    | none => some (state, .returned ZPR_ERR (some (noLiveCall call_id)))
    | some call =>
        (state.rpcs[call.outbound_tx]?).map fun rpc =>
          match rpc.body.rx.trySend bytes with
          | (rx, .sent) =>
              (state.update call.outbound_tx fun rpc =>
                { rpc with body := { rpc.body with rx := rx } }, .returned ZPR_CALL_MESSAGE none)
          | (_, .full) => (state, .returned ZPR_CALL_NONE none)
          | (_, .closed) =>
              (state, .returned ZPR_ERR
                (some "the client hung up before this message was sent"))

/-- Take calls out of `live`, to be answered with `outcome`. -/
def take (state : Server) (remover : Remover) (outcome : Int × String) (ids : List Nat) :
    Server :=
  let maps := IdMap.transfer (fun call => Removed.mk call outcome remover .taken) ids
    state.queue.live state.removed
  { state with queue := { state.queue with live := maps.1 }, removed := maps.2 }

/-- The status message that `zpr_grpc_call_complete` is given. -/
def status_message (message : Option Bytes) : Except String String :=
  match message with
  | none => .ok ""
  | some _ => cstr_to_str message

def call_complete (state : Server) (call_id : Nat) (grpc_status : Int)
    (message : Option Bytes) : Server × Reply :=
  match status_message message with
  | .error e => (state, .returned ZPR_ERR (some e))
  | .ok msg =>
      match state.queue.live.find? call_id with
      | none => (state, .returned ZPR_ERR (some (noLiveCall call_id)))
      | some _ => (state.take .complete (grpc_status, msg) [call_id], .returned ZPR_OK none)

/-- `tx.send(status)`, where the call still has its status sender. -/
def send_status (state : Server) (status_tx : Option Nat) (outcome : Int × String) : Server :=
  match status_tx with
  | none => state
  | some index => state.update index fun rpc =>
      { rpc with body := { rpc.body with status_rx := rpc.body.status_rx.send outcome } }

/-- A `LiveCall` goes out of scope. -/
def drop_call (state : Server) (call : LiveCall) : Server :=
  let dropped := (state.update call.inbound_rx fun rpc =>
      { rpc with inbound := rpc.inbound.dropReceiver }).update call.outbound_tx fun rpc =>
      { rpc with body := { rpc.body with rx := rpc.body.rx.dropSender } }
  match call.status_tx with
  | none => dropped
  | some index => dropped.update index fun rpc =>
      { rpc with body := { rpc.body with status_rx := rpc.body.status_rx.dropSender } }

/-- The next step of whoever took a call out of `live`: send its status, count
it, drop it. -/
def advance (state : Server) (call_id : Nat) : Option (Server × Reply) :=
  (state.removed.find? call_id).map fun removal =>
    match removal.stage with
    | .taken =>
        let answered := { removal with
          call := { removal.call with status_tx := none }, stage := .answered }
        ({ state with removed := state.removed.insert call_id answered }.send_status
          removal.call.status_tx removal.outcome, .silent)
    | .answered =>
        ({ state with
            queue := removal.remover.count state.queue
            removed := state.removed.insert call_id { removal with stage := .counted } }, .silent)
    | .counted =>
        ({ state with removed := state.removed.erase call_id }.drop_call removal.call, .silent)

def queue_configure (state : Server) (max_pending deadline_ms : Nat) : Server × Reply :=
  if max_pending = 0 then
    (state, .returned ZPR_ERR (some "a max_pending of 0 would refuse every call"))
  else
    ({ state with
        queue := { state.queue with max_pending := max_pending }
        configuring := state.configuring ++ [deadline_ms] }, .returned ZPR_OK none)

def store_deadline (state : Server) (index : Nat) : Option (Server × Reply) :=
  (state.configuring[index]?).map fun deadline_ms =>
    ({ state with
        queue := { state.queue with deadline_ms := deadline_ms }
        configuring := state.configuring.eraseIdx index }, .silent)

/-! ### The reaper and the end of the server -/

def reaperStatus : Int × String :=
  (GRPC_DEADLINE_EXCEEDED, "the server accepted this call and did not complete it in time")

def freeStatus : Int × String :=
  (GRPC_UNAVAILABLE, "the server stopped before this call was answered")

/-- The reaper is still busy with calls that it took out of `live`. -/
def reaping (state : Server) : Bool :=
  state.removed.entries.any fun entry => entry.2.remover == .reaper

/-- The ids that a sweep with this clock reading takes out of `live`. -/
def expired (state : Server) (now : Nat) : List Nat :=
  IdMap.select (fun call : LiveCall => call.expires_at ≤ now) state.queue.live

def reap_loop (state : Server) : Option (Server × Reply) :=
  if state.running = false then
    none
  else
    match state.reaper with
    | .waiting =>
        if state.reaping then
          none
        else if state.queue.deadline_ms = 0 then
          some (state, .silent)
        else
          some ({ state with reaper := .armed }, .silent)
    | .armed => some ({ state with reaper := .timed state.now }, .silent)
    | .timed now =>
        let ids := state.expired now
        some ({ state with reaper := .waiting }.take .reaper reaperStatus ids, .removed ids)

/-- `zpr_grpc_queue_free`. `live` stays locked while the drained calls are
answered; since it is empty nobody sees that from the outside. -/
def queue_free (state : Server) : Server × Reply :=
  let ids := state.queue.live.keys
  (state.take .free freeStatus ids, .removed ids)

/-- `zpr_grpc_server_stop`, at the moment the runtime has been dropped: every
task has reached an `await`. -/
def server_stop (state : Server) : Option (Server × Reply) :=
  if state.running && state.reaper == .waiting && !state.reaping &&
      state.rpcs.all (fun rpc => rpc.arrival.settled) then
    some ({ state with running := false, rpcs := state.rpcs.map Rpc.shutDown }, .silent)
  else
    none

end Server

def serverStep : PartialStep Server Action Reply
  | state, .tick elapsed => some ({ state with now := state.now + elapsed }, .silent)
  | state, .arrive path body =>
      if state.running then
        some ({ state with rpcs := state.rpcs ++ [.arrive path body] }, .silent)
      else
        none
  | state, .handle_queued rpc => state.handle_queued rpc
  | state, .pump_inbound rpc => state.pump_inbound rpc
  | state, .poll_frame rpc => state.poll_frame rpc
  | state, .hang_up rpc => state.hang_up rpc
  | state, .accept out_call_id out_method =>
      let (queue, reply) := zpr_grpc_accept state.queue out_call_id out_method
      some ({ state with queue := queue }, .accepted reply)
  | state, .read_into call_id buffer => state.call_read_into call_id buffer
  | state, .write call_id data bytes => state.call_write call_id data bytes
  | state, .complete call_id grpc_status message =>
      some (state.call_complete call_id grpc_status message)
  | state, .advance call_id => state.advance call_id
  | state, .configure max_pending deadline_ms =>
      some (state.queue_configure max_pending deadline_ms)
  | state, .store_deadline index => state.store_deadline index
  | state, .reap_loop => state.reap_loop
  | state, .queue_free => some state.queue_free
  | state, .server_stop => state.server_stop

end Zpr.GrpcServer
