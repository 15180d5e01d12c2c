import Zpr.Ffi.OwnedMemory
import Zpr.GrpcServer.CallbackCall
import Zpr.Pascal.JsonKeys
import Zpr.Pascal.TBytes

namespace Zpr.Pascal

open Ffi GrpcServer

/-! # Callback mode as the host sees it

`GrpcTrampoline` stands between the handler's thread and a method of the host. Messages come
to the method in buffers of the library, and the message of its status goes back in a block
of the library. All threads share one allocator. -/

/-- The array, and the memory without the buffer. -/
def BufferToBytes (memory : Memory) (ABuf : ZprBuffer) : Option (TBytes × Memory) :=
  (if ABuf.len > 0 then memory.look ABuf.data ABuf.len else some []).bind fun Result =>
    (zpr_buffer_free memory ABuf).map fun memory => (Result, memory)

/-- The string, and the memory without the library's. -/
def TakeString (fromAnsi : Json.FromAnsi) (memory : Memory) (P : Address) :
    Option (Bytes × Memory) :=
  if P = .null then some ([], memory)
  else
    (cstr_from_ptr memory P).bind fun text =>
      (zpr_string_free memory P).map fun memory => (fromAnsi text, memory)

/-- What a call of the library has left to its caller. -/
inductive Received
  | buffer (Buf : ZprBuffer)
  | string (P : Address)
  deriving DecidableEq, Repr

/-- How far the handler's thread has got. -/
inductive HandlerThread
  /-- about to enter `GrpcTrampoline` -/
  | entering
  /-- in `FOnCall` -/
  | FOnCall
  /-- in `Read`, with a message -/
  | reading (Buf : ZprBuffer)
  /-- `GrpcTrampoline` has returned -/
  | returned (OutGrpcStatus : Int) (OutMessage : Address) (OutMessageLen : Nat)
  /-- the library has taken the message of the status -/
  | left
  deriving DecidableEq, Repr

/-- A call and its handler's thread, or another thread of the host with what it has received
and not yet taken. -/
inductive Party
  | call (rpc : CallbackCall) (thread : HandlerThread)
  | host (received : List Received)

/-- A server in callback mode. -/
structure CallbackHost where
  memory : Memory
  /-- `FOnCall` is assigned -/
  assigned : Bool
  parties : List Party

def CallbackHost.start (assigned : Bool) : CallbackHost where
  memory := .empty
  assigned := assigned
  parties := []

/-- What a function of the library hands over to the host. -/
inductive Handed
  | bytes (v : Vec UInt8)
  | no_bytes
  | text (s : String)
  | no_text

inductive CallbackHostAction
  | arrive (path : String) (body : RequestBody)
  /-- what the connection and the library's closure do for a call -/
  | task (index : Nat) (action : CallbackAction)
  /-- `GrpcTrampoline` is entered. -/
  | enter (index : Nat)
  /-- `zpr_grpc_stream_read`, with what the allocator gives beyond what is asked for -/
  | Read (index spare : Nat)
  /-- the rest of `Read` -/
  | BufferToBytes (index : Nat)
  | Write (index : Nat) (AData : TBytes)
  /-- `FOnCall` returns. -/
  | returns (index : Nat) (Status : Int) (Msg : Bytes)
  /-- An exception leaves `FOnCall`. -/
  | raises (index : Nat) (Message : String)
  /-- The library makes a string of `out_msg`. -/
  | take_message (index : Nat)
  | start_thread
  /-- A function of the library returns to a thread with something for it. -/
  | hand (index : Nat) (handed : Handed)
  /-- The thread takes what it has had longest. -/
  | take (index : Nat)

inductive CallbackHostReply
  | silent
  | refused (frames : List Frame)
  | callback (reply : CallbackReply)
  | bytes (AData : TBytes)
  | text (S : Bytes)
  | took (out_status : Int) (out_msg : Option Bytes)
  /-- memory has been used that must not be -/
  | undefined
  deriving DecidableEq, Repr

/-- What `task` may be: the handler's own calls go through the trampoline. -/
def isTask : CallbackAction → Bool
  | .read _ | .write _ _ | .returns _ _ => false
  | _ => true

/-- The end of `GrpcTrampoline`: what it stores at its `out` parameters. -/
def trampolineEnd (memory : Memory) (Status : Int) (Msg : Bytes) :
    Option (HandlerThread × Memory) :=
  if Msg.length > 0 then
    let (OutMessage, memory) := zpr_alloc memory Msg.length
    (memory.overwrite OutMessage Msg).map fun memory =>
      (.returned Status OutMessage Msg.length, memory)
  else some (.returned Status .null 0, memory)

/-- `out_msg` as the closure finds it. -/
def takeMessage (memory : Memory) (out_msg : Address) (out_msg_len : Nat) :
    Option (Option Bytes × Memory) :=
  if out_msg = .null then some (none, memory)
  else (memory.reclaim out_msg out_msg_len out_msg_len).map fun (bytes, memory) =>
    (some bytes.items, memory)

/-- What `hand` leaves to the thread. -/
def Handed.receive (memory : Memory) : Handed → Received × Memory
  | .bytes v => (ZprBuffer.from_vec memory v).map .buffer id
  | .no_bytes => (.buffer .empty, memory)
  | .text s => (cstring_into_raw memory s).map .string id
  | .no_text => (.string .null, memory)

/-- One of `BufferToBytes` and `TakeString`. -/
def Received.take (fromAnsi : Json.FromAnsi) (memory : Memory) :
    Received → Option (CallbackHostReply × Memory)
  | .buffer Buf => (BufferToBytes memory Buf).map fun (AData, memory) =>
      (.bytes AData, memory)
  | .string P => (TakeString fromAnsi memory P).map fun (S, memory) => (.text S, memory)

namespace CallbackHost

/-- The party is as given, and the memory as well. -/
def update (host : CallbackHost) (index : Nat) (party : Party) (memory : Memory) : CallbackHost :=
  { host with memory := memory, parties := host.parties.set index party }

/-- Go on, unless the memory has been used wrongly. -/
def unlessUndefined (host : CallbackHost) (used : Option α)
    (go : α → Option (CallbackHost × CallbackHostReply)) :
    Option (CallbackHost × CallbackHostReply) :=
  match used with
  | none => some (host, .undefined)
  | some result => go result

@[simp] theorem unlessUndefined_some (host : CallbackHost) (result : α)
    (go : α → Option (CallbackHost × CallbackHostReply)) :
    host.unlessUndefined (some result) go = go result := rfl

/-- What a call's handler or task does next, where its thread is as far as it needs. -/
def onCall (host : CallbackHost) (index : Nat)
    (go : CallbackCall → HandlerThread → Option (CallbackHost × CallbackHostReply)) :
    Option (CallbackHost × CallbackHostReply) :=
  match host.parties[index]? with
  | some (.call rpc thread) => go rpc thread
  | _ => none

def arrive (host : CallbackHost) (path : String) (body : RequestBody) :
    CallbackHost × CallbackHostReply :=
  match handle path body with
  | .error frames => (host, .refused frames)
  | .ok rpc => ({ host with parties := host.parties ++ [.call rpc .entering] }, .silent)

def task (host : CallbackHost) (index : Nat) (action : CallbackAction) :
    Option (CallbackHost × CallbackHostReply) :=
  host.onCall index fun rpc thread =>
    if isTask action then
      (callbackStep rpc action).map fun (rpc, reply) =>
        (host.update index (.call rpc thread) host.memory, .callback reply)
    else none

/-- `GrpcTrampoline` from the end of the `try` statement on. -/
def leave (host : CallbackHost) (index : Nat) (rpc : CallbackCall) (Status : Int) (Msg : Bytes) :
    Option (CallbackHost × CallbackHostReply) :=
  host.unlessUndefined (trampolineEnd host.memory Status Msg) fun (thread, memory) =>
    some (host.update index (.call rpc thread) memory, .silent)

def enter (host : CallbackHost) (index : Nat) : Option (CallbackHost × CallbackHostReply) :=
  host.onCall index fun rpc thread =>
    match thread with
    | .entering =>
        if host.assigned then some (host.update index (.call rpc .FOnCall) host.memory, .silent)
        else host.leave index rpc 12 []
    | _ => none

def Read (host : CallbackHost) (index spare : Nat) : Option (CallbackHost × CallbackHostReply) :=
  host.onCall index fun rpc thread =>
    match thread with
    | .FOnCall =>
        (rpc.stream_read .valid).map fun (rpc, reply) =>
          match reply with
          | .read { rc := 1, out := some msg } =>
              let (Buf, memory) := ZprBuffer.from_vec host.memory
                ⟨msg, msg.length + spare, Nat.le_add_right _ _⟩
              (host.update index (.call rpc (.reading Buf)) memory, .callback reply)
          | _ => (host.update index (.call rpc .FOnCall) host.memory, .callback reply)
    | _ => none

def BufferToBytes (host : CallbackHost) (index : Nat) :
    Option (CallbackHost × CallbackHostReply) :=
  host.onCall index fun rpc thread =>
    match thread with
    | .reading Buf =>
        host.unlessUndefined (Pascal.BufferToBytes host.memory Buf) fun (AData, memory) =>
          some (host.update index (.call rpc .FOnCall) memory, .bytes AData)
    | _ => none

def Write (host : CallbackHost) (index : Nat) (AData : TBytes) :
    Option (CallbackHost × CallbackHostReply) :=
  host.onCall index fun rpc thread =>
    match thread with
    | .FOnCall =>
        (rpc.stream_write (BytesPtr AData) AData).map fun (rpc, reply) =>
          (host.update index (.call rpc .FOnCall) host.memory, .callback reply)
    | _ => none

/-- `FOnCall` is over. -/
def finish (host : CallbackHost) (index : Nat) (Status : Int) (Msg : Bytes) :
    Option (CallbackHost × CallbackHostReply) :=
  host.onCall index fun rpc thread =>
    match thread with
    | .FOnCall => host.leave index rpc Status Msg
    | _ => none

def take_message (host : CallbackHost) (index : Nat) : Option (CallbackHost × CallbackHostReply) :=
  host.onCall index fun rpc thread =>
    match thread with
    | .returned out_status out_msg out_msg_len =>
        host.unlessUndefined (takeMessage host.memory out_msg out_msg_len) fun (out_msg, memory) =>
          (callbackStep rpc (.returns out_status out_msg)).map fun (rpc, _) =>
            (host.update index (.call rpc .left) memory, .took out_status out_msg)
    | _ => none

def hand (host : CallbackHost) (index : Nat) (handed : Handed) :
    Option (CallbackHost × CallbackHostReply) :=
  match host.parties[index]? with
  | some (.host received) =>
      let (one, memory) := handed.receive host.memory
      some (host.update index (.host (received ++ [one])) memory, .silent)
  | _ => none

def take (fromAnsi : Json.FromAnsi) (host : CallbackHost) (index : Nat) :
    Option (CallbackHost × CallbackHostReply) :=
  match host.parties[index]? with
  | some (.host (one :: received)) =>
      host.unlessUndefined (one.take fromAnsi host.memory) fun (reply, memory) =>
        some (host.update index (.host received) memory, reply)
  | _ => none

end CallbackHost

def callbackHostStep (fromAnsi : Json.FromAnsi) :
    PartialStep CallbackHost CallbackHostAction CallbackHostReply
  | host, .arrive path body => some (host.arrive path body)
  | host, .task index action => host.task index action
  | host, .enter index => host.enter index
  | host, .Read index spare => host.Read index spare
  | host, .BufferToBytes index => host.BufferToBytes index
  | host, .Write index AData => host.Write index AData
  | host, .returns index Status Msg => host.finish index Status Msg
  | host, .raises index Message => host.finish index 13 (cstr Message)
  | host, .take_message index => host.take_message index
  | host, .start_thread => some ({ host with parties := host.parties ++ [.host []] }, .silent)
  | host, .hand index handed => host.hand index handed
  | host, .take index => host.take fromAnsi index

end Zpr.Pascal
