import Zpr.Foundation.Poisoning
import Zpr.Grpc.BidiCall
import Zpr.Grpc.ChannelCache
import Zpr.Grpc.Proxy
import Zpr.GrpcServer.QueueStats
import Zpr.Http.Proxy

namespace Zpr.Process

open Ffi

/-! # The locks of a process, some of them poisoned

A process holds the proxies, the cached channels, the queues and the open streams side by
side. Each of its steps is a step of one of them, with everything that is behind a mutex
taken through that mutex first. `LockExt::lock_ok` recovers the data of a poisoned mutex,
`lock().unwrap()` panics. No step changes which mutexes are poisoned. -/

inductive Lock
  /-- `PROXY_OVERRIDE` of the HTTP module -/
  | http_proxy
  /-- `PROXY_OVERRIDE` of the gRPC client -/
  | grpc_proxy
  | CHANNELS
  | pending (queue : Nat)
  | live (queue : Nat)
  /-- the ring of a server-streaming call -/
  | ring (stream : Nat)
  /-- the ring of a bidirectional call -/
  | bidi_ring (stream : Nat)
  deriving DecidableEq, Repr

/-- Which mutexes are poisoned. -/
abbrev Poisoned := Lock → Bool

def unpoisoned : Poisoned := fun _ => false

def lock_ok (poisoned : Poisoned) (lock : Lock) (data : Data) : Data :=
  (Mutex.mk data (poisoned lock)).lock.recover

def lock_unwrap (poisoned : Poisoned) (lock : Lock) (data : Data) : Option Data :=
  (Mutex.mk data (poisoned lock)).lock.unwrap

@[simp] theorem lock_ok_eq (poisoned : Poisoned) (lock : Lock) (data : Data) :
    lock_ok poisoned lock data = data :=
  Mutex.recover_lock _

/-! ## What each operation locks -/

section Locking

variable (poisoned : Poisoned)

/-! ### The HTTP module -/

/-- `client` looks at the override only to build the client. -/
def http_locked (state : Http.State Proxy) : Http.Action → Http.State Proxy
  | .store _ => locked
  | .client _ _ => if state.CLIENT.isNone then locked else state
  | .set_proxy _ | .check _ | .request => state
where
  locked : Http.State Proxy :=
    { state with PROXY_OVERRIDE := state.PROXY_OVERRIDE.map (lock_ok poisoned .http_proxy) }

/-! ### The channels -/

def withChannels (state : Grpc.Cache.State) : Grpc.Cache.State :=
  { state with channels := lock_ok poisoned .CHANNELS state.channels }

/-- `get_channel` looks into the cache, and `drop_channel` removes from it. -/
def cache_locked (state : Grpc.Cache.State) : Grpc.Cache.Action → Grpc.Cache.State
  | .look_up _ => withChannels poisoned state
  | .answer index code =>
      match state.calls[index]? with
      | some call =>
          if call.entry = .grpc_call ∧ Grpc.Cache.State.brokenTransport code then
            withChannels poisoned state
          else
            state
      | none => state
  | .transcode_start _ | .transcode_stop _ | .call _ _ | .request _ | .connect _ _ | .insert _
  | .ready _ => state

/-! ### The queued server -/

def withPending (queue : Nat) (state : GrpcServer.Server) : GrpcServer.Server :=
  { state with queue := { state.queue with
      pending := lock_ok poisoned (.pending queue) state.queue.pending } }

def withLive (queue : Nat) (state : GrpcServer.Server) : GrpcServer.Server :=
  { state with queue := { state.queue with
      live := lock_ok poisoned (.live queue) state.queue.live } }

def queue_locked (queue : Nat) (state : GrpcServer.Server) :
    GrpcServer.Action → GrpcServer.Server
  | .handle_queued rpc =>
      match (state.rpcs[rpc]?).map GrpcServer.Rpc.arrival with
      | some .arrived | some (.inserted _ _) => withPending poisoned queue state
      | some (.numbered _ _) => withLive poisoned queue state
      | _ => state
  | .accept _ _ => withPending poisoned queue state
  | .read_into _ _ | .queue_free => withLive poisoned queue state
  | .write _ data bytes =>
      if bytes ≠ [] ∧ data = .null then state else withLive poisoned queue state
  | .complete _ _ message =>
      match GrpcServer.Server.status_message message with
      | .ok _ => withLive poisoned queue state
      | .error _ => state
  | .reap_loop =>
      match state.reaper with
      | .timed _ => withLive poisoned queue state
      | .waiting | .armed => state
  | .tick _ | .arrive _ _ | .pump_inbound _ | .poll_frame _ | .hang_up _ | .advance _
  | .configure _ _ | .store_deadline _ | .server_stop => state

/-- `zpr_grpc_queue_stats` locks each collection only where its length is asked for. -/
def stats_locked (queue : Nat) (state : GrpcServer.Server) (out_pending out_live : Pointer) :
    GrpcServer.Server :=
  let counted := match out_pending with
    | .valid => withPending poisoned queue state
    | .null => state
  match out_live with
  | .valid => withLive poisoned queue counted
  | .null => counted

/-! ### The streams -/

/-- A read takes what is held before it looks at the ring. The pump locks the ring for
every answer that it deals with. -/
def ring_locked (lock : Lock) (call : Grpc.ClientCall) : Grpc.Action → Grpc.ClientCall
  | .read .valid _ | .read_into .valid _ =>
      if (call.stream.bind Grpc.GrpcClientStream.pending).isNone then locked else call
  | .stats .valid _ _ => locked
  | .pump =>
      match call.pump with
      | .receiving inner => if inner.message.isSome then locked else call
      | .unspawned | .checking _ | .returned => call
  | .read .null _ | .read_into .null _ | .stats .null _ _ | .arrive _ | .buffer _ _
  | .cancel _ => call
where
  locked : Grpc.ClientCall := call.withRing (lock_ok poisoned lock)

/-- The response half of a bidirectional call is read, and pumped, as that of any other
streaming call. -/
def bidi_locked (lock : Lock) (call : Grpc.Bidi.BidiCall) :
    Grpc.Bidi.CallAction → Grpc.Bidi.BidiCall
  | .read_into stream buffer =>
      call.withResponse (ring_locked poisoned lock call.response (.read_into stream buffer))
  | .pump => call.withResponse (ring_locked poisoned lock call.response .pump)
  | .arrive _ | .poll_next | .send _ _ _ | .close_send _ | .buffer _ _ | .cancel _ => call

end Locking

/-! ## The process -/

/-- What the rest of the world answers: `reqwest::Proxy::all`, the parser of `http::Uri`
and `std::env::var`. -/
structure Outside (Proxy : Type u) where
  all : String → Option Proxy
  parse : String → Except String Grpc.Proxy.Uri
  var : Grpc.Proxy.Environment

structure State (Proxy : Type u) where
  http : Http.State Proxy
  /-- of the gRPC client -/
  PROXY_OVERRIDE : Option String
  client : Grpc.Cache.State
  queues : List GrpcServer.Server
  streams : List Grpc.ClientCall
  bidis : List Grpc.Bidi.BidiCall

def State.start : State Proxy where
  http := .start
  PROXY_OVERRIDE := none
  client := .start
  queues := []
  streams := []
  bidis := []

/-- One step of one part. What opens a stream goes through the steps of `client` first. -/
inductive Action
  | http (action : Http.Action)
  /-- `zpr_grpc_set_proxy` -/
  | set_proxy (proxy_url : Option Bytes)
  /-- a call that connects asks for its proxy -/
  | resolve_proxy (target : Grpc.Proxy.Uri)
  | client (action : Grpc.Cache.Action)
  /-- `zpr_grpc_server_start_queued` -/
  | start_queued
  | queue (index : Nat) (action : GrpcServer.Action)
  | queue_stats (index : Nat) (out_pending out_live : Pointer)
  | queue_counters (index : Nat) (out_accepted out_completed out_refused out_reaped : Pointer)
  /-- `zpr_grpc_client_stream_open` hands out its handle -/
  | stream_opened
  | stream (index : Nat) (action : Grpc.Action)
  /-- `zpr_grpc_bidi_open` hands out its handle -/
  | bidi_opened (rx : Channel Bytes)
  | bidi (index : Nat) (action : Grpc.Bidi.CallAction)
  deriving DecidableEq, Repr

inductive Reply (Proxy : Type u)
  | silent
  | http (reply : Http.Reply Proxy)
  | set_proxy (rc : Int) (last_error : Option String)
  | resolved (proxy : Option Grpc.Proxy.Uri)
  | client (reply : Grpc.Cache.Reply)
  | queue (reply : GrpcServer.Reply)
  | stats (reply : GrpcServer.StatsReply)
  | counters (reply : GrpcServer.CountersReply)
  | stream (reply : Grpc.Reply)
  | bidi (reply : Grpc.Reply)
  /-- the acquisition of a lock has panicked -/
  | panicked
  deriving DecidableEq, Repr

/-- The second half of `get_channel`, the one place with an ordinary `lock().unwrap()`. A
panic there takes the whole call with it. -/
def insert (poisoned : Poisoned) (state : Grpc.Cache.State) (index : Nat) :
    Option (Grpc.Cache.State × Reply Proxy) :=
  match lock_unwrap poisoned .CHANNELS state.channels with
  | some channels =>
      (Grpc.Cache.cacheStep { state with channels := channels } (.insert index)).map
        fun (next, reply) => (next, .client reply)
  | none =>
      (state.calls[index]?).bind fun call =>
        match call.phase with
        | .getting (.connected _) => some (state.setPhase index call .finished, .panicked)
        | _ => none

def clientStep (poisoned : Poisoned) (state : Grpc.Cache.State) :
    Grpc.Cache.Action → Option (Grpc.Cache.State × Reply Proxy)
  | .insert index => insert poisoned state index
  | action =>
      (Grpc.Cache.cacheStep (cache_locked poisoned state action) action).map
        fun (next, reply) => (next, .client reply)

def processStep (outside : Outside Proxy) (poisoned : Poisoned) :
    PartialStep (State Proxy) Action (Reply Proxy)
  | state, .http action =>
      (Http.httpStep outside.all (http_locked poisoned state.http action) action).map
        fun (next, reply) => ({ state with http := next }, .http reply)
  | state, .set_proxy proxy_url =>
      let (slot, rc, last_error) := Grpc.Proxy.zpr_grpc_set_proxy
        (lock_ok poisoned .grpc_proxy state.PROXY_OVERRIDE) proxy_url
      some ({ state with PROXY_OVERRIDE := slot }, .set_proxy rc last_error)
  | state, .resolve_proxy target =>
      some (state, .resolved (Grpc.Proxy.resolve_proxy outside.parse outside.var
        (lock_ok poisoned .grpc_proxy state.PROXY_OVERRIDE) target))
  | state, .client action =>
      (clientStep poisoned state.client action).map
        fun (next, reply) => ({ state with client := next }, reply)
  | state, .start_queued => some ({ state with queues := state.queues ++ [.start] }, .silent)
  | state, .queue index action =>
      (state.queues[index]?).bind fun queue =>
        (GrpcServer.serverStep (queue_locked poisoned index queue action) action).map
          fun (next, reply) => ({ state with queues := state.queues.set index next }, .queue reply)
  | state, .queue_stats index out_pending out_live =>
      (state.queues[index]?).map fun queue =>
        let locked := stats_locked poisoned index queue out_pending out_live
        (state, .stats (GrpcServer.zpr_grpc_queue_stats (some locked.queue) out_pending out_live))
  | state, .queue_counters index out_accepted out_completed out_refused out_reaped =>
      (state.queues[index]?).map fun queue =>
        (state, .counters (GrpcServer.zpr_grpc_queue_counters (some queue.queue)
          out_accepted out_completed out_refused out_reaped))
  | state, .stream_opened =>
      some ({ state with streams := state.streams ++ [.opened] }, .silent)
  | state, .stream index action =>
      (state.streams[index]?).bind fun call =>
        (Grpc.clientStep (ring_locked poisoned (.ring index) call action) action).map
          fun (next, reply) =>
            ({ state with streams := state.streams.set index next }, .stream reply)
  | state, .bidi_opened rx =>
      some ({ state with bidis := state.bidis ++ [.opened rx] }, .silent)
  | state, .bidi index action =>
      (state.bidis[index]?).bind fun call =>
        (Grpc.Bidi.bidiCallStep (bidi_locked poisoned (.bidi_ring index) call action) action).map
          fun (next, reply) => ({ state with bidis := state.bidis.set index next }, .bidi reply)

/-! ## What the recovering locks leave as it is -/

section Recovery

variable (poisoned : Poisoned)

theorem http_locked_eq (state : Http.State Proxy) (action : Http.Action) :
    http_locked poisoned state action = state := by
  have same : http_locked.locked poisoned state = state := by
    rcases state with ⟨CLIENT, override, calls⟩
    cases override <;> simp [http_locked.locked]
  cases action with
  | store index => exact same
  | client index build_error =>
      rw [http_locked, same]
      exact ite_self state
  | set_proxy | check | request => rfl

@[simp] theorem withChannels_eq (state : Grpc.Cache.State) :
    withChannels poisoned state = state := by
  rw [withChannels, lock_ok_eq]

theorem cache_locked_eq (state : Grpc.Cache.State) (action : Grpc.Cache.Action) :
    cache_locked poisoned state action = state := by
  cases action with
  | look_up index => exact withChannels_eq poisoned state
  | answer index code =>
      rw [cache_locked]
      split
      · rw [withChannels_eq, ite_self]
      · rfl
  | transcode_start | transcode_stop | call | request | connect | insert | ready => rfl

@[simp] theorem withPending_eq (queue : Nat) (state : GrpcServer.Server) :
    withPending poisoned queue state = state := by
  rw [withPending, lock_ok_eq]

@[simp] theorem withLive_eq (queue : Nat) (state : GrpcServer.Server) :
    withLive poisoned queue state = state := by
  rw [withLive, lock_ok_eq]

theorem queue_locked_eq (queue : Nat) (state : GrpcServer.Server) (action : GrpcServer.Action) :
    queue_locked poisoned queue state action = state := by
  cases action with
  | handle_queued rpc =>
      rw [queue_locked, withPending_eq, withLive_eq]
      split <;> rfl
  | accept => exact withPending_eq poisoned queue state
  | read_into | queue_free => exact withLive_eq poisoned queue state
  | write call_id data bytes => rw [queue_locked, withLive_eq, ite_self]
  | complete call_id grpc_status message =>
      rw [queue_locked, withLive_eq]
      split <;> rfl
  | reap_loop =>
      rw [queue_locked, withLive_eq]
      split <;> rfl
  | tick | arrive | pump_inbound | poll_frame | hang_up | advance | configure | store_deadline
  | server_stop => rfl

theorem stats_locked_eq (queue : Nat) (state : GrpcServer.Server)
    (out_pending out_live : Pointer) :
    stats_locked poisoned queue state out_pending out_live = state := by
  cases out_pending <;> cases out_live <;> simp [stats_locked]

theorem withRing_lock_ok (lock : Lock) (call : Grpc.ClientCall) :
    call.withRing (lock_ok poisoned lock) = call := by
  rcases call with ⟨stream, pump⟩
  unfold Grpc.ClientCall.withRing
  split
  · rename_i g pending held
    dsimp only at held
    rw [lock_ok_eq, held]
  · rfl

theorem ring_locked_eq (lock : Lock) (call : Grpc.ClientCall) (action : Grpc.Action) :
    ring_locked poisoned lock call action = call := by
  have same : ring_locked.locked poisoned lock call = call := withRing_lock_ok poisoned lock call
  cases action with
  | read stream out => cases stream <;> simp [ring_locked, same]
  | read_into stream buffer => cases stream <;> simp [ring_locked, same]
  | stats stream => cases stream <;> simp [ring_locked, same]
  | pump =>
      rw [ring_locked, same]
      cases call.pump with
      | receiving inner => exact ite_self call
      | unspawned | checking | returned => rfl
  | arrive | buffer | cancel => rfl

theorem withResponse_response (call : Grpc.Bidi.BidiCall) :
    call.withResponse call.response = call := by
  rcases call with ⟨stream, rx, pump⟩
  cases stream <;> rfl

theorem bidi_locked_eq (lock : Lock) (call : Grpc.Bidi.BidiCall)
    (action : Grpc.Bidi.CallAction) : bidi_locked poisoned lock call action = call := by
  cases action with
  | read_into | pump => rw [bidi_locked, ring_locked_eq, withResponse_response]
  | arrive | poll_next | send | close_send | buffer | cancel => rfl

end Recovery

/-! ## Poisoned and unpoisoned runs -/

/-- The action puts a channel into the cache, and the lock of the cache is poisoned. -/
def InsertsPoisoned (poisoned : Poisoned) (action : Action) : Prop :=
  poisoned .CHANNELS = true ∧ ∃ index, action = .client (.insert index)

theorem insert_of_sound {poisoned : Poisoned} (sound : poisoned .CHANNELS = false)
    (state : Grpc.Cache.State) (index : Nat) :
    insert poisoned state index =
      (Grpc.Cache.cacheStep state (.insert index)).map fun (next, reply) =>
        (next, (.client reply : Reply Proxy)) := by
  have locked : lock_unwrap poisoned .CHANNELS state.channels = some state.channels :=
    Mutex.unwrap_lock_of_sound sound
  rw [insert, locked]

/-- With the cache poisoned, the insert can only panic. -/
theorem insert_of_poisoned {poisoned : Poisoned} (poison : poisoned .CHANNELS = true)
    {state next : Grpc.Cache.State} {reply : Reply Proxy}
    (taken : insert poisoned state index = some (next, reply)) :
    reply = .panicked ∧ next.channels = state.channels := by
  have locked : lock_unwrap poisoned .CHANNELS state.channels = none :=
    Mutex.unwrap_lock_of_poisoned poison
  rw [insert, locked] at taken
  rcases Option.bind_eq_some_iff.mp taken with ⟨call, known, panics⟩
  split at panics <;> cases panics
  exact ⟨rfl, rfl⟩

theorem clientStep_agrees {poisoned : Poisoned} {action : Grpc.Cache.Action}
    (together : ¬ InsertsPoisoned poisoned (.client action)) (state : Grpc.Cache.State) :
    (clientStep poisoned state action : Option (Grpc.Cache.State × Reply Proxy)) =
      clientStep unpoisoned state action := by
  cases action with
  | insert index =>
      have sound : poisoned .CHANNELS = false := by
        apply Bool.eq_false_iff.mpr
        exact fun poison => together ⟨poison, index, rfl⟩
      rw [clientStep, clientStep, insert_of_sound sound, insert_of_sound rfl]
  | _ => simp only [clientStep, cache_locked_eq]

theorem processStep_agrees {outside : Outside Proxy} {poisoned : Poisoned} {state : State Proxy}
    {action : Action} (together : ¬ InsertsPoisoned poisoned action) :
    processStep outside poisoned state action = processStep outside unpoisoned state action := by
  cases action with
  | client action => rw [processStep, processStep, clientStep_agrees together]
  | http => simp only [processStep, http_locked_eq]
  | set_proxy | resolve_proxy => simp only [processStep, lock_ok_eq]
  | queue => simp only [processStep, queue_locked_eq]
  | queue_stats => simp only [processStep, stats_locked_eq]
  | stream => simp only [processStep, ring_locked_eq]
  | bidi => simp only [processStep, bidi_locked_eq]
  | start_queued | queue_counters | stream_opened | bidi_opened => rfl

/-- A step goes through the cache of channels, or leaves it alone and does not panic. -/
theorem processStep_cases {outside : Outside Proxy} {poisoned : Poisoned}
    {state next : State Proxy} {action : Action} {reply : Reply Proxy}
    (taken : processStep outside poisoned state action = some (next, reply)) :
    (∃ part, action = .client part ∧
      clientStep poisoned state.client part = some (next.client, reply)) ∨
    (next.client = state.client ∧ reply ≠ .panicked) := by
  cases action with
  | client part =>
      rcases Option.map_eq_some_iff.mp taken with ⟨_, stepped, equal⟩
      cases equal
      exact .inl ⟨part, rfl, stepped⟩
  | http | queue_stats | queue_counters =>
      rcases Option.map_eq_some_iff.mp taken with ⟨_, _, equal⟩
      cases equal
      exact .inr ⟨rfl, by simp⟩
  | queue | stream | bidi =>
      rcases Option.bind_eq_some_iff.mp taken with ⟨_, _, stepped⟩
      rcases Option.map_eq_some_iff.mp stepped with ⟨_, _, equal⟩
      cases equal
      exact .inr ⟨rfl, by simp⟩
  | set_proxy | resolve_proxy | start_queued | stream_opened | bidi_opened =>
      cases taken
      exact .inr ⟨rfl, by simp⟩

theorem clientStep_not_panicked {poisoned : Poisoned} (sound : poisoned .CHANNELS = false)
    (state next : Grpc.Cache.State) (action : Grpc.Cache.Action) :
    clientStep poisoned state action ≠ some (next, (.panicked : Reply Proxy)) := by
  intro stepped
  cases action with
  | insert index =>
      rw [clientStep, insert_of_sound sound] at stepped
      rcases Option.map_eq_some_iff.mp stepped with ⟨_, _, equal⟩
      cases equal
  | _ =>
      simp only [clientStep] at stepped
      rcases Option.map_eq_some_iff.mp stepped with ⟨_, _, equal⟩
      cases equal

/-- As long as the cache is not poisoned, nothing panics. -/
theorem processStep_not_panicked {outside : Outside Proxy} {poisoned : Poisoned}
    (sound : poisoned .CHANNELS = false) {state next : State Proxy} {action : Action}
    {reply : Reply Proxy}
    (taken : processStep outside poisoned state action = some (next, reply)) :
    reply ≠ .panicked := by
  rcases processStep_cases taken with ⟨part, _, stepped⟩ | ⟨_, calm⟩
  · intro panics
    subst panics
    exact clientStep_not_panicked sound _ _ part stepped
  · exact calm

theorem processStep_apart {outside : Outside Proxy} {poisoned : Poisoned}
    {state next : State Proxy} {action : Action} {reply : Reply Proxy}
    (apart : InsertsPoisoned poisoned action)
    (taken : processStep outside unpoisoned state action = some (next, reply))
    (other : State Proxy) : processStep outside poisoned state action ≠ some (other, reply) := by
  intro poisonedTaken
  rcases apart with ⟨poison, index, rfl⟩
  rcases Option.map_eq_some_iff.mp poisonedTaken with ⟨⟨client, answer⟩, stepped, equal⟩
  cases equal
  exact processStep_not_panicked rfl taken (insert_of_poisoned poison stepped).1

/-- What the operations of a process do with no mutex poisoned, they do with some poisoned,
to the same results and the same final state and without a panic, exactly if none of them
puts a channel into the cache while `CHANNELS` is poisoned. -/
theorem poisoned_locks_harmless_iff (outside : Outside Proxy) (poisoned : Poisoned)
    (state : State Proxy) (actions : List Action) (trace : List (Action × Reply Proxy))
    (final : State Proxy)
    (replayed : replay (processStep outside unpoisoned) state actions = some (trace, final)) :
    (replay (processStep outside poisoned) state actions = some (trace, final) ∧
      ∀ event ∈ trace, event.2 ≠ .panicked) ↔
      ¬ (poisoned .CHANNELS = true ∧ ∃ index, .client (.insert index) ∈ actions) := by
  have noPanic : ∀ event ∈ trace, event.2 ≠ .panicked := by
    have run := run_of_replay replayed
    apply run.invariant fun trace _ => ∀ event ∈ trace, event.2 ≠ .panicked
    · exact List.forall_mem_nil _
    · intro trace before action after reply _ earlier _ taken event member
      rcases List.mem_append.mp member with old | last
      · exact earlier event old
      · cases List.mem_singleton.mp last
        exact processStep_not_panicked rfl taken
  have agree : replay (processStep outside poisoned) state actions = some (trace, final) ↔
      ∀ action ∈ actions, ¬ InsertsPoisoned poisoned action := by
    apply replay_agrees_iff _ _ replayed
    · exact fun together => processStep_agrees together
    · exact fun apart taken => processStep_apart apart taken
  constructor
  · intro harmless inserts
    rcases inserts with ⟨poison, index, member⟩
    exact agree.mp harmless.1 _ member ⟨poison, index, rfl⟩
  · intro spared
    refine ⟨agree.mpr fun action member inserts => ?_, noPanic⟩
    rcases inserts with ⟨poison, index, rfl⟩
    exact spared ⟨poison, index, member⟩

/-- Nothing can be asked of the rest of the world. -/
def nothingOutside : Outside Unit where
  all := fun _ => none
  parse := fun _ => .error "invalid uri"
  var := fun _ => none

/-- A call to an endpoint whose channel is not in the cache yet. -/
def firstCall : List Action :=
  [.client (.call .grpc_call "http://localhost:50051"), .client (.look_up 0),
    .client (.connect 0 true), .client (.insert 0)]

/-- Every mutex but that of the cache is poisoned. -/
theorem poisoned_locks_harmless_to_first_call : ∃ trace final,
    replay (processStep nothingOutside unpoisoned) .start firstCall = some (trace, final) ∧
      replay (processStep nothingOutside fun lock => lock != .CHANNELS) .start firstCall =
        some (trace, final) ∧
      ∀ event ∈ trace, event.2 ≠ .panicked := by
  have replayed : ∃ trace final,
      replay (processStep nothingOutside unpoisoned) .start firstCall = some (trace, final) :=
    ⟨_, _, rfl⟩
  rcases replayed with ⟨trace, final, replayed⟩
  refine ⟨trace, final, replayed, ?_⟩
  apply (poisoned_locks_harmless_iff nothingOutside _ .start firstCall trace final replayed).mpr
  simp

/-- The mutex of the cache is poisoned, and no other. The call that would have gone ahead
panics, and the next one will not find its channel. -/
theorem first_call_panics_on_poisoned_cache : ∃ trace final poisonedTrace poisonedFinal,
    replay (processStep nothingOutside unpoisoned) .start firstCall = some (trace, final) ∧
      replay (processStep nothingOutside fun lock => lock == .CHANNELS) .start firstCall =
        some (poisonedTrace, poisonedFinal) ∧
      trace.getLast? = some (.client (.insert 0), .client .silent) ∧
      final.client.channels "http://localhost:50051" = some ⟨.shared⟩ ∧
      poisonedTrace.getLast? = some (.client (.insert 0), .panicked) ∧
      poisonedFinal.client.channels "http://localhost:50051" = none :=
  ⟨_, _, _, _, rfl, rfl, rfl, rfl, rfl, rfl⟩

/-! ## A poisoned cache -/

theorem drop_channel_missing {state : Grpc.Cache.State}
    (missing : state.channels endpoint = none) (dropped : String) :
    (state.drop_channel dropped).channels endpoint = none := by
  show Function.update state.channels dropped none endpoint = none
  rw [Function.update_apply]
  split
  · rfl
  · exact missing

/-- Only the second half of `get_channel` puts a channel into the cache. -/
theorem cacheStep_missing {state next : Grpc.Cache.State} {action : Grpc.Cache.Action}
    {reply : Grpc.Cache.Reply} (noInsert : ∀ index, action ≠ .insert index)
    (missing : state.channels endpoint = none)
    (taken : Grpc.Cache.cacheStep state action = some (next, reply)) :
    next.channels endpoint = none := by
  cases action with
  | transcode_start upstream =>
      cases taken
      exact missing
  | transcode_stop index =>
      rcases Option.map_eq_some_iff.mp taken with ⟨_, stopped, equal⟩
      cases equal
      rw [(Grpc.Cache.State.transcode_stop_eq stopped).1]
      exact missing
  | call entry endpoint =>
      rcases Option.map_eq_some_iff.mp taken with ⟨_, called, equal⟩
      cases equal
      unfold Grpc.Cache.State.call at called
      split at called <;> cases called
      exact missing
  | request index =>
      rcases Option.map_eq_some_iff.mp taken with ⟨_, requested, equal⟩
      cases equal
      unfold Grpc.Cache.State.request at requested
      split at requested <;> cases requested
      exact missing
  | insert index => exact absurd rfl (noInsert index)
  | look_up index =>
      rcases Option.bind_eq_some_iff.mp taken with ⟨call, _, looked⟩
      unfold Grpc.Cache.State.look_up at looked
      split at looked
      · rcases Option.map_eq_some_iff.mp looked with ⟨stage, _, moved⟩
        cases moved
        exact missing
      · cases looked
  | connect index succeeds =>
      rcases Option.bind_eq_some_iff.mp taken with ⟨call, _, connected⟩
      unfold Grpc.Cache.State.connect at connected
      split at connected
      · rcases Option.map_eq_some_iff.mp connected with ⟨made, _, moved⟩
        cases made <;> cases moved <;> exact missing
      · cases connected
  | ready index =>
      rcases Option.bind_eq_some_iff.mp taken with ⟨call, _, readied⟩
      unfold Grpc.Cache.State.ready at readied
      split at readied
      · rcases Option.map_eq_some_iff.mp readied with ⟨channel, _, moved⟩
        split at moved <;> cases moved <;> exact missing
      · cases readied
  | answer index code =>
      rcases Option.bind_eq_some_iff.mp taken with ⟨call, _, answered⟩
      unfold Grpc.Cache.State.answer at answered
      split at answered
      · dsimp only at answered
        split at answered <;> cases answered
        · exact drop_channel_missing missing call.endpoint
        · exact missing
      · cases answered

theorem clientStep_missing {poisoned : Poisoned} (poison : poisoned .CHANNELS = true)
    {state next : Grpc.Cache.State} {action : Grpc.Cache.Action} {reply : Reply Proxy}
    (missing : state.channels endpoint = none)
    (taken : clientStep poisoned state action = some (next, reply)) :
    next.channels endpoint = none := by
  cases action with
  | insert index =>
      rw [clientStep] at taken
      rw [(insert_of_poisoned poison taken).2]
      exact missing
  | _ =>
      simp only [clientStep, cache_locked_eq] at taken
      rcases Option.map_eq_some_iff.mp taken with ⟨⟨_, _⟩, stepped, equal⟩
      cases equal
      exact cacheStep_missing (by simp) missing stepped

/-- Once its mutex is poisoned, the cache is given no new channel in any run: an endpoint
that is missing stays missing. -/
theorem poisoned_cache_gains_nothing {outside : Outside Proxy} {poisoned : Poisoned}
    (poison : poisoned .CHANNELS = true) {state final : State Proxy}
    (run : Run (processStep outside poisoned) state trace final)
    (missing : state.client.channels endpoint = none) :
    final.client.channels endpoint = none := by
  apply run.stateInvariant (fun state => state.client.channels endpoint = none) missing
  intro before action after reply absent _ taken
  rcases processStep_cases taken with ⟨part, _, stepped⟩ | ⟨same, _⟩
  · exact clientStep_missing poison absent stepped
  · rw [same]
    exact absent

end Zpr.Process
