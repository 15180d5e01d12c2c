import Zpr.Foundation.Execution
import Zpr.Grpc.GetChannel

namespace Zpr.Grpc.Cache

/-! # The channels that calls share

`CHANNELS` keeps one connected channel for an endpoint, whoever connected it. Calls
of the host run on the shared runtime, which is there for good. A transcoder has a
runtime of its own and takes it along when it is stopped. A step is one lock of the
cache, one connection made, or one answer awaited, and calls interleave freely. -/

inductive Runtime
  | shared
  | transcoder (index : Nat)
  deriving DecidableEq, Repr

/-- A channel's worker task lives on the runtime that connected it. -/
structure Channel where
  runtime : Runtime
  deriving DecidableEq, Repr

/-- Where a call comes from. -/
inductive Entry
  | grpc_call
  | client_stream_open
  | bidi_open
  | call_unary_bytes
  deriving DecidableEq, Repr

inductive Phase
  | getting (stage : GetChannel Channel)
  /-- waiting for the answer to its request -/
  | calling (channel : Channel)
  | finished
  deriving DecidableEq, Repr

structure Call where
  entry : Entry
  endpoint : String
  runtime : Runtime
  phase : Phase
  deriving DecidableEq, Repr

/-- The channel that a call holds. -/
def Call.channel? (call : Call) : Option Channel :=
  match call.phase with
  | .getting stage => stage.channel?
  | .calling channel => some channel
  | .finished => none

structure Transcoder where
  upstream : String
  running : Bool
  deriving DecidableEq, Repr

structure State where
  channels : String → Option Channel
  transcoders : List Transcoder
  calls : List Call

def State.start : State where
  channels := fun _ => none
  transcoders := []
  calls := []

inductive Action
  | transcode_start (upstream : String)
  | transcode_stop (transcoder : Nat)
  | call (entry : Entry) (endpoint : String)
  /-- a transcoder has read a request -/
  | request (transcoder : Nat)
  /-- the first half of `get_channel` -/
  | look_up (index : Nat)
  | connect (index : Nat) (succeeds : Bool)
  /-- the second half of `get_channel` -/
  | insert (index : Nat)
  | ready (index : Nat)
  | answer (index : Nat) (code : Int)
  deriving DecidableEq, Repr

inductive Reply
  | silent
  /-- `failed to connect` -/
  | unreachable
  /-- `gRPC transport not ready` -/
  | not_ready
  | status (code : Int)
  deriving DecidableEq, Repr

namespace State

/-- The runtime has not been dropped. -/
def alive (state : State) : Runtime → Bool
  | .shared => true
  | .transcoder index =>
      match state.transcoders[index]? with
      | some transcoder => transcoder.running
      | none => false

def setPhase (state : State) (index : Nat) (call : Call) (phase : Phase) : State :=
  { state with calls := state.calls.set index { call with phase := phase } }

def transcode_start (state : State) (upstream : String) : State :=
  { state with
    transcoders := state.transcoders ++ [{ upstream := upstream, running := true }] }

/-- `zpr_transcode_stop`, which returns when the transcoder's runtime has been
dropped with every task on it. -/
def transcode_stop (state : State) (index : Nat) : Option State :=
  match state.transcoders[index]? with
  | some ⟨upstream, true⟩ =>
      some { state with
        transcoders := state.transcoders.set index ⟨upstream, false⟩
        calls := state.calls.map fun call =>
          if call.runtime = .transcoder index then { call with phase := .finished } else call }
  | _ => none

/-- `zpr_grpc_call`, `zpr_grpc_client_stream_open` or `zpr_grpc_bidi_open`. -/
def call (state : State) (entry : Entry) (endpoint : String) : Option State :=
  if entry = .call_unary_bytes then
    none
  else
    some { state with
      calls := state.calls ++ [⟨entry, endpoint, .shared, .getting .looking⟩] }

def request (state : State) (index : Nat) : Option State :=
  match state.transcoders[index]? with
  | some ⟨upstream, true⟩ =>
      some { state with
        calls := state.calls ++ [⟨.call_unary_bytes, upstream, .transcoder index, .getting .looking⟩] }
  | _ => none

def look_up (state : State) (index : Nat) (call : Call) : Option (State × Reply) :=
  match call.phase with
  | .getting stage =>
      (stage.look_up (state.channels call.endpoint)).map fun stage =>
        (state.setPhase index call (.getting stage), .silent)
  | _ => none

def connect (state : State) (index : Nat) (call : Call) (succeeds : Bool) :
    Option (State × Reply) :=
  match call.phase with
  | .getting stage =>
      (stage.connect (if succeeds then some ⟨call.runtime⟩ else none)).map fun
        | some stage => (state.setPhase index call (.getting stage), .silent)
        | none => (state.setPhase index call .finished, .unreachable)
  | _ => none

def insert (state : State) (index : Nat) (call : Call) : Option (State × Reply) :=
  match call.phase with
  | .getting stage =>
      (stage.insert state.channels call.endpoint).map fun (channels, stage) =>
        ({ state.setPhase index call (.getting stage) with channels := channels }, .silent)
  | _ => none

def ready (state : State) (index : Nat) (call : Call) : Option (State × Reply) :=
  match call.phase with
  | .getting stage =>
      stage.ready.map fun channel =>
        if state.alive channel.runtime then
          (state.setPhase index call (.calling channel), .silent)
        else
          -- no entry point evicts the channel here
          (state.setPhase index call .finished, .not_ready)
  | _ => none

def drop_channel (state : State) (endpoint : String) : State :=
  { state with channels := Function.update state.channels endpoint none }

/-- `Unavailable`, `Cancelled` or `Unknown`. -/
def brokenTransport (code : Int) : Bool := code == 14 || code == 1 || code == 2

def answer (state : State) (index : Nat) (call : Call) (code : Int) : Option (State × Reply) :=
  match call.phase with
  | .calling _ =>
      let ended := state.setPhase index call .finished
      if call.entry = .grpc_call ∧ brokenTransport code then
        some (ended.drop_channel call.endpoint, .status code)
      else
        some (ended, .status code)
  | _ => none

end State

def cacheStep : PartialStep State Action Reply
  | state, .transcode_start upstream => some (state.transcode_start upstream, .silent)
  | state, .transcode_stop index => (state.transcode_stop index).map fun next => (next, .silent)
  | state, .call entry endpoint => (state.call entry endpoint).map fun next => (next, .silent)
  | state, .request index => (state.request index).map fun next => (next, .silent)
  | state, .look_up index => (state.calls[index]?).bind fun call => state.look_up index call
  | state, .connect index succeeds =>
      (state.calls[index]?).bind fun call => state.connect index call succeeds
  | state, .insert index => (state.calls[index]?).bind fun call => state.insert index call
  | state, .ready index => (state.calls[index]?).bind fun call => state.ready index call
  | state, .answer index code =>
      (state.calls[index]?).bind fun call => state.answer index call code

namespace State

/-- A call that has not finished runs on a runtime that is alive. -/
def Running (state : State) : Prop :=
  ∀ call ∈ state.calls, call.phase ≠ .finished → state.alive call.runtime = true

/-- Every channel in the cache, or in the hands of a call, was connected on a runtime
that is still alive. -/
structure Intact (state : State) : Prop where
  cached : ∀ endpoint channel, state.channels endpoint = some channel →
    state.alive channel.runtime = true
  held : ∀ call ∈ state.calls, ∀ channel, call.channel? = some channel →
    state.alive channel.runtime = true

/-- The transcoder, if this stops one, has connected no channel that is in the cache,
or in the hands of a call on another runtime. -/
def SparesChannels (state : State) : Action → Prop
  | .transcode_stop index =>
      (∀ endpoint channel, state.channels endpoint = some channel →
        channel.runtime ≠ .transcoder index) ∧
      ∀ call ∈ state.calls, call.runtime ≠ .transcoder index →
        ∀ channel, call.channel? = some channel → channel.runtime ≠ .transcoder index
  | _ => True

/-! ### What each step does to the runtimes and the channels -/

theorem alive_transcode_start (state : State) (upstream : String) {runtime : Runtime}
    (alive : state.alive runtime = true) :
    (state.transcode_start upstream).alive runtime = true := by
  cases runtime with
  | shared => rfl
  | transcoder index =>
      simp only [State.alive] at alive
      split at alive
      · rename_i transcoder known
        have inside := (List.getElem?_eq_some_iff.mp known).1
        simp only [State.alive, transcode_start, List.getElem?_append_left inside, known]
        exact alive
      · cases alive

/-- A stop takes one runtime away, with the calls on it. -/
theorem transcode_stop_eq {state next : State} (stopped : state.transcode_stop index = some next) :
    next.channels = state.channels ∧
      (∀ runtime, next.alive runtime =
        if runtime = .transcoder index then false else state.alive runtime) ∧
      next.calls = state.calls.map fun call =>
        if call.runtime = .transcoder index then { call with phase := .finished } else call := by
  unfold transcode_stop at stopped
  split at stopped
  · rename_i upstream known
    cases stopped
    refine ⟨rfl, fun runtime => ?_, rfl⟩
    cases runtime with
    | shared => rfl
    | transcoder other =>
        have inside := (List.getElem?_eq_some_iff.mp known).1
        simp only [State.alive, Runtime.transcoder.injEq]
        by_cases same : other = index
        · subst same
          simp [inside]
        · rw [List.getElem?_set_ne (Ne.symm same), if_neg same]
  · cases stopped

theorem Running.setPhase {state : State} (running : state.Running) {index : Nat} {call : Call}
    (known : state.calls[index]? = some call) (busy : call.phase ≠ .finished) (phase : Phase) :
    (state.setPhase index call phase).Running := by
  intro other member notOver
  rcases List.mem_or_eq_of_mem_set member with before | rfl
  · exact running other before notOver
  · exact running call (List.mem_of_getElem? known) busy

theorem Intact.setPhase {state : State} (intact : state.Intact) (index : Nat) (call : Call)
    (phase : Phase)
    (alive : ∀ channel, Call.channel? { call with phase := phase } = some channel →
      state.alive channel.runtime = true) :
    (state.setPhase index call phase).Intact := by
  refine ⟨intact.cached, fun other member channel held => ?_⟩
  rcases List.mem_or_eq_of_mem_set member with before | rfl
  · exact intact.held other before channel held
  · exact alive channel held

theorem Intact.update {state : State} (intact : state.Intact) (endpoint : String)
    (entry : Option Channel)
    (alive : ∀ channel, entry = some channel → state.alive channel.runtime = true) :
    Intact { state with channels := Function.update state.channels endpoint entry } := by
  refine ⟨fun other channel held => ?_, intact.held⟩
  dsimp only at held
  by_cases same : other = endpoint
  · subst same
    rw [Function.update_self] at held
    exact alive channel held
  · rw [Function.update_of_ne same] at held
    exact intact.cached other channel held

theorem Running.add {state : State} (running : state.Running) (entry : Entry)
    (endpoint : String) {runtime : Runtime} (alive : state.alive runtime = true) :
    Running { state with calls := state.calls ++ [⟨entry, endpoint, runtime, .getting .looking⟩] } := by
  intro call member notOver
  rcases List.mem_append.mp member with before | new
  · exact running call before notOver
  · cases List.mem_singleton.mp new
    exact alive

theorem Intact.add {state : State} (intact : state.Intact) (entry : Entry) (endpoint : String)
    (runtime : Runtime) :
    Intact { state with calls := state.calls ++ [⟨entry, endpoint, runtime, .getting .looking⟩] } := by
  refine ⟨intact.cached, fun call member channel held => ?_⟩
  rcases List.mem_append.mp member with before | new
  · exact intact.held call before channel held
  · cases List.mem_singleton.mp new
    cases held

end State

/-! ## Runs -/

/-- What a step of one call does, with the channel, if any, that the call holds
afterwards. -/
inductive CallStep (state : State) (index : Nat) (call : Call) : State × Reply → Prop
  | finds (channel : Channel) (cached : state.channels call.endpoint = some channel) :
      CallStep state index call (state.setPhase index call (.getting (.holding channel)), .silent)
  | misses : CallStep state index call (state.setPhase index call (.getting .connecting), .silent)
  | connects : CallStep state index call
      (state.setPhase index call (.getting (.connected ⟨call.runtime⟩)), .silent)
  | inserts (channel : Channel) (held : call.channel? = some channel) :
      CallStep state index call ({ state.setPhase index call (.getting (.holding channel)) with
        channels := Function.update state.channels call.endpoint (some channel) }, .silent)
  | readies (channel : Channel) (held : call.channel? = some channel) :
      CallStep state index call (state.setPhase index call (.calling channel), .silent)
  | findsDead (channel : Channel) (held : call.channel? = some channel)
      (dead : state.alive channel.runtime = false) :
      CallStep state index call (state.setPhase index call .finished, .not_ready)
  | ends (reply : Reply) (ready : reply ≠ .not_ready) :
      CallStep state index call (state.setPhase index call .finished, reply)
  | evicts (code : Int) :
      CallStep state index call
        ((state.setPhase index call .finished).drop_channel call.endpoint, .status code)

theorem look_up_callStep {state : State} (taken : state.look_up index call = some result) :
    call.phase ≠ .finished ∧ CallStep state index call result := by
  unfold State.look_up at taken
  split at taken
  · rename_i stage phase
    refine ⟨by simp [phase], ?_⟩
    rcases Option.map_eq_some_iff.mp taken with ⟨next, looked, rfl⟩
    rcases GetChannel.look_up_cases looked with ⟨channel, cached, rfl⟩ | rfl
    · exact .finds channel cached
    · exact .misses
  · cases taken

theorem connect_callStep {state : State} {succeeds : Bool}
    (taken : state.connect index call succeeds = some result) :
    call.phase ≠ .finished ∧ CallStep state index call result := by
  unfold State.connect at taken
  split at taken
  · rename_i stage phase
    refine ⟨by simp [phase], ?_⟩
    rcases Option.map_eq_some_iff.mp taken with ⟨next, connected, rfl⟩
    rw [GetChannel.connect_cases connected]
    cases succeeds with
    | true => exact .connects
    | false => exact .ends .unreachable nofun
  · cases taken

theorem insert_callStep {state : State} (taken : state.insert index call = some result) :
    call.phase ≠ .finished ∧ CallStep state index call result := by
  unfold State.insert at taken
  split at taken
  · rename_i stage phase
    rcases Option.map_eq_some_iff.mp taken with ⟨⟨channels, next⟩, inserted, rfl⟩
    rcases GetChannel.insert_cases inserted with ⟨channel, rfl, rfl, rfl⟩
    exact ⟨by simp [phase], .inserts channel (by simp [Call.channel?, phase, GetChannel.channel?])⟩
  · cases taken

theorem ready_callStep {state : State} (taken : state.ready index call = some result) :
    call.phase ≠ .finished ∧ CallStep state index call result := by
  unfold State.ready at taken
  split at taken
  · rename_i stage phase
    rcases Option.map_eq_some_iff.mp taken with ⟨channel, asked, rfl⟩
    cases GetChannel.ready_eq_some asked
    have held : call.channel? = some channel := by simp [Call.channel?, phase, GetChannel.channel?]
    refine ⟨by simp [phase], ?_⟩
    split
    · exact .readies channel held
    · rename_i dead
      exact .findsDead channel held (Bool.eq_false_iff.mpr dead)
  · cases taken

theorem answer_callStep {state : State}
    (taken : state.answer index call code = some result) :
    call.phase ≠ .finished ∧ CallStep state index call result := by
  unfold State.answer at taken
  split at taken
  · rename_i channel phase
    refine ⟨by simp [phase], ?_⟩
    dsimp only at taken
    split at taken <;> cases taken
    · exact .evicts code
    · exact .ends (.status code) nofun
  · cases taken

/-- Everything that one step can do. -/
inductive CacheStep (state : State) : Action → State × Reply → Prop
  | starts (upstream : String) :
      CacheStep state (.transcode_start upstream) (state.transcode_start upstream, .silent)
  | stops (index : Nat) (next : State) (stopped : state.transcode_stop index = some next) :
      CacheStep state (.transcode_stop index) (next, .silent)
  | adds (action : Action) (noStop : ∀ index, action ≠ .transcode_stop index) (entry : Entry)
      (endpoint : String) (runtime : Runtime) (alive : state.alive runtime = true) :
      CacheStep state action
        ({ state with calls := state.calls ++ [⟨entry, endpoint, runtime, .getting .looking⟩] }, .silent)
  | goesOn (action : Action) (noStop : ∀ index, action ≠ .transcode_stop index) (index : Nat)
      (call : Call) (known : state.calls[index]? = some call) (busy : call.phase ≠ .finished)
      (result : State × Reply) (step : CallStep state index call result) :
      CacheStep state action result

theorem cacheStep_cases {state : State} (taken : cacheStep state action = some result) :
    CacheStep state action result := by
  cases action with
  | transcode_start upstream =>
      cases taken
      exact .starts upstream
  | transcode_stop index =>
      rcases Option.map_eq_some_iff.mp taken with ⟨next, stopped, rfl⟩
      exact .stops index next stopped
  | call entry endpoint =>
      rcases Option.map_eq_some_iff.mp taken with ⟨next, called, rfl⟩
      unfold State.call at called
      split at called <;> cases called
      exact .adds (.call entry endpoint) nofun entry endpoint .shared rfl
  | request index =>
      rcases Option.map_eq_some_iff.mp taken with ⟨next, requested, rfl⟩
      unfold State.request at requested
      split at requested
      · rename_i upstream known
        cases requested
        refine .adds (.request index) nofun .call_unary_bytes upstream (.transcoder index) ?_
        simp [State.alive, known]
      · cases requested
  | look_up index =>
      rcases Option.bind_eq_some_iff.mp taken with ⟨call, known, step⟩
      rcases look_up_callStep step with ⟨busy, step⟩
      exact .goesOn (.look_up index) nofun index call known busy result step
  | connect index succeeds =>
      rcases Option.bind_eq_some_iff.mp taken with ⟨call, known, step⟩
      rcases connect_callStep step with ⟨busy, step⟩
      exact .goesOn (.connect index succeeds) nofun index call known busy result step
  | insert index =>
      rcases Option.bind_eq_some_iff.mp taken with ⟨call, known, step⟩
      rcases insert_callStep step with ⟨busy, step⟩
      exact .goesOn (.insert index) nofun index call known busy result step
  | ready index =>
      rcases Option.bind_eq_some_iff.mp taken with ⟨call, known, step⟩
      rcases ready_callStep step with ⟨busy, step⟩
      exact .goesOn (.ready index) nofun index call known busy result step
  | answer index code =>
      rcases Option.bind_eq_some_iff.mp taken with ⟨call, known, step⟩
      rcases answer_callStep step with ⟨busy, step⟩
      exact .goesOn (.answer index code) nofun index call known busy result step

namespace State

theorem Running.step {state : State} (running : state.Running)
    (taken : cacheStep state action = some (next, reply)) : next.Running := by
  cases cacheStep_cases taken with
  | starts upstream =>
      exact fun call member notOver =>
        alive_transcode_start state upstream (running call member notOver)
  | stops index _ stopped =>
      rcases transcode_stop_eq stopped with ⟨_, alive, calls⟩
      intro call member notOver
      rw [calls] at member
      rcases List.mem_map.mp member with ⟨before, memberBefore, rfl⟩
      rw [alive]
      split at notOver
      · exact absurd rfl notOver
      · rename_i elsewhere
        rw [if_neg elsewhere, if_neg elsewhere]
        exact running before memberBefore notOver
  | adds _ _ entry endpoint runtime alive => exact running.add entry endpoint alive
  | goesOn _ _ index call known busy _ step =>
      cases step <;> exact running.setPhase known busy _

/-- Every step but the end of a transcoder keeps channels and runtimes together. -/
theorem Intact.step {state : State} (running : state.Running) (intact : state.Intact)
    (taken : cacheStep state action = some (next, reply))
    (noStop : ∀ index, action ≠ .transcode_stop index) : next.Intact ∧ reply ≠ .not_ready := by
  cases cacheStep_cases taken with
  | starts upstream =>
      refine ⟨⟨fun endpoint channel cached => ?_, fun call member channel held => ?_⟩, nofun⟩
      · exact alive_transcode_start state upstream (intact.cached endpoint channel cached)
      · exact alive_transcode_start state upstream (intact.held call member channel held)
  | stops index => exact absurd rfl (noStop index)
  | adds _ _ entry endpoint runtime => exact ⟨intact.add entry endpoint runtime, nofun⟩
  | goesOn _ _ index call known busy _ step =>
      have member := List.mem_of_getElem? known
      cases step with
      | finds channel cached =>
          refine ⟨intact.setPhase index call _ fun other held => ?_, nofun⟩
          cases held
          exact intact.cached call.endpoint channel cached
      | misses => exact ⟨intact.setPhase index call _ nofun, nofun⟩
      | connects =>
          refine ⟨intact.setPhase index call _ fun other held => ?_, nofun⟩
          cases held
          exact running call member busy
      | inserts channel held =>
          have alive := intact.held call member channel held
          refine ⟨(intact.setPhase index call (.getting (.holding channel)) fun other held => ?_).update
            call.endpoint (some channel) fun other held => ?_, nofun⟩
          · cases held
            exact alive
          · cases held
            exact alive
      | readies channel held =>
          have alive := intact.held call member channel held
          refine ⟨intact.setPhase index call _ fun other held => ?_, nofun⟩
          cases held
          exact alive
      | findsDead channel held dead =>
          rw [intact.held call member channel held] at dead
          cases dead
      | ends _ ready => exact ⟨intact.setPhase index call _ nofun, ready⟩
      | evicts code =>
          exact ⟨(intact.setPhase index call .finished nofun).update call.endpoint none nofun, nofun⟩

/-- A stop leaves channels and runtimes together exactly if it spares the channels. -/
theorem Intact.stop_iff {state : State} (intact : state.Intact)
    (stopped : state.transcode_stop index = some next) :
    next.Intact ↔ state.SparesChannels (.transcode_stop index) := by
  rcases transcode_stop_eq stopped with ⟨channels, alive, calls⟩
  have stillAlive : ∀ runtime, state.alive runtime = true →
      (next.alive runtime = true ↔ runtime ≠ .transcoder index) := by
    intro runtime before
    rw [alive]
    split <;> simp_all
  constructor
  · intro intactNext
    refine ⟨fun endpoint channel cached => ?_, fun call member elsewhere channel held => ?_⟩
    · apply (stillAlive _ (intact.cached endpoint channel cached)).mp
      exact intactNext.cached endpoint channel (channels ▸ cached)
    · apply (stillAlive _ (intact.held call member channel held)).mp
      refine intactNext.held call ?_ channel held
      rw [calls, List.mem_map]
      exact ⟨call, member, if_neg elsewhere⟩
  · intro spares
    refine ⟨fun endpoint channel cached => ?_, fun call member channel held => ?_⟩
    · rw [channels] at cached
      exact (stillAlive _ (intact.cached endpoint channel cached)).mpr
        (spares.1 endpoint channel cached)
    · rw [calls] at member
      rcases List.mem_map.mp member with ⟨before, memberBefore, rfl⟩
      split at held
      · cases held
      · rename_i elsewhere
        exact (stillAlive _ (intact.held before memberBefore channel held)).mpr
          (spares.2 before memberBefore elsewhere channel held)

theorem Intact.step_iff {state : State} (running : state.Running) (intact : state.Intact)
    (taken : cacheStep state action = some (next, reply)) :
    next.Intact ↔ state.SparesChannels action := by
  cases action with
  | transcode_stop index =>
      rcases Option.map_eq_some_iff.mp taken with ⟨_, stopped, equal⟩
      cases equal
      exact intact.stop_iff stopped
  | _ => exact ⟨fun _ => trivial, fun _ => (intact.step running taken nofun).1⟩

end State

/-- In a run, every cached channel always belongs to a running runtime, and so does
every channel that a call holds, exactly if every transcoder that is stopped leaves
no channel of its own behind. No call is then refused for want of a runtime. -/
theorem cached_channels_alive_iff (trace : List (Action × Reply)) (state : State) :
    ((RunWhere (fun state _ => state.Intact) cacheStep .start trace state ∧ state.Intact) ↔
      RunWhere State.SparesChannels cacheStep .start trace state) ∧
    (RunWhere State.SparesChannels cacheStep .start trace state →
      ∀ event ∈ trace, event.2 ≠ .not_ready) := by
  have start : State.start.Intact := ⟨nofun, nofun⟩
  have running : State.start.Running := nofun
  constructor
  · exact RunWhere.throughout_iff running (fun running taken => running.step taken) start
      fun running intact taken => intact.step_iff running taken
  · intro run
    have known : (state.Running ∧ state.Intact) ∧ ∀ event ∈ trace, event.2 ≠ .not_ready := by
      apply run.invariant fun trace state =>
        (state.Running ∧ state.Intact) ∧ ∀ event ∈ trace, event.2 ≠ .not_ready
      · exact ⟨⟨running, start⟩, nofun⟩
      · intro trace state action next reply _ known spares taken
        rcases known with ⟨⟨running, intact⟩, ready⟩
        refine ⟨⟨running.step taken, (intact.step_iff running taken).mpr spares⟩, ?_⟩
        intro event member
        rcases List.mem_append.mp member with before | now
        · exact ready event before
        · cases List.mem_singleton.mp now
          cases action with
          | transcode_stop index =>
              rcases Option.map_eq_some_iff.mp taken with ⟨_, _, equal⟩
              cases equal
              exact nofun
          | _ => exact (intact.step running taken nofun).2
    exact known.2

/-- A transcoder connects first, and is stopped. The host's call finds the channel
in the cache and cannot use it; nor can the next one. -/
theorem call_after_transcode_stop_not_ready : ∃ trace state channel,
    Run cacheStep .start trace state ∧
      state.channels "http://localhost:9091" = some channel ∧
      state.alive channel.runtime = false ∧
      trace.map Prod.fst = [.transcode_start "http://localhost:9091", .request 0, .look_up 0,
        .connect 0 true, .insert 0, .ready 0, .answer 0 0, .transcode_stop 0,
        .call .grpc_call "http://localhost:9091", .look_up 1, .ready 1,
        .call .grpc_call "http://localhost:9091", .look_up 2, .ready 2] ∧
      trace.getLast? = some (.ready 2, .not_ready) := by
  have replayed : ∃ trace state channel, replay cacheStep .start
        [.transcode_start "http://localhost:9091", .request 0, .look_up 0,
          .connect 0 true, .insert 0, .ready 0, .answer 0 0, .transcode_stop 0,
          .call .grpc_call "http://localhost:9091", .look_up 1, .ready 1,
          .call .grpc_call "http://localhost:9091", .look_up 2, .ready 2] =
          some (trace, state) ∧
      state.channels "http://localhost:9091" = some channel ∧
      state.alive channel.runtime = false ∧
      trace.getLast? = some (.ready 2, .not_ready) := ⟨_, _, _, rfl, rfl, rfl, rfl⟩
  rcases replayed with ⟨trace, state, channel, replayed, cached, dead, last⟩
  exact ⟨trace, state, channel, run_of_replay replayed, cached, dead,
    actions_of_replay replayed, last⟩

end Zpr.Grpc.Cache
