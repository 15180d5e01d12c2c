import Zpr.Grpc.ChannelCache

namespace Zpr.Grpc.Eviction

open Cache (Entry)

/-! # Broken channels

Here a channel is told apart from every other by its number, and a transport may fail at
any time. A step is one lock of the cache, one connection made, or one answer awaited;
operations interleave freely. -/

inductive Phase
  | getting (stage : GetChannel Nat)
  /-- the channel is ready for the request -/
  | ready (channel : Nat)
  /-- in `zpr_grpc_call`, before `drop_channel` -/
  | evicting (channel : Nat) (code : Int)
  /-- the operation has ended, and its transport has not failed -/
  | returned
  /-- the operation has ended, and has seen the transport of the channel fail -/
  | failed (channel : Nat)
  deriving DecidableEq, Repr

/-- The channel that an operation has to do with. -/
def Phase.channel? : Phase → Option Nat
  | .getting stage => stage.channel?
  | .ready channel | .evicting channel _ | .failed channel => some channel
  | .returned => none

structure Call where
  entry : Entry
  endpoint : String
  phase : Phase
  deriving DecidableEq, Repr

structure State where
  channels : String → Option Nat
  /-- how many channels have been connected -/
  made : Nat
  calls : List Call

def State.start : State where
  channels := fun _ => none
  made := 0
  calls := []

inductive Action
  | call (entry : Entry) (endpoint : String)
  /-- the first half of `get_channel` -/
  | look_up (index : Nat)
  | connect (index : Nat) (succeeds : Bool)
  /-- the second half of `get_channel` -/
  | insert (index : Nat)
  | ready (index : Nat) (succeeds : Bool)
  /-- `apply_metadata_json` refuses, which only the host's own calls ask -/
  | metadata_error (index : Nat)
  | answer (index : Nat) (code : Int)
  | drop_channel (index : Nat)
  /-- the transcoder that makes the call is stopped -/
  | stop (index : Nat)
  deriving DecidableEq, Repr

inductive Reply
  | silent
  /-- `failed to connect` -/
  | unreachable
  /-- `gRPC transport not ready` -/
  | not_ready
  | invalid_metadata
  | status (code : Int)
  deriving DecidableEq, Repr

namespace State

def setPhase (state : State) (index : Nat) (call : Call) (phase : Phase) : State :=
  { state with calls := state.calls.set index { call with phase := phase } }

def look_up (state : State) (index : Nat) (call : Call) : Option (State × Reply) :=
  match call.phase with
  | .getting stage =>
      (stage.look_up (state.channels call.endpoint)).map fun stage =>
        (state.setPhase index call (.getting stage), .silent)
  | _ => none

def connect (state : State) (index : Nat) (call : Call) (succeeds : Bool) :
    Option (State × Reply) :=
  match call.phase with
  | .getting stage =>
      (stage.connect (if succeeds then some state.made else none)).map fun
        | some stage =>
            ({ state.setPhase index call (.getting stage) with made := state.made + 1 }, .silent)
        | none => (state.setPhase index call .returned, .unreachable)
  | _ => none

def insert (state : State) (index : Nat) (call : Call) : Option (State × Reply) :=
  match call.phase with
  | .getting stage =>
      (stage.insert state.channels call.endpoint).map fun (channels, stage) =>
        ({ state.setPhase index call (.getting stage) with channels := channels }, .silent)
  | _ => none

def ready (state : State) (index : Nat) (call : Call) (succeeds : Bool) :
    Option (State × Reply) :=
  match call.phase with
  | .getting stage =>
      stage.ready.map fun channel =>
        if succeeds then
          (state.setPhase index call (.ready channel), .silent)
        else
          -- no entry point evicts the channel here
          (state.setPhase index call (.failed channel), .not_ready)
  | _ => none

def metadata_error (state : State) (index : Nat) (call : Call) : Option (State × Reply) :=
  match call.phase with
  | .ready _ =>
      if call.entry = .call_unary_bytes then none
      else some (state.setPhase index call .returned, .invalid_metadata)
  | _ => none

def answer (state : State) (index : Nat) (call : Call) (code : Int) : Option (State × Reply) :=
  match call.phase with
  | .ready channel =>
      if Cache.State.brokenTransport code then
        if call.entry = .grpc_call then
          some (state.setPhase index call (.evicting channel code), .silent)
        else
          some (state.setPhase index call (.failed channel), .status code)
      else
        some (state.setPhase index call .returned, .status code)
  | _ => none

def drop_channel (state : State) (index : Nat) (call : Call) : Option (State × Reply) :=
  match call.phase with
  | .evicting channel code =>
      some ({ state.setPhase index call (.failed channel) with
        channels := Function.update state.channels call.endpoint none }, .status code)
  | _ => none

def stop (state : State) (index : Nat) (call : Call) : Option (State × Reply) :=
  match call.entry, call.phase with
  | .call_unary_bytes, .returned | .call_unary_bytes, .failed _ => none
  | .call_unary_bytes, _ => some (state.setPhase index call .returned, .silent)
  | _, _ => none

end State

def evictionStep : PartialStep State Action Reply
  | state, .call entry endpoint =>
      some ({ state with calls := state.calls ++ [⟨entry, endpoint, .getting .looking⟩] }, .silent)
  | state, .look_up index => (state.calls[index]?).bind fun call => state.look_up index call
  | state, .connect index succeeds =>
      (state.calls[index]?).bind fun call => state.connect index call succeeds
  | state, .insert index => (state.calls[index]?).bind fun call => state.insert index call
  | state, .ready index succeeds =>
      (state.calls[index]?).bind fun call => state.ready index call succeeds
  | state, .metadata_error index =>
      (state.calls[index]?).bind fun call => state.metadata_error index call
  | state, .answer index code =>
      (state.calls[index]?).bind fun call => state.answer index call code
  | state, .drop_channel index =>
      (state.calls[index]?).bind fun call => state.drop_channel index call
  | state, .stop index => (state.calls[index]?).bind fun call => state.stop index call

/-- No channel that an operation has seen fail is cached for the endpoint of that
operation. -/
def State.Evicted (state : State) : Prop :=
  ∀ call ∈ state.calls, ∀ channel, call.phase = .failed channel →
    state.channels call.endpoint ≠ some channel

/-- The transport fails in the answer to a `zpr_grpc_call`, or on a channel that is not
cached any more. -/
def State.Evicts (state : State) : Action → Prop
  | .ready index succeeds => ∀ call channel, state.calls[index]? = some call →
      call.phase = .getting (.holding channel) → succeeds = false → state.channels call.endpoint ≠ some channel
  | .answer index code => ∀ call channel, state.calls[index]? = some call →
      call.phase = .ready channel → Cache.State.brokenTransport code = true →
      call.entry = .grpc_call ∨ state.channels call.endpoint ≠ some channel
  | _ => True

/-! ## What the steps do -/

/-- What a step of one call does to the cache and to the phase of the call. -/
inductive CallStep (state : State) (index : Nat) (call : Call) (action : Action) :
    State → Prop
  | finds (channel : Nat) (cached : state.channels call.endpoint = some channel)
      (allowed : state.Evicts action) :
      CallStep state index call action (state.setPhase index call (.getting (.holding channel)))
  | leaves (phase : Phase) (none : phase.channel? = none)
      (allowed : state.Evicts action) :
      CallStep state index call action (state.setPhase index call phase)
  | connects (allowed : state.Evicts action) :
      CallStep state index call action
        { state.setPhase index call (.getting (.connected state.made)) with made := state.made + 1 }
  | inserts (channel : Nat) (own : call.phase = .getting (.connected channel))
      (allowed : state.Evicts action) :
      CallStep state index call action { state.setPhase index call (.getting (.holding channel)) with
        channels := Function.update state.channels call.endpoint (some channel) }
  | keeps (phase : Phase) (channel : Nat)
      (held : call.phase.channel? = some channel) (holds : phase.channel? = some channel)
      (unconnected : phase ≠ .getting (.connected channel)) (unfailed : phase ≠ .failed channel)
      (allowed : state.Evicts action) :
      CallStep state index call action (state.setPhase index call phase)
  | fails (channel : Nat) (held : call.phase.channel? = some channel)
      (exactly : state.Evicts action ↔ state.channels call.endpoint ≠ some channel) :
      CallStep state index call action (state.setPhase index call (.failed channel))
  | drops (channel : Nat) (held : call.phase.channel? = some channel)
      (allowed : state.Evicts action) :
      CallStep state index call action { state.setPhase index call (.failed channel) with
        channels := Function.update state.channels call.endpoint none }

section CallStep

variable {state next : State} {reply : Reply} {index : Nat} {call : Call}

/-- The operation has not seen its transport fail. -/
def Call.Unfailed (call : Call) : Prop := ∀ channel, call.phase ≠ .failed channel

theorem look_up_callStep (taken : state.look_up index call = some (next, reply)) :
    call.Unfailed ∧ CallStep state index call (.look_up index) next := by
  unfold State.look_up at taken
  split at taken
  · rename_i stage phase
    refine ⟨by simp [Call.Unfailed, phase], ?_⟩
    rcases Option.map_eq_some_iff.mp taken with ⟨after, looked, moved⟩
    cases moved
    rcases GetChannel.look_up_cases looked with ⟨channel, cached, rfl⟩ | rfl
    · exact .finds channel cached trivial
    · exact .leaves _ rfl trivial
  · cases taken

theorem connect_callStep {succeeds : Bool}
    (taken : state.connect index call succeeds = some (next, reply)) :
    call.Unfailed ∧ CallStep state index call (.connect index succeeds) next := by
  unfold State.connect at taken
  split at taken
  · rename_i stage phase
    refine ⟨by simp [Call.Unfailed, phase], ?_⟩
    rcases Option.map_eq_some_iff.mp taken with ⟨after, connected, moved⟩
    rw [GetChannel.connect_cases connected] at moved
    cases succeeds <;> cases moved
    · exact .leaves _ rfl trivial
    · exact .connects trivial
  · cases taken

theorem insert_callStep (taken : state.insert index call = some (next, reply)) :
    call.Unfailed ∧ CallStep state index call (.insert index) next := by
  unfold State.insert at taken
  split at taken
  · rename_i stage phase
    rcases Option.map_eq_some_iff.mp taken with ⟨⟨channels, after⟩, inserted, moved⟩
    cases moved
    rcases GetChannel.insert_cases inserted with ⟨channel, rfl, rfl, rfl⟩
    exact ⟨by simp [Call.Unfailed, phase], .inserts channel phase trivial⟩
  · cases taken

theorem ready_callStep {succeeds : Bool} (known : state.calls[index]? = some call)
    (taken : state.ready index call succeeds = some (next, reply)) :
    call.Unfailed ∧ CallStep state index call (.ready index succeeds) next := by
  unfold State.ready at taken
  split at taken
  · rename_i stage phase
    rcases Option.map_eq_some_iff.mp taken with ⟨channel, asked, moved⟩
    cases GetChannel.ready_eq_some asked
    have held : call.phase.channel? = some channel := by rw [phase]; rfl
    refine ⟨by simp [Call.Unfailed, phase], ?_⟩
    cases succeeds with
    | true =>
        cases moved
        exact .keeps _ channel held rfl nofun nofun fun _ _ _ _ failed => by cases failed
    | false =>
        cases moved
        apply CallStep.fails channel held
        constructor
        · exact fun evicts => evicts call channel known phase rfl
        · intro uncached other channel' known' phase' _
          rw [known] at known'
          cases known'
          rw [phase] at phase'
          cases phase'
          exact uncached
  · cases taken

theorem metadata_error_callStep (taken : state.metadata_error index call = some (next, reply)) :
    call.Unfailed ∧ CallStep state index call (.metadata_error index) next := by
  unfold State.metadata_error at taken
  split at taken
  · rename_i phase
    refine ⟨by simp [Call.Unfailed, phase], ?_⟩
    split at taken <;> cases taken
    exact .leaves _ rfl trivial
  · cases taken

theorem answer_callStep (known : state.calls[index]? = some call)
    (taken : state.answer index call code = some (next, reply)) :
    call.Unfailed ∧ CallStep state index call (.answer index code) next := by
  unfold State.answer at taken
  split at taken
  · rename_i channel phase
    have held : call.phase.channel? = some channel := by rw [phase]; rfl
    refine ⟨by simp [Call.Unfailed, phase], ?_⟩
    -- the condition speaks of this call only
    have exactly : state.Evicts (.answer index code) ↔ (Cache.State.brokenTransport code = true →
        call.entry = .grpc_call ∨ state.channels call.endpoint ≠ some channel) := by
      constructor
      · exact fun evicts => evicts call channel known phase
      · intro evicts other channel' known' phase'
        rw [known] at known'
        cases known'
        rw [phase] at phase'
        cases phase'
        exact evicts
    by_cases broken : Cache.State.brokenTransport code = true
    · rw [if_pos broken] at taken
      by_cases evicting : call.entry = .grpc_call
      · rw [if_pos evicting] at taken
        cases taken
        exact .keeps _ channel held rfl nofun nofun (exactly.mpr fun _ => .inl evicting)
      · rw [if_neg evicting] at taken
        cases taken
        apply CallStep.fails channel held
        rw [exactly]
        simp [broken, evicting]
    · rw [if_neg broken] at taken
      cases taken
      exact .leaves _ rfl (exactly.mpr fun isBroken => absurd isBroken broken)
  · cases taken

theorem drop_channel_callStep (taken : state.drop_channel index call = some (next, reply)) :
    call.Unfailed ∧ CallStep state index call (.drop_channel index) next := by
  unfold State.drop_channel at taken
  split at taken
  · rename_i channel code phase
    cases taken
    exact ⟨by simp [Call.Unfailed, phase], .drops channel (by rw [phase]; rfl) trivial⟩
  · cases taken

theorem stop_callStep (taken : state.stop index call = some (next, reply)) :
    call.Unfailed ∧ CallStep state index call (.stop index) next := by
  unfold State.stop at taken
  split at taken
  · cases taken
  · cases taken
  · rename_i unfailed
    cases taken
    exact ⟨unfailed, .leaves _ rfl trivial⟩
  · cases taken

end CallStep

/-- A step adds a call or goes on with one. -/
theorem evictionStep_cases {state : State}
    (taken : evictionStep state action = some (next, reply)) :
    (∃ entry endpoint, state.Evicts action ∧
        next = { state with calls := state.calls ++ [⟨entry, endpoint, .getting .looking⟩] }) ∨
      ∃ index call, state.calls[index]? = some call ∧ call.Unfailed ∧
        CallStep state index call action next := by
  cases action with
  | call entry endpoint =>
      cases taken
      exact .inl ⟨entry, endpoint, trivial, rfl⟩
  | look_up index =>
      rcases Option.bind_eq_some_iff.mp taken with ⟨call, known, step⟩
      exact .inr ⟨index, call, known, look_up_callStep step⟩
  | connect index succeeds =>
      rcases Option.bind_eq_some_iff.mp taken with ⟨call, known, step⟩
      exact .inr ⟨index, call, known, connect_callStep step⟩
  | insert index =>
      rcases Option.bind_eq_some_iff.mp taken with ⟨call, known, step⟩
      exact .inr ⟨index, call, known, insert_callStep step⟩
  | ready index succeeds =>
      rcases Option.bind_eq_some_iff.mp taken with ⟨call, known, step⟩
      exact .inr ⟨index, call, known, ready_callStep known step⟩
  | metadata_error index =>
      rcases Option.bind_eq_some_iff.mp taken with ⟨call, known, step⟩
      exact .inr ⟨index, call, known, metadata_error_callStep step⟩
  | answer index code =>
      rcases Option.bind_eq_some_iff.mp taken with ⟨call, known, step⟩
      exact .inr ⟨index, call, known, answer_callStep known step⟩
  | drop_channel index =>
      rcases Option.bind_eq_some_iff.mp taken with ⟨call, known, step⟩
      exact .inr ⟨index, call, known, drop_channel_callStep step⟩
  | stop index =>
      rcases Option.bind_eq_some_iff.mp taken with ⟨call, known, step⟩
      exact .inr ⟨index, call, known, stop_callStep step⟩

/-! ## Which channels are whose -/

/-- Channels are numbered as they are made, and the one that a call has just connected is
known to nobody else. -/
structure State.Numbered (state : State) : Prop where
  cached : ∀ endpoint channel, state.channels endpoint = some channel → channel < state.made
  held : ∀ call ∈ state.calls, ∀ channel, call.phase.channel? = some channel → channel < state.made
  own : ∀ (index : Nat) call channel, state.calls[index]? = some call →
    call.phase = .getting (.connected channel) →
    (∀ endpoint, state.channels endpoint ≠ some channel) ∧
      ∀ (other : Nat) call', state.calls[other]? = some call' →
        call'.phase.channel? = some channel → other = index

namespace State.Numbered

variable {state : State}

/-- Where the channel of a call that has gone on to another phase comes from. -/
inductive Origin (state : State) (call : Call) (phase : Phase) (made channel : Nat) : Prop
  | cached (unconnected : phase ≠ .getting (.connected channel)) (endpoint : String)
      (found : state.channels endpoint = some channel)
  | held (unconnected : phase ≠ .getting (.connected channel)) (held : call.phase.channel? = some channel)
  | new (connected : phase = .getting (.connected channel)) (fresh : channel = state.made)
      (counted : made = state.made + 1)

theorem update (numbered : state.Numbered) {index : Nat} {call : Call} {phase : Phase}
    {channels : String → Option Nat} {made : Nat} (known : state.calls[index]? = some call)
    (grows : state.made ≤ made)
    (cached : ∀ endpoint channel, channels endpoint = some channel →
      state.channels endpoint = some channel ∨ call.phase.channel? = some channel)
    (origin : ∀ channel, phase.channel? = some channel → Origin state call phase made channel) :
    State.Numbered { state.setPhase index call phase with channels := channels, made := made } := by
  have member := List.mem_of_getElem? known
  have inside := (List.getElem?_eq_some_iff.mp known).1
  constructor
  · intro endpoint channel found
    rcases cached endpoint channel found with before | held
    · exact Nat.lt_of_lt_of_le (numbered.cached endpoint channel before) grows
    · exact Nat.lt_of_lt_of_le (numbered.held call member channel held) grows
  · intro other otherMember channel held
    rcases List.mem_or_eq_of_mem_set otherMember with before | rfl
    · exact Nat.lt_of_lt_of_le (numbered.held other before channel held) grows
    · cases origin channel held with
      | cached _ endpoint found =>
          exact Nat.lt_of_lt_of_le (numbered.cached endpoint channel found) grows
      | held _ before => exact Nat.lt_of_lt_of_le (numbered.held call member channel before) grows
      | new _ fresh counted =>
          show channel < made
          omega
  · intro owner other channel ownerKnown connected
    simp only [State.setPhase] at ownerKnown ⊢
    by_cases itself : owner = index
    · -- the call has just connected: its number is larger than any other
      subst itself
      rw [List.getElem?_set_self inside] at ownerKnown
      cases ownerKnown
      dsimp only at connected
      have holds : phase.channel? = some channel := by rw [connected]; rfl
      cases origin channel holds with
      | cached unconnected => exact absurd connected unconnected
      | held unconnected => exact absurd connected unconnected
      | new _ fresh _ =>
          constructor
          · intro endpoint found
            rcases cached endpoint channel found with before | held
            · have smaller := numbered.cached endpoint channel before
              omega
            · have smaller := numbered.held call member channel held
              omega
          · intro another call' anotherKnown held
            by_cases same : another = owner
            · exact same
            · rw [List.getElem?_set_ne (Ne.symm same)] at anotherKnown
              have smaller := numbered.held call' (List.mem_of_getElem? anotherKnown) channel held
              omega
    · rw [List.getElem?_set_ne (Ne.symm itself)] at ownerKnown
      rcases numbered.own owner other channel ownerKnown connected with ⟨uncached, unshared⟩
      have notHeld : call.phase.channel? ≠ some channel := fun held =>
        itself (unshared index call known held).symm
      constructor
      · intro endpoint found
        rcases cached endpoint channel found with before | held
        · exact uncached endpoint before
        · exact notHeld held
      · intro another call' anotherKnown held
        by_cases same : another = index
        · subst same
          rw [List.getElem?_set_self inside] at anotherKnown
          cases anotherKnown
          cases origin channel held with
          | cached _ endpoint found => exact absurd found (uncached endpoint)
          | held _ before => exact absurd before notHeld
          | new _ fresh _ =>
              have smaller := numbered.held other (List.mem_of_getElem? ownerKnown) channel
                (by rw [connected]; rfl)
              omega
        · rw [List.getElem?_set_ne (Ne.symm same)] at anotherKnown
          exact unshared another call' anotherKnown held

theorem add (numbered : state.Numbered) (entry : Entry) (endpoint : String) :
    State.Numbered { state with calls := state.calls ++ [⟨entry, endpoint, .getting .looking⟩] } := by
  have old : ∀ {index : Nat} {call : Call} {channel : Nat},
      (state.calls ++ [⟨entry, endpoint, Phase.getting .looking⟩])[index]? = some call →
      call.phase.channel? = some channel → state.calls[index]? = some call := by
    intro index call channel known held
    rw [List.getElem?_append] at known
    split at known
    · exact known
    · cases List.mem_singleton.mp (List.mem_of_getElem? known)
      cases held
  refine ⟨numbered.cached, fun call member channel held => ?_, ?_⟩
  · rcases List.mem_append.mp member with before | new
    · exact numbered.held call before channel held
    · cases List.mem_singleton.mp new
      cases held
  · intro owner call channel known connected
    have holds : call.phase.channel? = some channel := by rw [connected]; rfl
    rcases numbered.own owner call channel (old known holds) connected with ⟨uncached, unshared⟩
    exact ⟨uncached, fun other call' known' held => unshared other call' (old known' held) held⟩

theorem step (numbered : state.Numbered)
    (taken : evictionStep state action = some (next, reply)) : next.Numbered := by
  rcases evictionStep_cases taken with ⟨entry, endpoint, _, rfl⟩ | ⟨index, call, known, _, step⟩
  · exact numbered.add entry endpoint
  · cases step with
    | finds channel found =>
        apply numbered.update known (Nat.le_refl _) fun endpoint channel => .inl
        intro other held
        cases held
        exact .cached nofun call.endpoint found
    | leaves phase none =>
        apply numbered.update known (Nat.le_refl _) fun endpoint channel => .inl
        intro other held
        rw [none] at held
        cases held
    | connects =>
        apply numbered.update known (Nat.le_succ _) fun endpoint channel => .inl
        intro other held
        cases held
        exact .new rfl rfl rfl
    | inserts channel own =>
        have held : call.phase.channel? = some channel := by rw [own]; rfl
        apply numbered.update known (Nat.le_refl _)
        · intro endpoint other found
          by_cases same : endpoint = call.endpoint
          · subst same
            rw [Function.update_self] at found
            exact .inr (found ▸ held)
          · rw [Function.update_of_ne same] at found
            exact .inl found
        · intro other holds
          cases holds
          exact .held nofun held
    | keeps phase channel held holds unconnected =>
        apply numbered.update known (Nat.le_refl _) fun endpoint channel => .inl
        intro other otherHolds
        rw [holds] at otherHolds
        cases otherHolds
        exact .held unconnected held
    | fails channel held =>
        apply numbered.update known (Nat.le_refl _) fun endpoint channel => .inl
        intro other otherHolds
        cases otherHolds
        exact .held nofun held
    | drops channel held =>
        apply numbered.update known (Nat.le_refl _)
        · intro endpoint other found
          by_cases same : endpoint = call.endpoint
          · subst same
            rw [Function.update_self] at found
            cases found
          · rw [Function.update_of_ne same] at found
            exact .inl found
        · intro other otherHolds
          cases otherHolds
          exact .held nofun held

end State.Numbered

/-! ## Runs -/

namespace State

variable {state : State}

/-- A call goes on without failing, and at most a channel that nobody has seen fail comes
into the cache. -/
theorem Evicted.update (evicted : state.Evicted) {index : Nat} {call : Call} {phase : Phase}
    {channels : String → Option Nat} (made : Nat)
    (unfailed : ∀ channel, phase ≠ .failed channel)
    (cached : ∀ other ∈ state.calls, ∀ channel, other.phase = .failed channel →
      channels other.endpoint = some channel → state.channels other.endpoint = some channel) :
    Evicted { state.setPhase index call phase with channels := channels, made := made } := by
  intro other member channel failed found
  rcases List.mem_or_eq_of_mem_set member with before | rfl
  · exact evicted other before channel failed (cached other before channel failed found)
  · exact unfailed channel failed

theorem Evicted.step_iff (numbered : state.Numbered) (evicted : state.Evicted)
    (taken : evictionStep state action = some (next, reply)) :
    next.Evicted ↔ state.Evicts action := by
  rcases evictionStep_cases taken with ⟨entry, endpoint, allowed, rfl⟩ |
    ⟨index, call, known, unfailed, step⟩
  · refine ⟨fun _ => allowed, fun _ => ?_⟩
    intro other member channel failed
    rcases List.mem_append.mp member with before | new
    · exact evicted other before channel failed
    · cases List.mem_singleton.mp new
      cases failed
  · have unchanged : ∀ other ∈ state.calls, ∀ channel, other.phase = .failed channel →
        state.channels other.endpoint = some channel →
          state.channels other.endpoint = some channel := fun _ _ _ _ found => found
    cases step with
    | finds channel _ allowed =>
        exact ⟨fun _ => allowed, fun _ => evicted.update state.made nofun unchanged⟩
    | leaves phase none allowed =>
        refine ⟨fun _ => allowed, fun _ => evicted.update state.made ?_ unchanged⟩
        intro channel failed
        rw [failed] at none
        cases none
    | connects allowed =>
        exact ⟨fun _ => allowed, fun _ => evicted.update (state.made + 1) nofun unchanged⟩
    | inserts channel own allowed =>
        refine ⟨fun _ => allowed, fun _ => evicted.update state.made nofun ?_⟩
        intro other member failedOn failed found
        -- nobody else knows the channel that is put into the cache
        by_cases same : other.endpoint = call.endpoint
        · rw [same, Function.update_self] at found
          cases found
          rcases List.getElem?_of_mem member with ⟨otherIndex, otherKnown⟩
          have itself := (numbered.own index call channel known own).2 otherIndex other otherKnown
            (by rw [failed]; rfl)
          rw [itself, known] at otherKnown
          cases otherKnown
          rw [own] at failed
          cases failed
        · rw [Function.update_of_ne same] at found
          exact found
    | keeps phase channel _ holds _ notFailed allowed =>
        refine ⟨fun _ => allowed, fun _ => evicted.update state.made ?_ unchanged⟩
        intro other failed
        rw [failed] at holds
        cases holds
        exact notFailed failed
    | fails channel held exactly =>
        rw [exactly]
        constructor
        · intro evictedNext
          have inside := (List.getElem?_eq_some_iff.mp known).1
          exact evictedNext _ (List.mem_set inside _) channel rfl
        · intro uncached other member failedOn failed
          rcases List.mem_or_eq_of_mem_set member with before | rfl
          · exact evicted other before failedOn failed
          · cases failed
            exact uncached
    | drops channel held allowed =>
        refine ⟨fun _ => allowed, fun _ => ?_⟩
        intro other member failedOn failed found
        dsimp only at found
        by_cases same : other.endpoint = call.endpoint
        · rw [same, Function.update_self] at found
          cases found
        · rw [Function.update_of_ne same] at found
          rcases List.mem_or_eq_of_mem_set member with before | rfl
          · exact evicted other before failedOn failed found
          · exact same rfl

end State

/-- In a run, no channel whose transport an operation has seen fail is ever cached for
its endpoint again, exactly if every such failure is a status of `zpr_grpc_call` or comes
when the channel is not cached any more. -/
theorem broken_channels_evicted_iff (trace : List (Action × Reply)) (state : State) :
    (RunWhere (fun state _ => state.Evicted) evictionStep .start trace state ∧ state.Evicted) ↔
      RunWhere State.Evicts evictionStep .start trace state := by
  have numbered : State.start.Numbered := ⟨nofun, nofun, nofun⟩
  have evicted : State.start.Evicted := nofun
  apply RunWhere.throughout_iff numbered (fun numbered taken => numbered.step taken) evicted
  exact fun numbered evicted taken => evicted.step_iff numbered taken

/-- A stream is opened over a channel whose transport breaks before the answer, and the next
one finds the same channel. -/
theorem broken_channel_stays : ∃ trace state,
    Run evictionStep .start trace state ∧
      trace.map Prod.fst = [.call .client_stream_open "http://localhost:9091", .look_up 0,
        .connect 0 true, .insert 0, .ready 0 true, .answer 0 0,
        .call .client_stream_open "http://localhost:9091", .look_up 1, .ready 1 true,
        .answer 1 14, .call .client_stream_open "http://localhost:9091", .look_up 2] ∧
      state.channels "http://localhost:9091" = some 0 ∧
      state.calls.map Call.phase = [.returned, .failed 0, .getting (.holding 0)] ∧
      ¬ state.Evicted := by
  have replayed : ∃ trace state, replay evictionStep .start
        [.call .client_stream_open "http://localhost:9091", .look_up 0, .connect 0 true, .insert 0,
          .ready 0 true, .answer 0 0, .call .client_stream_open "http://localhost:9091",
          .look_up 1, .ready 1 true, .answer 1 14,
          .call .client_stream_open "http://localhost:9091", .look_up 2] = some (trace, state) ∧
      state.channels "http://localhost:9091" = some 0 ∧
      state.calls = [⟨.client_stream_open, "http://localhost:9091", .returned⟩,
        ⟨.client_stream_open, "http://localhost:9091", .failed 0⟩,
        ⟨.client_stream_open, "http://localhost:9091", .getting (.holding 0)⟩] :=
    ⟨_, _, rfl, rfl, rfl⟩
  rcases replayed with ⟨trace, state, replayed, cached, calls⟩
  refine ⟨trace, state, run_of_replay replayed, actions_of_replay replayed, cached, ?_, ?_⟩
  · rw [calls]
    rfl
  · intro evicted
    apply evicted ⟨.client_stream_open, "http://localhost:9091", .failed 0⟩ ?_ 0 rfl cached
    rw [calls]
    exact .tail _ (.head _)

end Zpr.Grpc.Eviction
