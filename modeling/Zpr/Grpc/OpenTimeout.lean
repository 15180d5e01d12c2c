import Zpr.Grpc.BidiCall

namespace Zpr.Grpc.Timed

open Ffi

/-! # The timeout that a call is opened with

A client, a server and the time on a clock that both share. The server keeps to the
protocol: a request that carries a `grpc-timeout` is over when that time has passed
since the server received it. Times are in milliseconds. -/

def GRPC_CALL_OK : Int := 0
def GRPC_CALL_STATUS_ERR : Int := 1

def GRPC_DEADLINE_EXCEEDED : Int := 4

/-- The two functions that open a streaming call, the second with the channel behind
its `ReqStream`. -/
inductive Entry
  | client_stream_open
  | bidi_open (rx : Channel Bytes)
  deriving DecidableEq, Repr

/-- What a call is opened with, and how long the server would let it last. The
arguments have passed their checks and the channel is ready. -/
structure Plan where
  entry : Entry
  timeout_ms : Nat
  /-- the `grpc-timeout`, if any, that the host asks for in `metadata_json` -/
  metadata_timeout : Option Nat
  /-- the time after which the server ends the call by itself, if it ever does -/
  lasts : Option Nat
  deriving DecidableEq, Repr

structure Request where
  grpc_timeout : Option Nat
  deriving DecidableEq, Repr

/-- `apply_metadata_json`, and then `set_timeout`, which replaces an earlier value. -/
def Plan.request (plan : Plan) : Request :=
  let req : Request := { grpc_timeout := plan.metadata_timeout }
  if plan.timeout_ms > 0 then { req with grpc_timeout := some plan.timeout_ms } else req

inductive Download
  | head
  | message (bytes : Bytes)
  | trailers (grpc_status : Int) (message : String)
  deriving DecidableEq, Repr

inductive Ending
  /-- by the server itself, with any status -/
  | served
  /-- the deadline of the request elapsed -/
  | expired
  deriving DecidableEq, Repr

/-- A call as the server sees it. -/
structure ServerCall where
  received : Nat
  deadline : Option Nat
  responded : Bool
  ending : Option Ending
  deriving DecidableEq, Repr

inductive OpenCall
  | client_stream (call : ClientCall)
  | bidi (call : Bidi.BidiCall)
  deriving DecidableEq, Repr

inductive Client
  | idle
  /-- inside the function that opens the call -/
  | opening (since : Nat)
  | opened (call : OpenCall)
  | failed (rc grpc_status : Int)
  deriving DecidableEq, Repr

structure State where
  now : Nat
  client : Client
  up : Option Request
  server : Option ServerCall
  down : List Download
  deriving DecidableEq, Repr

def State.start : State where
  now := 0
  client := .idle
  up := none
  server := none
  down := []

inductive Action
  | tick (elapsed : Nat)
  | open_call
  /-- the server receives the request -/
  | receive
  /-- the server sends the head of its response -/
  | respond
  | send (bytes : Bytes)
  /-- the server ends the call by itself -/
  | finish (grpc_status : Int) (message : String)
  /-- the server ends the call because its deadline has elapsed -/
  | expire
  | open_returns
  /-- tonic gives up waiting for the head of the response -/
  | open_expires (grpc_status : Int)
  /-- tonic takes what comes next off the response -/
  | deliver
  /-- the host or the pump goes on with the call -/
  | client_stream (action : Grpc.Action)
  | bidi (action : Bidi.CallAction)
  deriving DecidableEq, Repr

inductive Reply
  | silent
  | opened (rc grpc_status : Int)
  | call (reply : Grpc.Reply)
  deriving DecidableEq, Repr

/-- What tonic makes of it once the head has been read. -/
def Download.incoming? : Download → Option Incoming
  | .head => none
  | .message bytes => some (.message bytes)
  | .trailers grpc_status text =>
      if grpc_status = 0 then some .finished else some (.failed text)

namespace OpenCall

/-- What the entry point hands out. -/
def opened : Entry → OpenCall
  | .client_stream_open => .client_stream .opened
  | .bidi_open rx => .bidi (.opened rx)

def arrive (incoming : Incoming) : OpenCall → Option OpenCall
  | .client_stream call => (clientStep call (.arrive incoming)).map fun next => .client_stream next.1
  | .bidi call => (Bidi.bidiCallStep call (.arrive incoming)).map fun next => .bidi next.1

end OpenCall

/-- The call has not ended. -/
def ServerCall.open? (call : ServerCall) : Bool := call.ending.isNone

namespace State

/-- What a server may let a call last: neither its own time nor the deadline of the
request runs out. -/
def mayLast (plan : Plan) (call : ServerCall) (time : Nat) : Bool :=
  call.deadline.all (fun deadline => decide (time ≤ deadline)) &&
    plan.lasts.all fun lasts => decide (time ≤ call.received + lasts)

/-- Time passes, but not beyond the moment at which a server has to end its call. -/
def tick (plan : Plan) (state : State) (elapsed : Nat) : Option State :=
  if state.server.all fun call => !call.open? || mayLast plan call (state.now + elapsed) then
    some { state with now := state.now + elapsed }
  else
    none

def open_call (plan : Plan) (state : State) : Option State :=
  match state.client with
  | .idle => some { state with client := .opening state.now, up := some plan.request }
  | _ => none

def receive (state : State) : Option State :=
  state.up.map fun request =>
    { state with
      up := none
      server := some {
        received := state.now
        deadline := request.grpc_timeout.map fun timeout => state.now + timeout
        responded := false
        ending := none } }

/-- A step of the server in a call that has not ended. -/
def serve (state : State) (step : ServerCall → Option (ServerCall × List Download)) :
    Option State :=
  state.server.bind fun call =>
    if call.open? then
      (step call).map fun (call, sent) =>
        { state with server := some call, down := state.down ++ sent }
    else
      none

def respond (state : State) : Option State :=
  state.serve fun call =>
    if call.responded then none else some ({ call with responded := true }, [.head])

def send (state : State) (bytes : Bytes) : Option State :=
  state.serve fun call => if call.responded then some (call, [.message bytes]) else none

def finish (state : State) (grpc_status : Int) (message : String) : Option State :=
  state.serve fun call =>
    some ({ call with ending := some .served }, [.trailers grpc_status message])

def expire (state : State) : Option State :=
  state.serve fun call =>
    if call.deadline.any fun deadline => decide (deadline ≤ state.now) then
      some ({ call with ending := some .expired },
        [.trailers GRPC_DEADLINE_EXCEEDED "Deadline Exceeded"])
    else
      none

/-- The time, if any, that tonic waits for the head of the response. -/
def inTime (plan : Plan) (state : State) (since : Nat) : Bool :=
  plan.request.grpc_timeout.all fun timeout => decide (state.now ≤ since + timeout)

def open_returns (plan : Plan) (state : State) : Option (State × Reply) :=
  match state.client, state.down with
  | .opening since, .head :: down =>
      if state.inTime plan since then
        some ({ state with client := .opened (.opened plan.entry), down := down },
          .opened GRPC_CALL_OK 0)
      else
        none
  | .opening _, .trailers grpc_status _ :: down =>
      some ({ state with client := .failed GRPC_CALL_STATUS_ERR grpc_status, down := down },
        .opened GRPC_CALL_STATUS_ERR grpc_status)
  | _, _ => none

def open_expires (plan : Plan) (state : State) (grpc_status : Int) : Option (State × Reply) :=
  match state.client with
  | .opening since =>
      if plan.request.grpc_timeout.any fun timeout => decide (since + timeout ≤ state.now) then
        some ({ state with client := .failed GRPC_CALL_STATUS_ERR grpc_status },
          .opened GRPC_CALL_STATUS_ERR grpc_status)
      else
        none
  | _ => none

def deliver (state : State) : Option State :=
  match state.client, state.down with
  | .opened call, download :: down =>
      download.incoming?.bind fun incoming => (call.arrive incoming).map fun call =>
        { state with client := .opened call, down := down }
  | _, _ => none

/-- What the host and the pump do, except that nothing arrives but what the server has
sent. -/
def client_stream (state : State) (action : Grpc.Action) : Option (State × Reply) :=
  match state.client, action with
  | _, .arrive _ => none
  | .opened (.client_stream call), action =>
      (clientStep call action).map fun (call, reply) =>
        ({ state with client := .opened (.client_stream call) }, .call reply)
  | _, _ => none

def bidi (state : State) (action : Bidi.CallAction) : Option (State × Reply) :=
  match state.client, action with
  | _, .arrive _ => none
  | .opened (.bidi call), action =>
      (Bidi.bidiCallStep call action).map fun (call, reply) =>
        ({ state with client := .opened (.bidi call) }, .call reply)
  | _, _ => none

end State

/-- A step that shows nothing to the host. -/
def silently (next : Option State) : Option (State × Reply) :=
  next.map fun state => (state, .silent)

def openStep (plan : Plan) : PartialStep State Action Reply
  | state, .tick elapsed => silently (state.tick plan elapsed)
  | state, .open_call => silently (state.open_call plan)
  | state, .receive => silently state.receive
  | state, .respond => silently state.respond
  | state, .send bytes => silently (state.send bytes)
  | state, .finish grpc_status message => silently (state.finish grpc_status message)
  | state, .expire => silently state.expire
  | state, .open_returns => state.open_returns plan
  | state, .open_expires grpc_status => state.open_expires plan grpc_status
  | state, .deliver => silently state.deliver
  | state, .client_stream action => state.client_stream action
  | state, .bidi action => state.bidi action

theorem silently_eq_some {after : Option State} (taken : silently after = some (next, reply)) :
    after = some next := by
  rcases Option.map_eq_some_iff.mp taken with ⟨state, known, equal⟩
  cases equal
  exact known

/-- What happens inside the client. -/
def Action.inClient : Action → Bool
  | .open_returns | .open_expires _ | .deliver | .client_stream _ | .bidi _ => true
  | _ => false

theorem openStep_client (taken : openStep plan state action = some (next, reply))
    (inside : action.inClient = true) :
    next.now = state.now ∧ next.up = state.up ∧ next.server = state.server := by
  cases action with
  | tick | open_call | receive | respond | send | finish | expire => cases inside
  | open_returns =>
      simp only [openStep, State.open_returns] at taken
      split at taken
      · split at taken <;> cases taken
        exact ⟨rfl, rfl, rfl⟩
      · cases taken
        exact ⟨rfl, rfl, rfl⟩
      · cases taken
  | open_expires grpc_status =>
      simp only [openStep, State.open_expires] at taken
      split at taken
      · split at taken <;> cases taken
        exact ⟨rfl, rfl, rfl⟩
      · cases taken
  | deliver =>
      have delivered := silently_eq_some taken
      unfold State.deliver at delivered
      split at delivered
      · rcases Option.bind_eq_some_iff.mp delivered with ⟨incoming, _, rest⟩
        rcases Option.map_eq_some_iff.mp rest with ⟨call, _, rfl⟩
        exact ⟨rfl, rfl, rfl⟩
      · cases delivered
  | client_stream action =>
      simp only [openStep, State.client_stream] at taken
      split at taken
      · cases taken
      · rcases Option.map_eq_some_iff.mp taken with ⟨⟨call, answer⟩, _, equal⟩
        cases equal
        exact ⟨rfl, rfl, rfl⟩
      · cases taken
  | bidi action =>
      simp only [openStep, State.bidi] at taken
      split at taken
      · cases taken
      · rcases Option.map_eq_some_iff.mp taken with ⟨⟨call, answer⟩, _, equal⟩
        cases equal
        exact ⟨rfl, rfl, rfl⟩
      · cases taken

/-! ## How long the server lets a call last -/

/-- The server has received the request that was opened with, and keeps to its own time
and to the deadline. -/
structure Timely (plan : Plan) (state : State) : Prop where
  sent : ∀ request, state.up = some request → request = plan.request
  deadline : ∀ call, state.server = some call →
    call.deadline = plan.request.grpc_timeout.map fun timeout => call.received + timeout
  lasting : ∀ call, state.server = some call → call.ending = none →
    State.mayLast plan call state.now = true
  /-- a call that was ended for its deadline had lasted until then -/
  expired : ∀ call, state.server = some call → call.ending = some .expired →
    ∃ deadline time, call.deadline = some deadline ∧ deadline ≤ time ∧
      State.mayLast plan call time = true

namespace Timely

theorem start (plan : Plan) : Timely plan .start where
  sent request known := by cases known
  deadline call known := by cases known
  lasting call known := by cases known
  expired call known := by cases known

/-- A step that leaves the clock, the request and the server alone. -/
theorem of_same (timely : Timely plan state) (now : next.now = state.now)
    (up : next.up = state.up) (server : next.server = state.server) : Timely plan next where
  sent request known := timely.sent request (up ▸ known)
  deadline call known := timely.deadline call (server ▸ known)
  lasting call known ending := by
    rw [now]
    exact timely.lasting call (server ▸ known) ending
  expired call known ended := timely.expired call (server ▸ known) ended

/-- A step of the server keeps the times that the call came with, and ends it for its
deadline only when that has passed. -/
theorem of_serve {step : ServerCall → Option (ServerCall × List Download)}
    (timely : Timely plan state) (taken : state.serve step = some next)
    (keeps : ∀ call after sent, call.ending = none → step call = some (after, sent) →
      after.received = call.received ∧ after.deadline = call.deadline ∧
        (after.ending = some .expired →
          ∃ deadline, call.deadline = some deadline ∧ deadline ≤ state.now)) :
    Timely plan next := by
  rcases Option.bind_eq_some_iff.mp taken with ⟨call, known, rest⟩
  split at rest
  · rename_i isOpen
    rcases Option.map_eq_some_iff.mp rest with ⟨⟨after, sent⟩, stepped, rfl⟩
    have unended : call.ending = none := Option.isNone_iff_eq_none.mp isOpen
    rcases keeps call after sent unended stepped with ⟨received, deadline, due⟩
    have lasting := timely.lasting call known unended
    have lastingAfter : State.mayLast plan after state.now = true := by
      simpa only [State.mayLast, received, deadline] using lasting
    refine ⟨timely.sent, fun other found => ?_, fun other found _ => ?_, fun other found ended => ?_⟩
    · cases found
      rw [deadline, received]
      exact timely.deadline call known
    · cases found
      exact lastingAfter
    · cases found
      rcases due ended with ⟨time, isDeadline, passed⟩
      exact ⟨time, state.now, deadline.trans isDeadline, passed, lastingAfter⟩
  · cases rest

theorem tick (timely : Timely plan state) (ticked : state.tick plan elapsed = some next) :
    Timely plan next := by
  unfold State.tick at ticked
  split at ticked
  · rename_i allowed
    cases ticked
    refine ⟨timely.sent, timely.deadline, fun call known ending => ?_, timely.expired⟩
    have known : state.server = some call := known
    rw [known] at allowed
    simpa [ServerCall.open?, ending] using allowed
  · cases ticked

theorem open_call (timely : Timely plan state) (opened : state.open_call plan = some next) :
    Timely plan next := by
  unfold State.open_call at opened
  split at opened
  · cases opened
    refine ⟨fun request known => ?_, timely.deadline, timely.lasting, timely.expired⟩
    cases known
    rfl
  · cases opened

/-- A call starts with all its time before it. -/
theorem receive (timely : Timely plan state) (received : state.receive = some next) :
    Timely plan next := by
  rcases Option.map_eq_some_iff.mp received with ⟨request, known, rfl⟩
  cases timely.sent request known
  refine ⟨fun _ known => ?_, fun call found => ?_, fun call found _ => ?_,
    fun call found ended => ?_⟩
  · cases known
  · cases found
    rfl
  · cases found
    cases plan.request.grpc_timeout <;> cases lasts : plan.lasts <;>
      simp [State.mayLast, lasts]
  · cases found
    cases ended

theorem respond (timely : Timely plan state) (responded : state.respond = some next) :
    Timely plan next := by
  apply timely.of_serve responded
  intro call after sent unended stepped
  split at stepped <;> cases stepped
  refine ⟨rfl, rfl, fun ended => ?_⟩
  cases unended.symm.trans ended

theorem send (timely : Timely plan state) (sent : state.send bytes = some next) :
    Timely plan next := by
  apply timely.of_serve sent
  intro call after sent unended stepped
  split at stepped <;> cases stepped
  refine ⟨rfl, rfl, fun ended => ?_⟩
  cases unended.symm.trans ended

theorem finish (timely : Timely plan state)
    (finished : state.finish grpc_status message = some next) : Timely plan next := by
  apply timely.of_serve finished
  intro call after sent _ stepped
  cases stepped
  refine ⟨rfl, rfl, fun expired => ?_⟩
  cases expired

theorem expire (timely : Timely plan state) (expired : state.expire = some next) :
    Timely plan next := by
  apply timely.of_serve expired
  intro call after sent _ stepped
  split at stepped
  · rename_i due
    cases stepped
    refine ⟨rfl, rfl, fun _ => ?_⟩
    rcases Option.any_eq_true _ _ |>.mp due with ⟨deadline, isDeadline, passed⟩
    exact ⟨deadline, isDeadline, of_decide_eq_true passed⟩
  · cases stepped

theorem step (timely : Timely plan state) (taken : openStep plan state action = some (next, reply)) :
    Timely plan next := by
  cases action with
  | tick elapsed => exact timely.tick (silently_eq_some taken)
  | open_call => exact timely.open_call (silently_eq_some taken)
  | receive => exact timely.receive (silently_eq_some taken)
  | respond => exact timely.respond (silently_eq_some taken)
  | send bytes => exact timely.send (silently_eq_some taken)
  | finish grpc_status message => exact timely.finish (silently_eq_some taken)
  | expire => exact timely.expire (silently_eq_some taken)
  | _ =>
      rcases openStep_client taken rfl with ⟨now, up, server⟩
      exact timely.of_same now up server

end Timely

theorem timely_of_reachable (reachable : Reachable (openStep plan) .start state) :
    Timely plan state :=
  reachable.invariant (Timely plan) (.start plan) fun timely taken => timely.step taken

/-- The timeout that the host meant for the opening alone is the longest that any call
can be open on the server. -/
theorem lifetime_bounded (positive : 0 < plan.timeout_ms)
    (reachable : Reachable (openStep plan) .start state) (known : state.server = some call)
    (isOpen : call.ending = none) : state.now ≤ call.received + plan.timeout_ms := by
  have timely := timely_of_reachable reachable
  have lasting := timely.lasting call known isOpen
  rw [State.mayLast, timely.deadline call known] at lasting
  simp only [Plan.request, positive, if_true, Option.map_some, Option.all_some, Bool.and_eq_true,
    decide_eq_true_eq] at lasting
  exact lasting.1

/-! ## Whether the timeout ends a stream -/

/-- The host has its stream, and the server has ended the call because the time that
the call was opened with has passed. -/
def State.TimedOut (state : State) : Prop :=
  (∃ call, state.client = .opened call) ∧
    ∃ call, state.server = some call ∧ call.ending = some .expired

/-- A server that is faster than the deadline never ends a call for it. -/
theorem not_timedOut (positive : 0 < plan.timeout_ms) (lasts : plan.lasts = some time)
    (faster : time < plan.timeout_ms) (reachable : Reachable (openStep plan) .start state) :
    ¬ state.TimedOut := by
  intro timedOut
  rcases timedOut with ⟨_, call, known, ended⟩
  have timely := timely_of_reachable reachable
  rcases timely.expired call known ended with ⟨deadline, reached, isDeadline, passed, lasting⟩
  have timeout := timely.deadline call known
  rw [isDeadline] at timeout
  simp only [Plan.request, positive, if_true, Option.map_some, Option.some.injEq] at timeout
  simp only [State.mayLast, lasts, Option.all_some, Bool.and_eq_true, decide_eq_true_eq] at lasting
  have bound := lasting.2
  omega

/-- The stream has been opened without any delay. -/
def State.openedAtOnce (plan : Plan) : State where
  now := 0
  client := .opened (.opened plan.entry)
  up := none
  server := some {
    received := 0
    deadline := some plan.timeout_ms
    responded := true
    ending := none }
  down := []

theorem reachable_openedAtOnce (positive : 0 < plan.timeout_ms) :
    Reachable (openStep plan) .start (.openedAtOnce plan) := by
  have opens : replay (openStep plan) .start [.open_call, .receive, .respond, .open_returns] =
      some ([(.open_call, .silent), (.receive, .silent), (.respond, .silent),
        (.open_returns, .opened GRPC_CALL_OK 0)], .openedAtOnce plan) := by
    simp [replay, openStep, silently, State.start, State.open_call, State.receive, State.respond,
      State.serve, ServerCall.open?, State.open_returns, State.inTime, Plan.request, positive,
      State.openedAtOnce]
  exact ⟨_, run_of_replay opens⟩

/-- Nothing happens until the deadline. -/
theorem exists_timedOut (positive : 0 < plan.timeout_ms)
    (slower : plan.lasts.all fun time => decide (plan.timeout_ms ≤ time)) :
    ∃ state, Reachable (openStep plan) .start state ∧ state.TimedOut := by
  have waits : openStep plan (.openedAtOnce plan) (.tick plan.timeout_ms) =
      some ({ State.openedAtOnce plan with now := plan.timeout_ms }, .silent) := by
    have lasting : State.mayLast plan
        { received := 0, deadline := some plan.timeout_ms, responded := true, ending := none }
        plan.timeout_ms = true := by
      simpa [State.mayLast] using slower
    simp [openStep, silently, State.tick, State.openedAtOnce, lasting]
  have expires : ∃ next,
      openStep plan { State.openedAtOnce plan with now := plan.timeout_ms } .expire =
        some (next, .silent) ∧ next.TimedOut := by
    simp [openStep, silently, State.expire, State.serve, ServerCall.open?, State.openedAtOnce,
      State.TimedOut]
  rcases expires with ⟨next, taken, timedOut⟩
  exact ⟨next, ((reachable_openedAtOnce positive).next waits).next taken, timedOut⟩

/-- However a call is opened, its timeout leaves the open stream alone in every run
exactly if the server would by itself be done with the call before that time. -/
theorem open_timeout_spares_stream_iff (positive : 0 < plan.timeout_ms) :
    (∀ state, Reachable (openStep plan) .start state → ¬ state.TimedOut) ↔
      ∃ time, plan.lasts = some time ∧ time < plan.timeout_ms := by
  constructor
  · intro spares
    cases lasts : plan.lasts with
    | none =>
        rcases exists_timedOut positive (by rw [lasts]; rfl) with ⟨state, reachable, timedOut⟩
        exact absurd timedOut (spares state reachable)
    | some time =>
        refine ⟨time, rfl, Nat.lt_of_not_le fun slower => ?_⟩
        have known : plan.lasts.all (fun time => decide (plan.timeout_ms ≤ time)) = true := by
          rw [lasts]
          exact decide_eq_true slower
        rcases exists_timedOut positive known with ⟨state, reachable, timedOut⟩
        exact spares state reachable timedOut
  · intro faster state reachable
    rcases faster with ⟨time, lasts, sooner⟩
    exact not_timedOut positive lasts sooner reachable

/-- A server that answers within its time. -/
theorem open_timeout_spares_short_stream :
    0 < 5000 ∧ ∀ state,
      Reachable (openStep ⟨.client_stream_open, 5000, none, some 100⟩) .start state →
        ¬ state.TimedOut :=
  ⟨by decide, (open_timeout_spares_stream_iff (by decide)).mpr ⟨100, rfl, by decide⟩⟩

/-- A feed without an end, opened at once with a timeout of five seconds: five seconds
later a read fails. -/
theorem feed_ends_at_open_timeout : ∃ trace state s after,
    Run (openStep ⟨.client_stream_open, 5000, none, none⟩) .start trace state ∧ state.TimedOut ∧
      state.now = 5000 ∧ state.client = .opened (.client_stream ⟨some s, .unspawned⟩) ∧
      zpr_grpc_client_stream_read s .valid =
        some (after, { rc := ZPR_ERR, out := some [], last_error := some "Deadline Exceeded" }) := by
  have replayed : ∃ trace state s after,
      replay (openStep ⟨.client_stream_open, 5000, none, none⟩) .start
        [.open_call, .receive, .respond, .open_returns, .tick 5000, .expire, .deliver] =
          some (trace, state) ∧
      state.client = .opened (.client_stream ⟨some s, .unspawned⟩) ∧ state.now = 5000 ∧
      (∃ call, state.server = some call ∧ call.ending = some .expired) ∧
      zpr_grpc_client_stream_read s .valid =
        some (after, { rc := ZPR_ERR, out := some [], last_error := some "Deadline Exceeded" }) :=
    ⟨_, _, _, _, rfl, rfl, rfl, ⟨_, rfl, rfl⟩, rfl⟩
  rcases replayed with ⟨trace, state, s, after, replayed, client, now, expired, read⟩
  exact ⟨trace, state, s, after, run_of_replay replayed, ⟨⟨_, client⟩, expired⟩, now, client, read⟩

end Zpr.Grpc.Timed
