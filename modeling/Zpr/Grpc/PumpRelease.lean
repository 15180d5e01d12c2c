import Zpr.Grpc.BidiCall
import Zpr.Grpc.ClientStreamStep

namespace Zpr.Grpc

open Ffi

/-! # Cancelling a buffered stream

The pump of a buffered stream owns the wire. What matters about a call is whether the
host still has its handle, and where the pump stands. -/

/-- The pump task has not returned, and the wire is in its hands. -/
def Pump.owns : Pump → Bool
  | .receiving _ | .checking _ => true
  | .unspawned | .returned => false

/-- The pump awaits an answer that has not come in. -/
def Pump.waits : Pump → Bool
  | .receiving inner => inner.message.isNone
  | .unspawned | .checking _ | .returned => false

/-- The handle is gone, and the pump cannot do anything before the server has said
something. -/
structure ClientCall.Stranded (call : ClientCall) : Prop where
  freed : call.stream = none
  owns : call.pump.owns = true
  waits : call.runPump = none

theorem ClientCall.stranded_iff {call : ClientCall} :
    call.Stranded ↔ call.stream = none ∧ call.pump.waits = true := by
  rcases call with ⟨stream, pump⟩
  constructor
  · intro stranded
    rcases stranded with ⟨freed, owns, waits⟩
    refine ⟨freed, ?_⟩
    cases pump with
    | unspawned | returned => cases owns
    | checking inner =>
        dsimp only at freed
        subst freed
        cases waits
    | receiving inner => exact Option.isNone_iff_eq_none.mpr (Option.map_eq_none_iff.mp waits)
  · intro waiting
    rcases waiting with ⟨freed, waits⟩
    cases pump with
    | unspawned | returned | checking => cases waits
    | receiving inner =>
        exact ⟨freed, rfl, Option.map_eq_none_iff.mpr (Option.isNone_iff_eq_none.mp waits)⟩

/-- Everything that can happen to the handle and the pump, but for the end of the handle,
with the message that is pushed. -/
inductive PumpTurn : Bool → Pump → List Bytes → Bool → Pump → Prop
  | rests (held : Bool) (pump : Pump) : PumpTurn held pump [] held pump
  | arrives (held : Bool) (inner : Streaming) (incoming : Incoming) :
      PumpTurn held (.receiving inner) [] held (.receiving (inner.arrive incoming))
  | arrivesLate (held : Bool) (inner : Streaming) (incoming : Incoming) :
      PumpTurn held (.checking inner) [] held (.checking (inner.arrive incoming))
  | spawns (pump : Pump) (inner : Streaming) : PumpTurn true pump [] true (.receiving inner)
  | pushes (held : Bool) (msg : Bytes) (inner after : Streaming) :
      PumpTurn held (.receiving inner) [msg] held (.checking after)
  | ends (held : Bool) (inner : Streaming) : PumpTurn held (.receiving inner) [] held .returned
  | goesOn (inner : Streaming) : PumpTurn true (.checking inner) [] true (.receiving inner)
  | returns (inner : Streaming) : PumpTurn false (.checking inner) [] false .returned

theorem PumpTurn.held_eq {pump pump' : Pump} (turn : PumpTurn held pump pushed held' pump') :
    held' = held := by
  cases turn <;> rfl

/-- What a step does, whether or not it frees the handle. -/
inductive CallTurn (cancels : Bool) (held : Bool) (pump : Pump) :
    List Bytes → Bool → Pump → Prop
  | frees (frees : cancels = true) (wasHeld : held = true) :
      CallTurn cancels held pump [] false pump
  | turns (pushed : List Bytes) (held' : Bool) (pump' : Pump) (spares : cancels = false)
      (turn : PumpTurn held pump pushed held' pump') :
      CallTurn cancels held pump pushed held' pump'

/-- The message, if any, that a step puts into the ring. -/
def pushedOf : Reply → List Bytes
  | .pushed msg _ => [msg]
  | _ => []

namespace ClientCall

theorem onHandle_cases {call : ClientCall} {stream : Pointer} {complaint : Reply}
    {body : GrpcClientStream → Option (ClientCall × Reply)}
    (taken : call.onHandle stream complaint body = some (next, reply)) :
    (stream = .null ∧ next = call ∧ reply = complaint) ∨
      stream = .valid ∧ ∃ s, call.stream = some s ∧ body s = some (next, reply) := by
  cases stream with
  | null =>
      cases taken
      exact .inl ⟨rfl, rfl, rfl⟩
  | valid => exact .inr ⟨rfl, Option.bind_eq_some_iff.mp taken⟩

theorem withRing_held (call : ClientCall) (change : RingInner → RingInner) :
    (call.withRing change).stream.isSome = call.stream.isSome := by
  unfold withRing
  split
  · rename_i held
    rw [held]
    rfl
  · rfl

theorem arrive_turn {call : ClientCall} (taken : call.arrive incoming = some next) :
    PumpTurn call.stream.isSome call.pump [] next.stream.isSome next.pump := by
  rcases call with ⟨stream, pump⟩
  unfold arrive at taken
  dsimp only at taken
  split at taken
  · cases taken
    exact .arrives _ _ incoming
  · cases taken
    exact .arrivesLate _ _ incoming
  · split at taken <;> cases taken
    exact .rests true _
  · split at taken <;> cases taken
    exact .rests true _

theorem buffer_turn (call : ClientCall) (s : GrpcClientStream) (capacity : Nat)
    (held : call.stream = some s) :
    PumpTurn call.stream.isSome call.pump []
        (call.zpr_grpc_client_stream_buffer s capacity).1.stream.isSome
        (call.zpr_grpc_client_stream_buffer s capacity).1.pump ∧
      ∃ rc last_error, (call.zpr_grpc_client_stream_buffer s capacity).2 =
        .returned rc last_error := by
  unfold zpr_grpc_client_stream_buffer
  split
  · exact ⟨.rests _ _, _, _, rfl⟩
  · split
    · exact ⟨.rests _ _, _, _, rfl⟩
    · rw [held]
      exact ⟨.spawns _ _, _, _, rfl⟩

theorem runPump_turn {call : ClientCall} (taken : call.runPump = some (next, reply)) :
    PumpTurn call.stream.isSome call.pump (pushedOf reply) next.stream.isSome
      next.pump := by
  rcases call with ⟨stream, pump⟩
  cases pump with
  | unspawned | returned => cases taken
  | checking inner => cases stream <;> cases taken <;> [exact .returns _; exact .goesOn _]
  | receiving inner =>
      rcases Option.map_eq_some_iff.mp taken with ⟨⟨after, incoming⟩, _, equal⟩
      cases incoming with
      | message msg =>
          cases equal
          rw [withRing_held]
          exact .pushes _ _ _ _
      | finished | failed =>
          cases equal
          rw [withRing_held]
          exact .ends _ _

end ClientCall

def cancelsHandle : Action → Bool
  | .cancel .valid => true
  | _ => false

theorem clientStep_turn (taken : clientStep call action = some (next, reply)) :
    CallTurn (cancelsHandle action) call.stream.isSome call.pump (pushedOf reply)
      next.stream.isSome next.pump := by
  cases action with
  | arrive incoming =>
      rcases Option.map_eq_some_iff.mp taken with ⟨after, arrives, equal⟩
      cases equal
      exact .turns _ _ _ rfl (ClientCall.arrive_turn arrives)
  | pump => exact .turns _ _ _ rfl (ClientCall.runPump_turn taken)
  | read stream out =>
      rcases ClientCall.onHandle_cases taken with ⟨_, rfl, rfl⟩ | ⟨_, s, held, body⟩
      · exact .turns _ _ _ rfl (.rests _ _)
      · rcases Option.map_eq_some_iff.mp body with ⟨read, _, equal⟩
        cases equal
        rw [held]
        exact .turns _ _ _ rfl (.rests _ _)
  | read_into stream buffer =>
      rcases ClientCall.onHandle_cases taken with ⟨_, rfl, rfl⟩ | ⟨_, s, held, body⟩
      · exact .turns _ _ _ rfl (.rests _ _)
      · rcases Option.map_eq_some_iff.mp body with ⟨read, _, equal⟩
        cases equal
        rw [held]
        exact .turns _ _ _ rfl (.rests _ _)
  | buffer stream capacity =>
      rcases ClientCall.onHandle_cases taken with ⟨_, rfl, rfl⟩ | ⟨_, s, held, body⟩
      · exact .turns _ _ _ rfl (.rests _ _)
      · rcases call.buffer_turn s capacity held with ⟨turn, rc, last_error, answered⟩
        rw [Option.some.injEq] at body
        rw [body] at turn answered
        dsimp only at answered
        subst answered
        exact .turns _ _ _ rfl turn
  | stats stream out_depth out_dropped =>
      rcases ClientCall.onHandle_cases taken with ⟨_, rfl, rfl⟩ | ⟨_, s, held, body⟩
      · exact .turns _ _ _ rfl (.rests _ _)
      · unfold zpr_grpc_client_stream_stats at body
        split at body <;> cases body <;> exact .turns _ _ _ rfl (.rests _ _)
  | cancel stream =>
      rcases ClientCall.onHandle_cases taken with ⟨rfl, rfl, rfl⟩ | ⟨rfl, s, held, body⟩
      · exact .turns _ _ _ rfl (.rests _ _)
      · cases body
        exact .frees rfl (by rw [held]; rfl)

/-! ## The response half of a bidirectional call -/

namespace Bidi

open Bidi

def cancelsHandle : CallAction → Bool
  | .cancel .valid => true
  | _ => false

theorem BidiCall.response_held (call : BidiCall) :
    call.response.stream.isSome = call.stream.isSome := Option.isSome_map

/-- What happens to the response half happens to the call. -/
theorem BidiCall.turn_of_response {call : BidiCall} {response : ClientCall}
    (turn : PumpTurn call.response.stream.isSome call.response.pump pushed
      response.stream.isSome response.pump) :
    PumpTurn call.stream.isSome call.pump pushed (call.withResponse response).stream.isSome
      (call.withResponse response).pump := by
  have kept := turn.held_eq
  rw [BidiCall.response_held] at turn kept
  have held : (call.withResponse response).stream.isSome =
      (call.stream.isSome && response.stream.isSome) := by
    unfold BidiCall.withResponse
    cases call.stream <;> cases response.stream <;> rfl
  rw [held, kept, Bool.and_self]
  rw [kept] at turn
  exact turn

theorem BidiCall.handle_cases {call : BidiCall} {stream : Pointer} {s : Option GrpcBidiStream}
    (handed : call.handle stream = some s) :
    (stream = .null ∧ s = none) ∨ ∃ handle, stream = .valid ∧ call.stream = some handle ∧
      s = some handle := by
  cases stream with
  | null =>
      cases handed
      exact .inl ⟨rfl, rfl⟩
  | valid =>
      rcases Option.map_eq_some_iff.mp handed with ⟨handle, held, rfl⟩
      exact .inr ⟨handle, rfl, held, rfl⟩

theorem bidiCallStep_turn {call next : BidiCall}
    (taken : bidiCallStep call action = some (next, reply)) :
    CallTurn (cancelsHandle action) call.stream.isSome call.pump (pushedOf reply)
      next.stream.isSome next.pump := by
  cases action with
  | arrive incoming =>
      rcases Option.map_eq_some_iff.mp taken with ⟨response, arrives, equal⟩
      cases equal
      exact .turns _ _ _ rfl (BidiCall.turn_of_response (ClientCall.arrive_turn arrives))
  | poll_next =>
      simp only [bidiCallStep] at taken
      split at taken <;> cases taken
      exact .turns _ _ _ rfl (.rests _ _)
  | send stream data bytes =>
      rcases Option.map_eq_some_iff.mp taken with ⟨s, _, equal⟩
      cases equal
      exact .turns _ _ _ rfl (.rests _ _)
  | close_send stream =>
      rcases Option.map_eq_some_iff.mp taken with ⟨s, handed, equal⟩
      rcases BidiCall.handle_cases handed with ⟨_, rfl⟩ | ⟨handle, _, held, rfl⟩
      · cases equal
        exact .turns _ _ _ rfl (.rests _ _)
      · cases equal
        rw [held]
        exact .turns _ _ _ rfl (.rests _ _)
  | read_into stream buffer =>
      rcases Option.bind_eq_some_iff.mp taken with ⟨s, handed, read⟩
      rcases Option.map_eq_some_iff.mp read with ⟨⟨after, answer⟩, found, equal⟩
      rcases BidiCall.handle_cases handed with ⟨_, rfl⟩ | ⟨handle, _, held, rfl⟩
      · cases found
        cases equal
        exact .turns _ _ _ rfl (.rests _ _)
      · rcases Option.map_eq_some_iff.mp found with ⟨reader, _, same⟩
        cases same
        cases equal
        rw [held]
        exact .turns _ _ _ rfl (.rests _ _)
  | buffer stream capacity =>
      rcases Option.map_eq_some_iff.mp taken with ⟨s, handed, equal⟩
      rcases BidiCall.handle_cases handed with ⟨_, rfl⟩ | ⟨handle, _, held, rfl⟩
      · cases equal
        exact .turns _ _ _ rfl (.rests _ _)
      · have reads : call.response.stream = some handle.reader := by
          rw [BidiCall.response, held]
          rfl
        rcases call.response.buffer_turn handle.reader capacity reads with
          ⟨turn, rc, last_error, answered⟩
        simp only [Prod.mk.injEq] at equal
        rcases equal with ⟨rfl, rfl⟩
        rw [answered]
        exact .turns _ _ _ rfl (BidiCall.turn_of_response turn)
  | cancel stream =>
      rcases Option.map_eq_some_iff.mp taken with ⟨s, handed, equal⟩
      rcases BidiCall.handle_cases handed with ⟨rfl, rfl⟩ | ⟨handle, rfl, held, rfl⟩
      · cases equal
        exact .turns _ _ _ rfl (.rests _ _)
      · cases equal
        exact .frees rfl (by rw [held]; rfl)
  | pump =>
      rcases Option.map_eq_some_iff.mp taken with ⟨⟨response, answer⟩, pumped, equal⟩
      cases equal
      exact .turns _ _ _ rfl (BidiCall.turn_of_response (ClientCall.runPump_turn pumped))

end Bidi

/-! ## What a cancelled pump still does -/

/-- How many messages a pump may still push once the handle is gone. -/
def Pump.pushesLeft : Pump → Nat
  | .receiving _ => 1
  | .unspawned | .checking _ | .returned => 0

theorem PumpTurn.pushed_le {pump pump' : Pump} (turn : PumpTurn held pump pushed held' pump')
    (freed : held = false) :
    held' = false ∧ pushed.length + pump'.pushesLeft ≤ pump.pushesLeft := by
  cases turn with
  | rests => exact ⟨freed, Nat.le_of_eq (Nat.zero_add _)⟩
  | arrives | arrivesLate | pushes | returns => exact ⟨freed, Nat.le_refl _⟩
  | ends => exact ⟨freed, Nat.zero_le _⟩
  | spawns | goesOn => cases freed

theorem CallTurn.pushed_le {pump pump' : Pump}
    (turn : CallTurn cancels held pump pushed held' pump') (freed : held = false) :
    held' = false ∧ pushed.length + pump'.pushesLeft ≤ pump.pushesLeft := by
  cases turn with
  | frees _ wasHeld =>
      rw [freed] at wasHeld
      cases wasHeld
  | turns _ _ _ _ turn => exact turn.pushed_le freed

theorem CallTurn.freed {pump pump' : Pump}
    (turn : CallTurn cancels held pump pushed held' pump') (cancel : cancels = true) :
    held' = false := by
  cases turn with
  | frees => rfl
  | turns _ _ _ spares =>
      rw [spares] at cancel
      cases cancel

/-- No call is left stranded: with the handle gone, the pump does not wait. -/
def Released (held : Bool) (pump : Pump) : Prop := held = false → pump.waits = false

theorem Streaming.message_of_arrive (inner : Streaming) (incoming : Incoming) :
    (inner.arrive incoming).message.isNone = false := by
  rcases inner with ⟨_ | ⟨first, answers⟩, ended⟩ <;> rfl

theorem PumpTurn.released {pump pump' : Pump} (turn : PumpTurn held pump pushed held' pump')
    (released : Released held pump) : Released held' pump' := by
  cases turn with
  | rests => exact released
  | arrives held inner incoming => exact fun _ => inner.message_of_arrive incoming
  | arrivesLate | pushes | ends | returns => exact fun _ => rfl
  | spawns | goesOn => exact nofun

/-- A step keeps the pump from being stranded exactly if it does not free the handle
while the pump waits. -/
theorem CallTurn.released_iff {pump pump' : Pump}
    (turn : CallTurn cancels held pump pushed held' pump') (released : Released held pump) :
    Released held' pump' ↔ (cancels = true → pump.waits = false) := by
  cases turn with
  | frees frees => exact ⟨fun released _ => released rfl, fun spares _ => spares frees⟩
  | turns _ _ _ spares turn =>
      constructor
      · intro _ cancels
        rw [spares] at cancels
        cases cancels
      · exact fun _ => turn.released released

/-! ## Runs -/

section Runs

variable {State : Type u} {Action : Type v} {step : PartialStep State Action Reply}
  {held : State → Bool} {pump : State → Pump} {cancels : Action → Bool}

/-- Once the handle has been freed, at most one more message is pushed. -/
def PushesOnceMore (cancels : Action → Bool) (trace : List (Action × Reply)) : Prop :=
  ∀ earlier action reply later, trace = earlier ++ (action, reply) :: later →
    cancels action = true → (later.flatMap fun event => pushedOf event.2).length ≤ 1

/-- What is shared by all calls whose steps are turns of a handle and a pump. -/
def Turns (step : PartialStep State Action Reply) (held : State → Bool) (pump : State → Pump)
    (cancels : Action → Bool) : Prop :=
  ∀ {call action next reply}, step call action = some (next, reply) →
    CallTurn (cancels action) (held call) (pump call) (pushedOf reply) (held next) (pump next)

theorem Turns.pushed_le (turns : Turns step held pump cancels)
    (run : Run step cancelled trace final) (freed : held cancelled = false) :
    held final = false ∧
      (trace.flatMap fun event => pushedOf event.2).length + (pump final).pushesLeft ≤
        (pump cancelled).pushesLeft := by
  induction run with
  | start => exact ⟨freed, Nat.le_of_eq (Nat.zero_add _)⟩
  | next earlier _ taken induction =>
      rcases induction with ⟨freedBefore, bound⟩
      rcases (turns taken).pushed_le freedBefore with ⟨freedAfter, left⟩
      refine ⟨freedAfter, ?_⟩
      rw [List.flatMap_append, List.length_append, List.flatMap_singleton]
      dsimp only
      omega

theorem Turns.pushesOnceMore (turns : Turns step held pump cancels)
    (run : Run step initial trace final) : PushesOnceMore cancels trace := by
  intro earlier action reply later cut cancel
  rcases run.split cut with ⟨before, after, _, _, taken, rest⟩
  rcases turns.pushed_le rest ((turns taken).freed cancel) with ⟨_, bound⟩
  have most : (pump after).pushesLeft ≤ 1 := by
    cases pump after <;> simp [Pump.pushesLeft]
  omega

theorem Turns.released_iff (turns : Turns step held pump cancels) {Good : State → Prop}
    (good : ∀ call, Good call ↔ Released (held call) (pump call)) (start : Good initial) :
    (RunWhere (fun call _ => Good call) step initial trace final ∧ Good final ∧
        PushesOnceMore cancels trace) ↔
      RunWhere (fun call action => cancels action = true → (pump call).waits = false) step initial
        trace final := by
  have always : (fun _ : State => True) initial := trivial
  have exactly : (RunWhere (fun call _ => Good call) step initial trace final ∧ Good final) ↔
      RunWhere (fun call action => cancels action = true → (pump call).waits = false) step initial
        trace final := by
    apply RunWhere.throughout_iff always (fun _ _ => trivial)
    · exact start
    · intro call action next reply _ before taken
      rw [good next]
      exact (turns taken).released_iff ((good call).mp before)
  constructor
  · exact fun holds => exactly.mp ⟨holds.1, holds.2.1⟩
  · intro run
    rcases exactly.mpr run with ⟨throughout, released⟩
    exact ⟨throughout, released, turns.pushesOnceMore (run.mono fun _ _ _ => trivial)⟩

end Runs

theorem ClientCall.released_iff (call : ClientCall) :
    ¬ call.Stranded ↔ Released call.stream.isSome call.pump := by
  rw [ClientCall.stranded_iff, Released, Option.isSome_eq_false_iff, Option.isNone_iff_eq_none,
    not_and, Bool.not_eq_true]

/-- No handle of a server-streaming or of a bidirectional call is freed while the pump
waits for a message that has not come in. -/
def CancelsBusyPump (call : ClientCall) (action : Action) : Prop :=
  cancelsHandle action = true → call.pump.waits = false

def Bidi.CancelsBusyPump (call : BidiCall) (action : CallAction) : Prop :=
  cancelsHandle action = true → call.pump.waits = false

/-- In a run of a streaming call, no pump is stranded on the wire, and none pushes more
than one message after the handle has gone, exactly if no handle is freed while its pump
waits. -/
theorem cancel_releases_wire_iff (trace : List (Action × Reply)) (call : ClientCall)
    (rx : Channel Bytes) (bidiTrace : List (Bidi.CallAction × Reply)) (bidi : Bidi.BidiCall) :
    ((RunWhere (fun call _ => ¬ call.Stranded) clientStep .opened trace call ∧ ¬ call.Stranded ∧
        PushesOnceMore cancelsHandle trace) ↔
      RunWhere CancelsBusyPump clientStep .opened trace call) ∧
    ((RunWhere (fun call _ => ¬ call.response.Stranded) Bidi.bidiCallStep (.opened rx) bidiTrace
          bidi ∧ ¬ bidi.response.Stranded ∧ PushesOnceMore Bidi.cancelsHandle bidiTrace) ↔
      RunWhere Bidi.CancelsBusyPump Bidi.bidiCallStep (.opened rx) bidiTrace bidi) := by
  constructor
  · have turns : Turns clientStep (fun call => call.stream.isSome) ClientCall.pump cancelsHandle :=
      clientStep_turn
    apply turns.released_iff ClientCall.released_iff
    rw [ClientCall.released_iff]
    exact nofun
  · have turns : Turns Bidi.bidiCallStep (fun call => call.stream.isSome) Bidi.BidiCall.pump
        Bidi.cancelsHandle := Bidi.bidiCallStep_turn
    have good : ∀ call : Bidi.BidiCall,
        ¬ call.response.Stranded ↔ Released call.stream.isSome call.pump := by
      intro call
      rw [ClientCall.released_iff, Bidi.BidiCall.response_held]
      rfl
    apply turns.released_iff good
    rw [good]
    exact nofun

/-- The stream is idle when it is cancelled, and nothing but the server can end the pump. -/
theorem idle_stream_stranded : ∃ trace call,
    Run clientStep .opened trace call ∧
      trace.map Prod.fst = [.buffer .valid 16, .arrive (.message [7]), .pump, .pump,
        .cancel .valid] ∧
      call.pump = .receiving .opened ∧ call.Stranded := by
  have replayed : ∃ trace call, replay clientStep .opened
        [.buffer .valid 16, .arrive (.message [7]), .pump, .pump, .cancel .valid] =
          some (trace, call) ∧ call.stream = none ∧ call.pump = .receiving .opened :=
    ⟨_, _, rfl, rfl, rfl⟩
  rcases replayed with ⟨trace, call, replayed, freed, waits⟩
  exact ⟨trace, call, run_of_replay replayed, actions_of_replay replayed, waits,
    ClientCall.stranded_iff.mpr ⟨freed, by rw [waits]; rfl⟩⟩

end Zpr.Grpc
