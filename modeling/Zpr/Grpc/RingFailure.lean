import Zpr.Foundation.History
import Zpr.Grpc.PumpRelease

namespace Zpr.Grpc

open Ffi

/-! # How a buffered stream ends

The pump leaves behind in the ring how the stream has ended. A read gives out what is in
front of that first. -/

/-- A call that reads from the handle. -/
inductive ReadsHandle : Action → Prop
  | read (out : Pointer) : ReadsHandle (.read .valid out)
  | read_into (buffer : Buffer) : ReadsHandle (.read_into .valid buffer)

/-- The read hands out `m`, or keeps it because it does not fit. -/
inductive Gives (m : Bytes) : Action × Reply → Prop
  | read (out : Pointer) :
      Gives m (.read .valid out, .read { rc := 1, out := out.store m, last_error := none })
  | read_into (buffer : Buffer) (copied : (copy_into m buffer).rc = ZPR_OK) :
      Gives m (.read_into .valid buffer, .filled { copy_into m buffer with rc := 1 })
  | keeps (buffer : Buffer) (failed : (copy_into m buffer).rc ≠ ZPR_OK) :
      Gives m (.read_into .valid buffer, .filled (copy_into m buffer))

/-- The read hands out nothing, and says how the stream stands. -/
inductive Reports (rc : Int) (last_error : Option String) : Action × Reply → Prop
  | read (out : Pointer) :
      Reports rc last_error
        (.read .valid out, .read { rc := rc, out := out.store [], last_error := last_error })
  | read_into (buffer : Buffer) :
      Reports rc last_error
        (.read_into .valid buffer,
          .filled { rc := rc, out_len := buffer.out_len.store 0, written := []
                    last_error := last_error })

/-- What a read returns once there is no message: the error of the ring, or 0. -/
def endCode : Option String → Int
  | some _ => ZPR_ERR
  | none => 0

/-- The read has returned 1. -/
def Reply.handsOver : Reply → Bool
  | .read reply => reply.rc = 1
  | .filled reply => reply.rc = 1
  | .silent | .returned .. | .stats .. | .pushed .. => false

/-- How many reads have returned 1. -/
def handed (trace : List (Action × Reply)) : Nat :=
  trace.countP fun event => event.2.handsOver

@[simp] theorem handed_next (trace : List (Action × Reply)) (event : Action × Reply) :
    handed (trace ++ [event]) = handed trace + if event.2.handsOver then 1 else 0 := by
  rw [handed, List.countP_append, List.countP_singleton]
  rfl

/-! ## One step -/

/-- What a read of a buffered stream does. -/
structure RingRead (g : RingInner) (pending : Option Bytes) (pump : Pump)
    (event : Action × Reply) (next : ClientCall) : Prop where
  after : ∃ q held, next = ⟨some ⟨.Ring { g with q := q }, held⟩, pump⟩ ∧
    held.toList ++ q =
      (pending.toList ++ g.q).drop (if event.2.handsOver then 1 else 0)
  gives : ∀ m, (pending.toList ++ g.q).head? = some m → Gives m event
  reports : pending.toList ++ g.q = [] → Reports (endCode g.err) g.err event ∧
    event.2.handsOver = false

theorem next_ring_message {g : RingInner} {pending : Option Bytes}
    (waiting : pending.toList ++ g.q = m :: rest) :
    (⟨.Ring g, pending⟩ : GrpcClientStream).next =
      some (⟨.Ring { g with q := rest }, none⟩, .message m) := by
  cases pending with
  | some bytes =>
      cases waiting
      rfl
  | none =>
      have held : g.q = m :: rest := waiting
      simp only [GrpcClientStream.next, held]

theorem next_ring_empty {g : RingInner} {pending : Option Bytes}
    (empty : pending.toList ++ g.q = []) :
    (⟨.Ring g, pending⟩ : GrpcClientStream).next =
      some (⟨.Ring g, none⟩,
        match g.err with
        | some e => .failed e
        | none => .finished) := by
  cases pending with
  | some bytes => cases empty
  | none =>
      have drained : g.q = [] := empty
      simp only [GrpcClientStream.next, drained]
      cases g.err <;> rfl

/-- A read that finds a message. -/
theorem ring_read_message {g : RingInner} {pending : Option Bytes} {pump : Pump}
    (waiting : pending.toList ++ g.q = m :: rest) (reads : ReadsHandle action)
    (taken : clientStep ⟨some ⟨.Ring g, pending⟩, pump⟩ action = some (next, reply)) :
    Gives m (action, reply) ∧
      ∃ held, next = ⟨some ⟨.Ring { g with q := rest }, held⟩, pump⟩ ∧
        held.toList ++ rest = (m :: rest).drop (if reply.handsOver then 1 else 0) := by
  cases reads with
  | read out =>
      simp only [clientStep, ClientCall.onHandle, Option.bind_some, zpr_grpc_client_stream_read,
        next_ring_message waiting, Option.map_some] at taken
      cases taken
      exact ⟨.read out, none, rfl, rfl⟩
  | read_into buffer =>
      simp only [clientStep, ClientCall.onHandle, Option.bind_some,
        zpr_grpc_client_stream_read_into, next_ring_message waiting, Option.map_some] at taken
      by_cases copied : (copy_into m buffer).rc = ZPR_OK
      · rw [if_neg (not_not.mpr copied)] at taken
        cases taken
        exact ⟨.read_into buffer copied, none, rfl, rfl⟩
      · rw [if_pos copied] at taken
        cases taken
        have notOne : (copy_into m buffer).rc ≠ 1 := copy_into_failed copied (by decide)
        refine ⟨.keeps buffer copied, some m, rfl, ?_⟩
        simp [Reply.handsOver, notOne]

/-- A read that finds none. -/
theorem ring_read_empty {g : RingInner} {pending : Option Bytes} {pump : Pump}
    (empty : pending.toList ++ g.q = []) (reads : ReadsHandle action)
    (taken : clientStep ⟨some ⟨.Ring g, pending⟩, pump⟩ action = some (next, reply)) :
    Reports (endCode g.err) g.err (action, reply) ∧ reply.handsOver = false ∧
      next = ⟨some ⟨.Ring g, none⟩, pump⟩ := by
  cases reads with
  | read out =>
      simp only [clientStep, ClientCall.onHandle, Option.bind_some, zpr_grpc_client_stream_read,
        next_ring_empty empty, Option.map_some] at taken
      cases err : g.err with
      | none =>
          rw [err] at taken
          cases taken
          exact ⟨.read out, rfl, rfl⟩
      | some e =>
          rw [err] at taken
          cases taken
          exact ⟨.read out, rfl, rfl⟩
  | read_into buffer =>
      simp only [clientStep, ClientCall.onHandle, Option.bind_some,
        zpr_grpc_client_stream_read_into, next_ring_empty empty, Option.map_some] at taken
      cases err : g.err with
      | none =>
          rw [err] at taken
          cases taken
          exact ⟨.read_into buffer, rfl, rfl⟩
      | some e =>
          rw [err] at taken
          cases taken
          exact ⟨.read_into buffer, rfl, rfl⟩

theorem ring_read {g : RingInner} {pending : Option Bytes} {pump : Pump}
    (reads : ReadsHandle action)
    (taken : clientStep ⟨some ⟨.Ring g, pending⟩, pump⟩ action = some (next, reply)) :
    RingRead g pending pump (action, reply) next := by
  cases waiting : pending.toList ++ g.q with
  | nil =>
      rcases ring_read_empty waiting reads taken with ⟨reports, none_handed, after⟩
      have drained : g.q = [] := (List.append_eq_nil_iff.mp waiting).2
      constructor
      · refine ⟨g.q, none, after, ?_⟩
        rw [waiting, List.drop_nil]
        exact drained
      · intro m found
        rw [waiting] at found
        cases found
      · exact fun _ => ⟨reports, none_handed⟩
  | cons m rest =>
      rcases ring_read_message waiting reads taken with ⟨gives, held, after, left⟩
      constructor
      · exact ⟨rest, held, after, waiting ▸ left⟩
      · intro other found
        rw [waiting] at found
        cases found
        exact gives
      · intro empty
        rw [waiting] at empty
        cases empty

/-- A step of a buffered call that is no read. -/
inductive RingTurn (call : ClientCall) : Reply → ClientCall → Prop
  | same (reply : Reply) (pump : Pump) (quiet : reply.handsOver = false)
      (idle : call.pump = .returned → pump = .returned)
      (spawned : call.pump ≠ .unspawned → pump ≠ .unspawned) :
      RingTurn call reply { call with pump := pump }
  | frees : RingTurn call .silent { call with stream := none }
  | pushes (g : RingInner) (pending : Option Bytes) (msg : Bytes) (inner : Streaming)
      (held : call.stream = some ⟨.Ring g, pending⟩) (busy : call.pump ≠ .returned) :
      RingTurn call (.pushed msg (g.push msg).2)
        ⟨some ⟨.Ring (g.push msg).1, pending⟩, .checking inner⟩
  | ends (g : RingInner) (pending : Option Bytes) (err : Option String)
      (held : call.stream = some ⟨.Ring g, pending⟩) (busy : call.pump ≠ .returned) :
      RingTurn call .silent ⟨some ⟨.Ring { g with err := err, done := true }, pending⟩, .returned⟩

/-- The stream has been buffered, and shows no error while the pump runs. -/
structure Ringed (call : ClientCall) : Prop where
  spawned : call.pump ≠ .unspawned
  ring : ∀ s, call.stream = some s → ∃ g, s.mode = .Ring g ∧
    (call.pump ≠ .returned → g.err = none)

theorem ring_turn {call : ClientCall} (ringed : Ringed call) (other : ¬ ReadsHandle action)
    (taken : clientStep call action = some (next, reply)) : RingTurn call reply next := by
  have unchanged : ∀ reply : Reply, reply.handsOver = false → RingTurn call reply call :=
    fun reply quiet => .same reply call.pump quiet id id
  cases action with
  | arrive incoming =>
      rcases Option.map_eq_some_iff.mp taken with ⟨after, arrives, equal⟩
      cases equal
      rcases call with ⟨stream, pump⟩
      cases pump with
      | receiving inner | checking inner =>
          cases arrives
          exact .same .silent _ rfl (fun past => by cases past) (by simp)
      | unspawned => exact absurd rfl ringed.spawned
      | returned =>
          simp only [ClientCall.arrive] at arrives
          split at arrives
          · rename_i inner pending
            rcases ringed.ring _ rfl with ⟨g, mode, _⟩
            cases mode
          · cases arrives
  | read stream out =>
      rcases ClientCall.onHandle_cases taken with ⟨_, rfl, rfl⟩ | ⟨rfl, _⟩
      · exact unchanged _ rfl
      · exact absurd (.read out) other
  | read_into stream buffer =>
      rcases ClientCall.onHandle_cases taken with ⟨_, rfl, rfl⟩ | ⟨rfl, _⟩
      · exact unchanged _ rfl
      · exact absurd (.read_into buffer) other
  | buffer stream capacity =>
      rcases ClientCall.onHandle_cases taken with ⟨_, rfl, rfl⟩ | ⟨rfl, s, held, body⟩
      · exact unchanged _ rfl
      · rcases ringed.ring s held with ⟨g, mode, _⟩
        simp only [ClientCall.zpr_grpc_client_stream_buffer, mode] at body
        split at body <;> cases body <;> exact unchanged _ rfl
  | stats stream out_depth out_dropped =>
      rcases ClientCall.onHandle_cases taken with ⟨_, rfl, rfl⟩ | ⟨rfl, s, held, body⟩
      · exact unchanged _ rfl
      · cases body
        rcases ringed.ring s held with ⟨g, mode, _⟩
        simp only [zpr_grpc_client_stream_stats, mode]
        exact unchanged _ rfl
  | cancel stream =>
      rcases ClientCall.onHandle_cases taken with ⟨_, rfl, rfl⟩ | ⟨rfl, s, held, body⟩
      · exact unchanged _ rfl
      · cases body
        exact .frees
  | pump =>
      rcases call with ⟨stream, pump⟩
      cases pump with
      | unspawned | returned => cases taken
      | checking inner =>
          cases stream <;> cases taken <;> exact .same .silent _ rfl (fun past => by cases past) (by simp)
      | receiving inner =>
          rcases Option.map_eq_some_iff.mp taken with ⟨⟨after, incoming⟩, _, equal⟩
          cases stream with
          | none =>
              cases incoming <;> cases equal <;>
                exact .same _ _ rfl (fun past => by cases past) (by simp)
          | some s =>
              rcases ringed.ring s rfl with ⟨g, mode, running⟩
              rcases s with ⟨_, pending⟩
              cases mode
              cases incoming with
              | message msg =>
                  cases equal
                  exact .pushes g pending msg after rfl (by simp)
              | finished =>
                  cases equal
                  exact .ends g pending g.err rfl (by simp)
              | failed message =>
                  cases equal
                  exact .ends g pending (some message) rfl (by simp)

/-! ## Runs -/

theorem RingInner.push_err (g : RingInner) (msg : Bytes) : (g.push msg).1.err = g.err := by
  rw [push]
  split <;> rfl

/-- A buffered call stays one, and a pump that has returned does not come back. -/
theorem Ringed.step {call : ClientCall} (ringed : Ringed call)
    (taken : clientStep call action = some (next, reply)) :
    Ringed next ∧ (call.pump = .returned → next.pump = .returned) := by
  by_cases reads : ReadsHandle action
  · rcases call with ⟨stream, pump⟩
    cases stream with
    | none => cases reads <;> cases taken
    | some s =>
        rcases ringed.ring s rfl with ⟨g, mode, running⟩
        rcases s with ⟨_, pending⟩
        cases mode
        rcases (ring_read reads taken).after with ⟨q, held, rfl, _⟩
        refine ⟨⟨ringed.spawned, ?_⟩, id⟩
        intro s same
        cases same
        exact ⟨_, rfl, running⟩
  · cases ring_turn ringed reads taken with
    | same reply pump quiet idle spawned =>
        refine ⟨⟨spawned ringed.spawned, ?_⟩, idle⟩
        intro s held
        rcases ringed.ring s held with ⟨g, mode, running⟩
        exact ⟨g, mode, fun busy => running fun past => busy (idle past)⟩
    | frees => exact ⟨⟨ringed.spawned, fun s same => by cases same⟩, id⟩
    | pushes g pending msg inner held busy =>
        refine ⟨⟨by simp, ?_⟩, fun past => absurd past busy⟩
        intro s same
        cases same
        rcases ringed.ring _ held with ⟨_, mode, running⟩
        cases mode
        exact ⟨_, rfl, fun _ => (g.push_err msg).trans (running busy)⟩
    | ends g pending err held busy =>
        refine ⟨⟨by simp, ?_⟩, fun _ => rfl⟩
        intro s same
        cases same
        exact ⟨_, rfl, fun running => absurd rfl running⟩

/-- The pump has returned. The ring says `err`, and of the messages that were in front of that
the reads have handed out the first. -/
structure After (err : Option String) (waiting : List Bytes) (trace : List (Action × Reply))
    (call : ClientCall) : Prop where
  returned : call.pump = .returned
  ring : ∀ s, call.stream = some s → ∃ g, s.mode = .Ring g ∧ g.err = err ∧
    s.pending.toList ++ g.q = waiting.drop (handed trace)

theorem After.ringed (past : After err waiting trace call) : Ringed call where
  spawned := by
    rw [past.returned]
    simp
  ring := by
    intro s held
    rcases past.ring s held with ⟨g, mode, _⟩
    exact ⟨g, mode, fun running => absurd past.returned running⟩

/-- While messages are left, a read gives out the next of them; then it says how the stream
has ended. -/
def EndsLast (err : Option String) (waiting : List Bytes) (before : List (Action × Reply))
    (event : Action × Reply) : Prop :=
  ReadsHandle event.1 →
    match waiting[handed before]? with
    | some m => Gives m event
    | none => Reports (endCode err) err event

theorem After.step (past : After err waiting trace call)
    (taken : clientStep call action = some (next, reply)) :
    EndsLast err waiting trace (action, reply) ∧
      After err waiting (trace ++ [(action, reply)]) next := by
  by_cases reads : ReadsHandle action
  · rcases call with ⟨stream, pump⟩
    cases stream with
    | none => cases reads <;> cases taken
    | some s =>
        rcases past.ring s rfl with ⟨g, mode, error, left⟩
        rcases s with ⟨_, pending⟩
        cases mode
        have found := ring_read reads taken
        rcases found.after with ⟨q, held, rfl, rest⟩
        have front : (pending.toList ++ g.q).head? = waiting[handed trace]? := by
          rw [left, List.head?_drop]
        constructor
        · intro _
          cases next : waiting[handed trace]? with
          | some m => exact found.gives m (front.trans next)
          | none =>
              have empty := List.head?_eq_none_iff.mp (front.trans next)
              rw [← error]
              exact (found.reports empty).1
        · refine ⟨past.returned, ?_⟩
          intro s same
          cases same
          refine ⟨_, rfl, error, ?_⟩
          rw [handed_next, ← List.drop_drop, ← left]
          exact rest
  · refine ⟨fun here => absurd here reads, ?_⟩
    cases ring_turn past.ringed reads taken with
    | same reply pump quiet idle spawned =>
        refine ⟨idle past.returned, ?_⟩
        intro s held
        rcases past.ring s held with ⟨g, mode, error, left⟩
        refine ⟨g, mode, error, ?_⟩
        rw [handed_next, left]
        simp [quiet]
    | frees => exact ⟨past.returned, fun s same => by cases same⟩
    | pushes g pending msg inner held busy => exact absurd past.returned busy
    | ends g pending err held busy => exact absurd past.returned busy

/-- Of a run that begins when the pump has returned. -/
theorem After.everywhere (past : After err waiting [] call)
    (run : Run clientStep call trace final) : Everywhere (EndsLast err waiting) trace := by
  have both : After err waiting trace final ∧ Everywhere (EndsLast err waiting) trace := by
    apply run.invariant fun trace final =>
      After err waiting trace final ∧ Everywhere (EndsLast err waiting) trace
    · exact ⟨past, everywhere_nil⟩
    · intro trace state action next reply _ before _ taken
      rcases before.1.step taken with ⟨here, after⟩
      exact ⟨after, everywhere_next.mpr ⟨before.2, here⟩⟩
  exact both.2

/-- No read says that the stream has failed. -/
def NeverFails (trace : List (Action × Reply)) : Prop :=
  ∀ event ∈ trace, ReadsHandle event.1 → (∃ m, Gives m event) ∨ Reports 0 none event

theorem neverFails_of_everywhere (holds : Everywhere (EndsLast none waiting) trace) :
    NeverFails trace := by
  intro event member reads
  rcases List.mem_iff_append.mp member with ⟨before, after, cut⟩
  have here := holds before event after cut reads
  split at here
  · rename_i m _
    exact .inl ⟨m, here⟩
  · exact .inr here

theorem neverFails_of_running {switched : ClientCall} (ringed : Ringed switched)
    (run : Run clientStep switched trace call) (running : call.pump ≠ .returned) :
    NeverFails trace := by
  have both : Ringed call ∧ (call.pump ≠ .returned → NeverFails trace) := by
    apply run.invariant fun trace call =>
      Ringed call ∧ (call.pump ≠ .returned → NeverFails trace)
    · exact ⟨ringed, fun _ event member => absurd member List.not_mem_nil⟩
    · intro trace call action next reply _ before _ taken
      rcases before with ⟨ringed, earlier⟩
      rcases ringed.step taken with ⟨after, past⟩
      refine ⟨after, fun running event member reads => ?_⟩
      have still : call.pump ≠ .returned := fun returned => running (past returned)
      rcases List.mem_append.mp member with old | last
      · exact earlier still event old reads
      · cases List.mem_singleton.mp last
        rcases call with ⟨stream, pump⟩
        cases stream with
        | none => cases reads <;> cases taken
        | some s =>
            rcases ringed.ring s rfl with ⟨g, mode, clean⟩
            rcases s with ⟨_, pending⟩
            cases mode
            have found := ring_read reads taken
            cases waiting : pending.toList ++ g.q with
            | cons m rest => exact .inl ⟨m, found.gives m (by rw [waiting]; rfl)⟩
            | nil =>
                have reports := (found.reports waiting).1
                rw [clean still] at reports
                exact .inr reports
  exact both.2 running

theorem ringed_of_buffered {call : ClientCall}
    (buffered : clientStep call (.buffer .valid capacity) =
      some (switched, .returned ZPR_OK none)) : Ringed switched := by
  cases handle : call.stream with
  | none => simp [clientStep, ClientCall.onHandle, handle] at buffered
  | some s =>
      simp only [clientStep, ClientCall.onHandle, handle, Option.bind_some,
        ClientCall.zpr_grpc_client_stream_buffer] at buffered
      split at buffered
      · cases buffered
      · split at buffered <;> cases buffered
        refine ⟨by simp, ?_⟩
        intro s same
        cases same
        exact ⟨_, rfl, fun _ => rfl⟩

/-- The turn in which the pump meets the end of the stream. -/
theorem pump_ends {call : ClientCall} (ringed : Ringed call) {incoming : Incoming}
    {inner after : Streaming} (failure : Option String)
    (last : (incoming = .finished ∧ failure = none) ∨
      ∃ e, incoming = .failed e ∧ failure = some e)
    (receiving : call.pump = .receiving inner)
    (answered : inner.message = some (after, incoming)) :
    ∃ ended, clientStep call .pump = some (ended, .silent) ∧
      After failure (match call.stream with
        | some s => s.undelivered
        | none => []) [] ended := by
  rcases call with ⟨stream, pump⟩
  cases receiving
  have turn : clientStep ⟨stream, .receiving inner⟩ .pump =
      some (ClientCall.receive ⟨stream, .receiving inner⟩ after incoming) :=
    Option.map_eq_some_iff.mpr ⟨_, answered, rfl⟩
  cases stream with
  | none =>
      rcases last with ⟨rfl, rfl⟩ | ⟨e, rfl, rfl⟩
      · exact ⟨_, turn, rfl, fun s same => by cases same⟩
      · exact ⟨_, turn, rfl, fun s same => by cases same⟩
  | some s =>
      rcases ringed.ring s rfl with ⟨g, mode, running⟩
      rcases s with ⟨_, pending⟩
      cases mode
      have clean : g.err = none := running (by simp)
      rcases last with ⟨rfl, rfl⟩ | ⟨e, rfl, rfl⟩
      · refine ⟨_, turn, rfl, ?_⟩
        intro s same
        cases same
        exact ⟨_, rfl, clean, rfl⟩
      · refine ⟨_, turn, rfl, ?_⟩
        intro s same
        cases same
        exact ⟨_, rfl, rfl, rfl⟩

/-- In a run of a buffered stream, what is in the ring when the pump meets an error is read
before the error, and the error ever after; a pump that meets the end makes no read fail. -/
theorem ring_failure_read_last {call switched final : ClientCall} {capacity : Nat}
    {trace : List (Action × Reply)}
    (buffered : clientStep call (.buffer .valid capacity) = some (switched, .returned ZPR_OK none))
    (run : Run clientStep switched trace final) :
    (∀ s e inner after, final.stream = some s → final.pump = .receiving inner →
      inner.message = some (after, .failed e) →
      ∃ failed, clientStep final .pump = some (failed, .silent) ∧
        ∀ later last, Run clientStep failed later last →
          Everywhere (EndsLast (some e) s.undelivered) later) ∧
    ∀ inner after, final.pump = .receiving inner → inner.message = some (after, .finished) →
      ∃ ended, clientStep final .pump = some (ended, .silent) ∧
        ∀ later last, Run clientStep ended later last → NeverFails trace ∧ NeverFails later := by
  have ringed : Ringed final := run.stateInvariant Ringed (ringed_of_buffered buffered)
    fun before _ taken => (before.step taken).1
  constructor
  · intro s e inner after held receiving answered
    rcases pump_ends ringed (some e) (.inr ⟨e, rfl, rfl⟩) receiving answered with
      ⟨failed, ends, past⟩
    rw [held] at past
    exact ⟨failed, ends, fun later last run => past.everywhere run⟩
  · intro inner after receiving answered
    rcases pump_ends ringed none (.inl ⟨rfl, rfl⟩) receiving answered with ⟨ended, ends, past⟩
    refine ⟨ended, ends, fun later last runLater => ?_⟩
    constructor
    · apply neverFails_of_running (ringed_of_buffered buffered) run
      rw [receiving]
      simp
    · exact neverFails_of_everywhere (past.everywhere runLater)

/-- One message, and then an error. -/
theorem ring_failure_read_last_for_reset : ∃ switched trace final failed later last,
    clientStep .opened (.buffer .valid 2) = some (switched, .returned ZPR_OK none) ∧
      Run clientStep switched trace final ∧ clientStep final .pump = some (failed, .silent) ∧
      Run clientStep failed later last ∧
      later = [(.read .valid .valid, .read { rc := 1, out := some [7], last_error := none }),
        (.read .valid .valid, .read { rc := ZPR_ERR, out := some [], last_error := some "reset" })] ∧
      Everywhere (EndsLast (some "reset") [[7]]) later := by
  have replayed : ∃ switched trace final,
      clientStep .opened (.buffer .valid 2) = some (switched, .returned ZPR_OK none) ∧
      replay clientStep switched [.arrive (.message [7]), .arrive (.failed "reset"), .pump, .pump] =
        some (trace, final) ∧
      final.pump = .receiving ⟨[.failed "reset"], none⟩ ∧
      ∃ s, final.stream = some s ∧ s.undelivered = [[7]] ∧
        ∃ failed last, clientStep final .pump = some (failed, .silent) ∧
          replay clientStep failed [.read .valid .valid, .read .valid .valid] =
            some ([(.read .valid .valid, .read { rc := 1, out := some [7], last_error := none }),
              (.read .valid .valid,
                .read { rc := ZPR_ERR, out := some [], last_error := some "reset" })], last) :=
    ⟨_, _, _, rfl, rfl, rfl, _, rfl, rfl, _, _, rfl, rfl⟩
  rcases replayed with ⟨switched, trace, final, buffered, replayed, receiving, s, held, waiting,
    failed, last, ends, reads⟩
  have run := run_of_replay replayed
  rcases (ring_failure_read_last buffered run).1 s "reset" _ _ held receiving rfl with
    ⟨after, same, everywhere⟩
  rw [ends] at same
  cases same
  rw [waiting] at everywhere
  exact ⟨switched, trace, final, failed, _, last, buffered, run, ends, run_of_replay reads, rfl,
    everywhere _ last (run_of_replay reads)⟩

end Zpr.Grpc
