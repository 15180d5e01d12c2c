import Zpr.Grpc.PullMode

namespace Zpr.Grpc

open Ffi

/-! # What the host is told of the end

A host that reads off the wire learns of the end of the stream from the return code, and
of a failure from the message that is left for it. What it is told first is the end that
has come off the wire. -/

def endsOf (answers : List Incoming) : List (Option String) := answers.filterMap Incoming.end?

@[simp] theorem endsOf_append (earlier later : List Incoming) :
    endsOf (earlier ++ later) = endsOf earlier ++ endsOf later :=
  List.filterMap_append

theorem endsOf_messages (messages : List Bytes) : endsOf (messages.map .message) = [] := by
  induction messages with
  | nil => rfl
  | cons msg messages induction => exact induction

theorem messagesOf_messages (messages : List Bytes) :
    messagesOf (messages.map .message) = messages := by
  induction messages with
  | nil => rfl
  | cons msg messages induction => exact congrArg (msg :: ·) induction

/-- What the host makes of the return code of a read. -/
def endOf (rc : Int) (last_error : Option String) : List (Option String) :=
  if rc = 0 then [none] else if rc = ZPR_ERR then [last_error] else []

/-- The end, if any, that an event tells the host of. -/
def toldOf : Action × Reply → List (Option String)
  | (.read .valid _, .read reply) => endOf reply.rc reply.last_error
  | (.read_into .valid _, .filled reply) => endOf reply.rc reply.last_error
  | _ => []

def told (trace : List (Action × Reply)) : List (Option String) := trace.flatMap toldOf

theorem told_next (trace : List (Action × Reply)) (event : Action × Reply) :
    told (trace ++ [event]) = told trace ++ toldOf event := by
  simp [told]

/-- The host reads off the wire, and leaves a buffer out only where it claims no room. -/
def ReadsOffWire (call : ClientCall) (action : Action) : Prop :=
  ReadsUnbuffered call action ∧
    ∀ buffer, action = .read_into .valid buffer → buffer.out = .valid ∨ buffer.out_cap = 0

/-- Such a buffer can be too small, but not missing. -/
theorem short_of_room {bytes : Bytes} {buffer : Buffer}
    (room : buffer.out = .valid ∨ buffer.out_cap = 0)
    (failed : (copy_into bytes buffer).rc ≠ ZPR_OK) :
    (copy_into bytes buffer).rc = ZPR_ERR_SHORT_BUFFER := by
  rcases copy_into_cases bytes buffer with ⟨ok, _⟩ | ⟨short, _⟩ | ⟨error, _, isNull, nonempty⟩
  · exact absurd ok failed
  · exact short
  · rcases room with valid | noRoom
    · rw [isNull] at valid
      cases valid
    · have long : bytes.length > buffer.out_cap := by
        rw [noRoom]
        exact List.length_pos_iff.mpr nonempty
      simp [copy_into, long]

/-! ## One read -/

variable {inner : Streaming}

/-- What one call of the host takes off the wire, and what it tells the host. -/
structure PullTurn (inner : Streaming) (pending : Option Bytes) (event : Action × Reply)
    (off : List Incoming) (rest : Streaming) (held : Option Bytes) : Prop where
  split : inner.answers = off ++ rest.answers
  given : deliveredOf event ++ held.toList = pending.toList ++ messagesOf off
  ended : rest.ended = inner.ended.or (endsOf off).head?
  /-- the host is told of what comes off the wire, or once more that the stream has ended -/
  told : toldOf event = endsOf off ∨ inner.ended.isSome = true ∧ off = []
  /-- a message that is held has just been read -/
  newest : ∀ msg, held = some msg → off = [] ∧ pending = some msg ∨ off = [.message msg]

theorem PullTurn.quiet (noDelivery : deliveredOf event = []) (noEnd : toldOf event = []) :
    PullTurn inner pending event [] inner pending where
  split := rfl
  given := by
    rw [noDelivery]
    exact (List.append_nil _).symm
  ended := (Option.or_none).symm
  told := .inl noEnd
  newest _ held := .inl ⟨rfl, held⟩

/-- What the beginning of a read finds. -/
structure PullFinds (inner : Streaming) (pending : Option Bytes) (off : List Incoming)
    (rest : Streaming) (what : Incoming) : Prop where
  split : inner.answers = off ++ rest.answers
  message : what.message?.toList = pending.toList ++ messagesOf off
  ended : rest.ended = inner.ended.or (endsOf off).head?
  ends : what.end?.toList = endsOf off ∨ inner.ended.isSome = true ∧ off = []
  newest : ∀ msg, what = .message msg → off = [] ∧ pending = some msg ∨ off = [.message msg]

theorem next_pull
    (found : GrpcClientStream.next ⟨.Pull inner, pending⟩ = some (after, what)) :
    ∃ off rest, after = ⟨.Pull rest, none⟩ ∧ PullFinds inner pending off rest what := by
  cases pending with
  | some bytes =>
      cases found
      refine ⟨[], inner, rfl, rfl, rfl, Option.or_none.symm, .inl rfl, ?_⟩
      intro msg same
      cases same
      exact .inl ⟨rfl, rfl⟩
  | none =>
      rcases Option.map_eq_some_iff.mp found with ⟨⟨rest, incoming⟩, answered, equal⟩
      cases equal
      rcases Streaming.message_cases answered with ⟨split, ended⟩ | ⟨empty, past, rfl, rfl⟩
      · refine ⟨[what], rest, rfl, split, ?_, ?_, ?_, ?_⟩
        · cases what <;> rfl
        · rw [ended]
          cases what <;> rfl
        · cases what <;> exact .inl rfl
        · intro msg same
          exact .inr (congrArg (fun answer => [answer]) same)
      · refine ⟨[], rest, rfl, rfl, rfl, Option.or_none.symm, .inr ⟨past, rfl⟩, ?_⟩
        intro msg same
        cases same

theorem read_pull
    (taken : zpr_grpc_client_stream_read ⟨.Pull inner, pending⟩ .valid = some (after, reply)) :
    ∃ off rest held, after = ⟨.Pull rest, held⟩ ∧
      PullTurn inner pending (.read .valid .valid, .read reply) off rest held := by
  rcases Option.map_eq_some_iff.mp taken with ⟨⟨middle, what⟩, found, equal⟩
  rcases next_pull found with ⟨off, rest, rfl, finds⟩
  refine ⟨off, rest, none, ?_⟩
  cases what with
  | message bytes =>
      cases equal
      refine ⟨rfl, finds.split, ?_, finds.ended, finds.ends, fun _ held => by cases held⟩
      rw [← finds.message]
      rfl
  | finished | failed =>
      cases equal
      refine ⟨rfl, finds.split, ?_, finds.ended, finds.ends, fun _ held => by cases held⟩
      rw [← finds.message]
      rfl

theorem read_into_pull (room : buffer.out = .valid ∨ buffer.out_cap = 0)
    (taken : zpr_grpc_client_stream_read_into ⟨.Pull inner, pending⟩ buffer =
      some (after, reply)) :
    ∃ off rest held, after = ⟨.Pull rest, held⟩ ∧
      PullTurn inner pending (.read_into .valid buffer, .filled reply) off rest held := by
  rcases Option.map_eq_some_iff.mp taken with ⟨⟨middle, what⟩, found, equal⟩
  rcases next_pull found with ⟨off, rest, rfl, finds⟩
  cases what with
  | message bytes =>
      dsimp only at equal
      split at equal
      · rename_i failed
        cases equal
        have short := short_of_room room failed
        refine ⟨off, rest, some bytes, rfl, finds.split, ?_, finds.ended, ?_, ?_⟩
        · rw [← finds.message, deliveredOf, deliveredInto, short, if_neg (by decide)]
          rfl
        · rw [toldOf, endOf, short, if_neg (by decide), if_neg (by decide)]
          exact finds.ends
        · intro msg held
          cases held
          exact finds.newest bytes rfl
      · rename_i copied
        cases equal
        have written := copy_into_written_of_ok (not_not.mp copied)
        refine ⟨off, rest, none, rfl, finds.split, ?_, finds.ended, finds.ends,
          fun _ held => by cases held⟩
        rw [← finds.message, deliveredOf, deliveredInto, if_pos rfl, written]
        rfl
  | finished | failed =>
      cases equal
      refine ⟨off, rest, none, rfl, finds.split, ?_, finds.ended, finds.ends,
        fun _ held => by cases held⟩
      rw [← finds.message]
      rfl

theorem clientStep_pullTurn
    (reads : ReadsOffWire ⟨some ⟨.Pull inner, pending⟩, .unspawned⟩ action)
    (taken : clientStep ⟨some ⟨.Pull inner, pending⟩, .unspawned⟩ action = some (next, reply)) :
    (∃ incoming, (action, reply) = (.arrive incoming, .silent) ∧
      next = ⟨some ⟨.Pull (inner.arrive incoming), pending⟩, .unspawned⟩) ∨
    ∃ off rest held, next = ⟨some ⟨.Pull rest, held⟩, .unspawned⟩ ∧
      arrivedOf (action, reply) = [] ∧
      PullTurn inner pending (action, reply) off rest held := by
  cases action with
  | arrive incoming =>
      cases taken
      exact .inl ⟨incoming, rfl, rfl⟩
  | pump => cases taken
  | read stream out =>
      cases reads.1.1
      cases stream with
      | null =>
          cases taken
          exact .inr ⟨[], inner, pending, rfl, rfl, .quiet rfl rfl⟩
      | valid =>
          rcases Option.map_eq_some_iff.mp taken with ⟨⟨after, answer⟩, read, equal⟩
          cases equal
          rcases read_pull read with ⟨off, rest, held, rfl, turn⟩
          exact .inr ⟨off, rest, held, rfl, rfl, turn⟩
  | read_into stream buffer =>
      cases stream with
      | null =>
          cases taken
          exact .inr ⟨[], inner, pending, rfl, rfl, .quiet rfl rfl⟩
      | valid =>
          rcases Option.map_eq_some_iff.mp taken with ⟨⟨after, answer⟩, read, equal⟩
          cases equal
          rcases read_into_pull (reads.2 buffer rfl) read with ⟨off, rest, held, rfl, turn⟩
          exact .inr ⟨off, rest, held, rfl, rfl, turn⟩
  | buffer stream capacity =>
      cases stream with
      | null =>
          cases taken
          exact .inr ⟨[], inner, pending, rfl, rfl, .quiet rfl rfl⟩
      | valid =>
          cases reads.1.2 capacity rfl
          cases taken
          exact .inr ⟨[], inner, pending, rfl, rfl, .quiet rfl rfl⟩
  | stats stream out_depth out_dropped =>
      cases stream with
      | null =>
          cases taken
          exact .inr ⟨[], inner, pending, rfl, rfl, .quiet rfl rfl⟩
      | valid =>
          cases taken
          exact .inr ⟨[], inner, pending, rfl, rfl, .quiet rfl rfl⟩
  | cancel stream =>
      cases reads.1.1
      cases taken
      exact .inr ⟨[], inner, pending, rfl, rfl, .quiet rfl rfl⟩

/-! ## A whole run -/

/-- What the host has been given, and told first, is what it has taken off the wire. -/
structure Accounts (trace : List (Action × Reply)) (inner : Streaming) (pending : Option Bytes)
    (consumed : List Incoming) : Prop where
  arrivals : arrived trace = consumed ++ inner.answers
  deliveries : delivered trace ++ pending.toList = messagesOf consumed
  ended : inner.ended = (endsOf consumed).head?
  ends : (told trace).head? = (endsOf consumed).head?
  newest : ∀ msg, pending = some msg → ∃ earlier, consumed = earlier ++ [.message msg]

theorem Accounts.turn {off : List Incoming} (accounts : Accounts trace inner pending consumed)
    (turn : PullTurn inner pending event off rest held) (noArrival : arrivedOf event = []) :
    Accounts (trace ++ [event]) rest held (consumed ++ off) := by
  constructor
  · rw [arrived_next, noArrival, List.append_nil, accounts.arrivals, turn.split, List.append_assoc]
  · rw [delivered_next, List.append_assoc, turn.given, ← List.append_assoc, accounts.deliveries,
      messagesOf_append]
  · rw [turn.ended, accounts.ended, endsOf_append, List.head?_append]
  · rw [told_next, List.head?_append, accounts.ends, endsOf_append, List.head?_append]
    rcases turn.told with same | ⟨past, rfl⟩
    · rw [same]
    · rw [accounts.ended] at past
      rcases Option.isSome_iff_exists.mp past with ⟨ending, first⟩
      rw [first]
      rfl
  · intro msg isHeld
    rcases turn.newest msg isHeld with ⟨rfl, before⟩ | rfl
    · rw [List.append_nil]
      exact accounts.newest msg before
    · exact ⟨consumed, rfl⟩

theorem Accounts.arrive (accounts : Accounts trace inner pending consumed) (incoming : Incoming) :
    Accounts (trace ++ [(.arrive incoming, .silent)]) (inner.arrive incoming) pending consumed where
  arrivals := by
    rw [arrived_next, accounts.arrivals, List.append_assoc]
    rfl
  deliveries := by
    rw [delivered_next, ← accounts.deliveries]
    exact congrArg (· ++ _) (List.append_nil _)
  ended := accounts.ended
  ends := by
    rw [told_next, ← accounts.ends]
    exact congrArg List.head? (List.append_nil _)
  newest := accounts.newest

theorem accounts_of_run (run : RunWhere ReadsOffWire clientStep .opened trace call) :
    ∃ inner pending consumed, call = ⟨some ⟨.Pull inner, pending⟩, .unspawned⟩ ∧
      Accounts trace inner pending consumed := by
  apply run.invariant fun trace call => ∃ inner pending consumed,
    call = ⟨some ⟨.Pull inner, pending⟩, .unspawned⟩ ∧ Accounts trace inner pending consumed
  · exact ⟨.opened, none, [], rfl, rfl, rfl, rfl, rfl, fun _ held => by cases held⟩
  · intro trace call action next reply _ known reads taken
    rcases known with ⟨inner, pending, consumed, rfl, accounts⟩
    rcases clientStep_pullTurn reads taken with
      ⟨incoming, event, rfl⟩ | ⟨off, rest, held, rfl, noArrival, turn⟩
    · cases event
      exact ⟨_, pending, consumed, rfl, accounts.arrive incoming⟩
    · exact ⟨rest, held, _, rfl, accounts.turn turn noArrival⟩

theorem Accounts.consumed_isPrefix (accounts : Accounts trace inner pending consumed) :
    consumed <+: arrived trace :=
  ⟨inner.answers, accounts.arrivals.symm⟩

/-- As long as nothing but messages has come in, the host is told of no end. -/
theorem Accounts.none_told (accounts : Accounts trace inner pending consumed)
    {messages : List Bytes} (ordered : arrived trace <+: messages.map .message) :
    told trace = [] := by
  rcases List.prefix_map_iff.mp (accounts.consumed_isPrefix.trans ordered) with ⟨read, _, rfl⟩
  rw [← List.head?_eq_none_iff, accounts.ends, endsOf_messages]
  rfl

/-- Once the host has been told of an end, it has been given every message in front of
it. -/
theorem Accounts.complete (accounts : Accounts trace inner pending consumed)
    {messages : List Bytes} {incoming : Incoming}
    (ordered : arrived trace <+: messages.map .message ++ [incoming])
    (isEnd : incoming.end? = some ending) (isTold : (told trace).head? = some first) :
    first = ending ∧ delivered trace = messages := by
  rw [accounts.ends] at isTold
  have all : consumed = messages.map .message ++ [incoming] := by
    rcases List.prefix_concat_iff.mp (accounts.consumed_isPrefix.trans ordered) with same | inside
    · exact same
    · rcases List.prefix_map_iff.mp inside with ⟨read, _, rfl⟩
      rw [endsOf_messages] at isTold
      cases isTold
  -- a message that is held would have been the last answer
  have noneHeld : pending = none := by
    rw [Option.eq_none_iff_forall_ne_some]
    intro msg held
    rcases accounts.newest msg held with ⟨earlier, same⟩
    rw [all] at same
    have last := congrArg List.getLast? same
    rw [List.getLast?_concat, List.getLast?_concat] at last
    cases last
    cases isEnd
  constructor
  · rw [all, endsOf_append, endsOf_messages, List.nil_append, endsOf, List.filterMap_cons, isEnd]
      at isTold
    cases isTold
    rfl
  · have deliveries := accounts.deliveries
    have silent : messagesOf [incoming] = [] := by
      cases incoming with
      | message => cases isEnd
      | finished | failed => rfl
    rw [noneHeld, all, messagesOf_append, messagesOf_messages, silent] at deliveries
    simpa using deliveries

end Zpr.Grpc
