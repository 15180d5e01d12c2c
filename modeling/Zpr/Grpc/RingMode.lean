import Zpr.Foundation.LossyQueue
import Zpr.Grpc.ClientStreamStep

namespace Zpr.Grpc

open Ffi

/-! # What the ring loses is counted

The ring of a buffered stream is a lossy queue, of which it keeps the number of
items lost and no more. -/

/-- The ring shows what is left of a history. -/
structure Shows (g : RingInner) (history : LossyQueue Bytes capacity) : Prop where
  q : g.q = history.queue
  cap : g.cap = capacity
  dropped : g.dropped = history.discarded.length

theorem Shows.new (capacity : Nat) :
    Shows (.new capacity) (.empty : LossyQueue Bytes capacity) :=
  ⟨rfl, rfl, rfl⟩

/-- A push discards the oldest message exactly when the ring is full. -/
theorem RingInner.push_cases (g : RingInner) (msg : Bytes) (positive : 0 < g.cap) :
    (g.q.length < g.cap ∧ g.push msg = ({ g with q := g.q ++ [msg] }, none)) ∨
    ∃ oldest rest, g.cap ≤ g.q.length ∧ g.q = oldest :: rest ∧
      g.push msg = ({ g with q := rest ++ [msg], dropped := g.dropped + 1 }, some oldest) := by
  rcases Nat.lt_or_ge g.q.length g.cap with room | full
  · refine .inl ⟨room, ?_⟩
    rw [push, if_neg (Nat.not_le_of_lt room)]
  · cases held : g.q with
    | nil =>
        rw [held, List.length_nil] at full
        omega
    | cons oldest rest =>
        refine .inr ⟨oldest, rest, by rw [← held]; exact full, rfl, ?_⟩
        rw [push, if_pos full, held]
        rfl

theorem Shows.push {history : LossyQueue Bytes capacity} (shows : Shows g history)
    (positive : 0 < capacity) (msg : Bytes) :
    ∃ after : LossyQueue Bytes capacity, Shows (g.push msg).1 after ∧
      after.received = history.received ++ [msg] ∧ after.taken = history.taken ∧
      after.discarded = history.discarded ++ (g.push msg).2.toList := by
  rcases shows with ⟨q, cap, dropped⟩
  rcases g.push_cases msg (cap ▸ positive) with ⟨room, pushed⟩ | ⟨oldest, rest, full, held, pushed⟩
  · rw [q, cap] at room
    rw [pushed]
    refine ⟨history.receive room msg, ⟨?_, cap, dropped⟩, by simp, rfl, ?_⟩
    · show g.q ++ [msg] = history.queue ++ [msg]
      rw [q]
    · exact (List.append_nil _).symm
  · rw [q] at held
    have bounded := history.bounded
    have roomAfter : (history.depart .discarded held).queue.length < capacity := by
      show rest.length < capacity
      rw [held, List.length_cons] at bounded
      omega
    rw [pushed]
    refine ⟨(history.depart .discarded held).receive roomAfter msg, ⟨rfl, cap, ?_⟩, ?_, ?_, ?_⟩
    · rw [LossyQueue.discarded_receive, LossyQueue.discarded_depart, List.length_append, ← dropped]
      rfl
    · rw [LossyQueue.received_receive, LossyQueue.received_depart _ _ _ rfl]
    · rw [LossyQueue.taken_receive, LossyQueue.taken_depart]
      exact List.append_nil _
    · rw [LossyQueue.discarded_receive, LossyQueue.discarded_depart]
      rfl

theorem Shows.pop {history : LossyQueue Bytes capacity} (shows : Shows g history)
    (held : g.q = m :: rest) :
    ∃ after : LossyQueue Bytes capacity, Shows { g with q := rest } after ∧
      after.received = history.received ∧ after.taken = history.taken ++ [m] ∧
      after.discarded = history.discarded := by
  rw [shows.q] at held
  have discarded : (history.depart .taken held).discarded = history.discarded := by
    rw [LossyQueue.discarded_depart]
    exact List.append_nil _
  refine ⟨history.depart .taken held, ⟨rfl, shows.cap, ?_⟩,
    LossyQueue.received_depart _ _ _ rfl, ?_, discarded⟩
  · rw [discarded]
    exact shows.dropped
  · rw [LossyQueue.taken_depart]
    rfl

/-- The ring shows what became of every message that the pump received since the
stream was buffered. What the host took is delivered or held, after the message
that was held before. -/
def Accounted (held : Option Bytes) (capacity : Nat) (trace : List (Action × Reply))
    (call : ClientCall) : Prop :=
  ∃ g pending pump, ∃ history : LossyQueue Bytes capacity,
    call = ⟨some ⟨.Ring g, pending⟩, pump⟩ ∧ Shows g history ∧
    history.received = received trace ∧ history.discarded = discarded trace ∧
    delivered trace ++ pending.toList = held.toList ++ history.taken

theorem Accounted.step (positive : 0 < capacity) (accounted : Accounted held capacity trace call)
    (reads : Reads call action) (taken : clientStep call action = some (next, reply)) :
    Accounted held capacity (trace ++ [(action, reply)]) next := by
  rcases accounted with ⟨g, pending, pump, history, rfl, shows, receipts, losses, deliveries⟩
  have unchanged : ∀ g' pump', Shows g' history → deliveredOf (action, reply) = [] →
      receivedOf (action, reply) = [] → discardedOf (action, reply) = [] →
      Accounted held capacity (trace ++ [(action, reply)]) ⟨some ⟨.Ring g', pending⟩, pump'⟩ := by
    intro g' pump' shows noDelivery noReceipt noLoss
    refine ⟨g', pending, pump', history, rfl, shows, ?_, ?_, ?_⟩
    · rw [received_next, noReceipt, List.append_nil, receipts]
    · rw [discarded_next, noLoss, List.append_nil, losses]
    · rw [delivered_next, noDelivery, List.append_nil, deliveries]
  cases clientStep_ring reads taken with
  | arrives incoming pump => exact unchanged g pump shows rfl rfl rfl
  | turns pump => exact unchanged g pump shows rfl rfl rfl
  | ends err => exact unchanged _ _ ⟨shows.q, shows.cap, shows.dropped⟩ rfl rfl rfl
  | pushes msg inner =>
      rcases shows.push positive msg with ⟨after, showsAfter, receiptsAfter, takenAfter, lossesAfter⟩
      refine ⟨_, pending, _, after, rfl, showsAfter, ?_, ?_, ?_⟩
      · rw [receiptsAfter, received_next, receipts]
        rfl
      · rw [lossesAfter, discarded_next, losses]
        rfl
      · rw [takenAfter, delivered_next, ← deliveries]
        exact congrArg (· ++ _) (List.append_nil _)
  | reads event after off read =>
      rcases read with ⟨takesOff, given, _, noReceipt, noLoss⟩
      rcases after with ⟨mode, after⟩
      have deliveriesNext : delivered (trace ++ [(action, reply)]) ++ after.toList =
          held.toList ++ (history.taken ++ off) := by
        rw [delivered_next, List.append_assoc, given, ← List.append_assoc, deliveries,
          List.append_assoc]
      cases takesOff with
      | nothing =>
          refine ⟨g, after, pump, history, rfl, shows, ?_, ?_, ?_⟩
          · rw [received_next, noReceipt, List.append_nil, receipts]
          · rw [discarded_next, noLoss, List.append_nil, losses]
          · rw [deliveriesNext, List.append_nil]
      | oldest _ m rest isHeld =>
          rcases shows.pop isHeld with ⟨later, showsAfter, receiptsAfter, takenAfter, lossesAfter⟩
          refine ⟨_, after, pump, later, rfl, showsAfter, ?_, ?_, ?_⟩
          · rw [receiptsAfter, received_next, noReceipt, List.append_nil, receipts]
          · rw [lossesAfter, discarded_next, noLoss, List.append_nil, losses]
          · rw [deliveriesNext, takenAfter]

theorem accounted_of_run {s : GrpcClientStream} {call : ClientCall} (handle : call.stream = some s)
    (buffered : clientStep call (.buffer .valid capacity) = some (switched, .returned ZPR_OK none))
    (run : RunWhere Reads clientStep switched trace final) :
    0 < capacity ∧ Accounted s.pending capacity trace final := by
  have switching : 0 < capacity ∧ Accounted s.pending capacity [] switched := by
    simp only [clientStep, ClientCall.onHandle, handle, Option.bind_some,
      ClientCall.zpr_grpc_client_stream_buffer] at buffered
    split at buffered
    · cases buffered
    · rename_i positive
      split at buffered <;> cases buffered
      exact ⟨Nat.pos_of_ne_zero positive, _, s.pending, _, .empty, rfl, .new capacity, rfl, rfl,
        (List.append_nil _).symm⟩
  refine ⟨switching.1, run.invariant (Accounted s.pending capacity) switching.2 ?_⟩
  exact fun _ accounted reads taken => accounted.step switching.1 reads taken

/-! ## The balance as the host can draw it up -/

/-- What the host has been given out of the ring: all but the message that was held
when the stream was buffered, which was never in the ring. -/
def deliveredFromRing (held : Option Bytes) (trace : List (Action × Reply)) : List Bytes :=
  (delivered trace).drop held.toList.length

/-- The held message, if it comes out of the ring. -/
def heldFromRing (held : Option Bytes) (trace : List (Action × Reply)) (pending : Option Bytes) :
    Option Bytes :=
  if (delivered trace).length < held.toList.length then none else pending

theorem taken_eq {held pending : Option Bytes} {taken : List Bytes}
    (deliveries : delivered trace ++ pending.toList = held.toList ++ taken) :
    taken = deliveredFromRing held trace ++ (heldFromRing held trace pending).toList := by
  rw [deliveredFromRing, heldFromRing]
  cases held with
  | none => simpa using deliveries.symm
  | some first =>
      cases given : delivered trace with
      | nil =>
          rw [given] at deliveries
          cases pending <;> simp_all
      | cons message messages =>
          rw [given] at deliveries
          simp_all

/-- What can be said about a buffered stream after any run. -/
structure RingAccounts (held : Option Bytes) (capacity : Nat) (trace : List (Action × Reply))
    (g : RingInner) (pending : Option Bytes) : Prop where
  bounded : g.q.length ≤ capacity
  /-- the queue holds what the pump received last -/
  newest : g.q <:+ received trace
  in_order : (deliveredFromRing held trace).Sublist (received trace)
  counted : g.dropped = (discarded trace).length
  balance : (received trace).length = (deliveredFromRing held trace).length +
    (heldFromRing held trace pending).toList.length + g.dropped + g.q.length
  /-- every message received has one fate: the host took it, or it was discarded, or it
  is still in the queue -/
  fates : ∃ departed : List (Departure Bytes),
    received trace = departed.map Departure.item ++ g.q ∧
    departed.filterMap Departure.taken? =
      deliveredFromRing held trace ++ (heldFromRing held trace pending).toList ∧
    departed.filterMap Departure.discarded? = discarded trace

theorem Accounted.ringAccounts (accounted : Accounted held capacity trace call) :
    ∃ g pending pump, call = ⟨some ⟨.Ring g, pending⟩, pump⟩ ∧ g.cap = capacity ∧
      RingAccounts held capacity trace g pending := by
  rcases accounted with ⟨g, pending, pump, history, rfl, shows, receipts, losses, deliveries⟩
  have taken := taken_eq deliveries
  refine ⟨g, pending, pump, rfl, shows.cap, ?_⟩
  constructor
  · rw [shows.q]
    exact history.bounded
  · rw [shows.q, ← receipts]
    exact history.queue_suffix
  · rw [← receipts]
    exact (taken ▸ List.sublist_append_left _ _).trans history.taken_sublist
  · rw [shows.dropped, losses]
  · rw [← receipts, history.length_received, taken, List.length_append, shows.dropped, shows.q]
  · refine ⟨history.departed, ?_, taken, losses⟩
    rw [← receipts, shows.q]
    rfl

/-- What one step does to the count: it grows by the messages discarded, each of
them the oldest in a full queue. -/
structure CountsLosses (capacity : Nat) (g after : RingInner) (lost : List Bytes) : Prop where
  counted : after.dropped = g.dropped + lost.length
  oldest : ∀ m ∈ lost, g.q.length = capacity ∧ g.q.head? = some m

theorem RingAccounts.countsLosses {g : RingInner} {pump : Pump} (positive : 0 < capacity)
    (cap : g.cap = capacity) (accounts : RingAccounts held capacity trace g pending)
    (reads : Reads ⟨some ⟨.Ring g, pending⟩, pump⟩ action)
    (taken : clientStep ⟨some ⟨.Ring g, pending⟩, pump⟩ action = some (next, reply)) :
    ∃ after pending' pump', next = ⟨some ⟨.Ring after, pending'⟩, pump'⟩ ∧
      CountsLosses capacity g after (discardedOf (action, reply)) := by
  cases clientStep_ring reads taken with
  | arrives incoming pump => exact ⟨g, pending, pump, rfl, rfl, nofun⟩
  | turns pump => exact ⟨g, pending, pump, rfl, rfl, nofun⟩
  | ends err => exact ⟨_, pending, _, rfl, rfl, nofun⟩
  | pushes msg inner =>
      refine ⟨_, pending, _, rfl, ?_⟩
      rcases g.push_cases msg (cap ▸ positive) with ⟨_, pushed⟩ | ⟨oldest, rest, full, isHeld, pushed⟩
      · rw [pushed]
        exact ⟨rfl, nofun⟩
      · rw [pushed]
        refine ⟨rfl, fun m member => ?_⟩
        cases List.mem_singleton.mp member
        refine ⟨Nat.le_antisymm accounts.bounded (cap ▸ full), ?_⟩
        rw [isHeld]
        rfl
  | reads event after off read =>
      rcases read with ⟨takesOff, _, _, _, noLoss⟩
      rcases after with ⟨mode, after⟩
      rw [noLoss]
      cases takesOff with
      | nothing => exact ⟨g, after, pump, rfl, rfl, nofun⟩
      | oldest _ m rest isHeld => exact ⟨_, after, pump, rfl, rfl, nofun⟩

/-- Once a stream is buffered, its ring accounts for every message that the pump
receives, however the pump and the host take turns. -/
theorem ring_mode_accounts {s : GrpcClientStream} {call : ClientCall}
    (handle : call.stream = some s)
    (buffered : clientStep call (.buffer .valid capacity) = some (switched, .returned ZPR_OK none))
    (run : RunWhere Reads clientStep switched trace final) :
    ∃ g pending pump, final = ⟨some ⟨.Ring g, pending⟩, pump⟩ ∧
      RingAccounts s.pending capacity trace g pending ∧
      zpr_grpc_client_stream_stats ⟨.Ring g, pending⟩ .valid .valid =
        .stats ZPR_OK (some g.q.length) (some g.dropped) none ∧
      ∀ action next reply, Reads final action → clientStep final action = some (next, reply) →
        ∃ after pending' pump', next = ⟨some ⟨.Ring after, pending'⟩, pump'⟩ ∧
          CountsLosses capacity g after (discardedOf (action, reply)) := by
  rcases accounted_of_run handle buffered run with ⟨positive, accounted⟩
  rcases accounted.ringAccounts with ⟨g, pending, pump, rfl, cap, accounts⟩
  refine ⟨g, pending, pump, rfl, accounts, rfl, fun action next reply reads taken => ?_⟩
  exact accounts.countsLosses positive cap reads taken

theorem ring_mode_accounts_for_overrun : ∃ switched trace final g pending pump,
    clientStep .opened (.buffer .valid 1) = some (switched, .returned ZPR_OK none) ∧
      RunWhere Reads clientStep switched trace final ∧
      received trace = [[1], [2]] ∧ discarded trace = [[1]] ∧ delivered trace = [[2]] ∧
      final = ⟨some ⟨.Ring g, pending⟩, pump⟩ ∧ RingAccounts none 1 trace g pending := by
  have replayed : ∃ switched trace final,
      clientStep .opened (.buffer .valid 1) = some (switched, .returned ZPR_OK none) ∧
      replay clientStep switched
        [.arrive (.message [1]), .arrive (.message [2]), .pump, .pump, .pump,
          .read .valid .valid] = some (trace, final) ∧
      received trace = [[1], [2]] ∧ discarded trace = [[1]] ∧ delivered trace = [[2]] :=
    ⟨_, _, _, rfl, rfl, rfl, rfl, rfl⟩
  rcases replayed with ⟨switched, trace, final, buffered, replayed, receipts, losses, deliveries⟩
  have run : RunWhere Reads clientStep switched trace final := by
    apply runWhere_of_replay replayed
    simp [Reads]
  rcases ring_mode_accounts rfl buffered run with ⟨g, pending, pump, same, accounts, _⟩
  exact ⟨switched, trace, final, g, pending, pump, buffered, run, receipts, losses, deliveries,
    same, accounts⟩

end Zpr.Grpc
