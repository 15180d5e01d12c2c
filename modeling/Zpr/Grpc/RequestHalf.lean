import Zpr.Foundation.History
import Zpr.Grpc.PumpRelease

namespace Zpr.Grpc.Bidi

open Ffi

/-! # The request half of a bidirectional call

The host sends into the channel behind `ReqStream`, and the transport polls `ReqStream`
until it has its end, or drops it when the server has hung up. Everything else that may
happen to the call goes on in between. -/

inductive RequestAction
  /-- the host, or what happens to the response half -/
  | call (action : CallAction)
  /-- the transport polls `ReqStream` -/
  | poll_next
  /-- the transport drops `ReqStream` -/
  | hang_up
  deriving DecidableEq, Repr

inductive RequestReply
  | call (reply : Reply)
  | pending
  /-- `none` at the end of the stream -/
  | ready (item : Option Bytes)
  | silent
  deriving DecidableEq, Repr

/-- `ReqStream::poll_next`. -/
def poll_next (rx : Channel Bytes) : Channel Bytes × RequestReply :=
  match rx.tryRecv with
  | (rx, .item bytes) => (rx, .ready (some bytes))
  | (rx, .empty) => (rx, .pending)
  | (rx, .disconnected) => (rx, .ready none)

def requestStep : PartialStep BidiCall RequestAction RequestReply
  | _, .call .poll_next => none
  | call, .call action =>
      (bidiCallStep call action).map fun (next, reply) => (next, .call reply)
  | call, .poll_next =>
      if call.rx.receiverAlive then
        some ({ call with rx := (poll_next call.rx).1 }, (poll_next call.rx).2)
      else
        none
  | call, .hang_up => some ({ call with rx := call.rx.dropReceiver }, .silent)

/-! ## What the two sides see -/

/-- The message of a send that returned 1. -/
def acceptedOf : RequestAction × RequestReply → List Bytes
  | (.call (.send .valid _ bytes), .call (.returned 1 _)) => [bytes]
  | _ => []

def polledOf : RequestAction × RequestReply → List Bytes
  | (_, .ready item) => item.toList
  | _ => []

def accepted (trace : List (RequestAction × RequestReply)) : List Bytes := trace.flatMap acceptedOf
def polled (trace : List (RequestAction × RequestReply)) : List Bytes := trace.flatMap polledOf

theorem accepted_next (trace : List (RequestAction × RequestReply))
    (event : RequestAction × RequestReply) :
    accepted (trace ++ [event]) = accepted trace ++ acceptedOf event := by
  rw [accepted, List.flatMap_append, List.flatMap_singleton]
  rfl

theorem polled_next (trace : List (RequestAction × RequestReply))
    (event : RequestAction × RequestReply) :
    polled (trace ++ [event]) = polled trace ++ polledOf event := by
  rw [polled, List.flatMap_append, List.flatMap_singleton]
  rfl

/-- The host has half-closed the call. -/
def ClosedSend (trace : List (RequestAction × RequestReply)) : Prop :=
  ∃ reply, (.call (.close_send .valid), reply) ∈ trace

def Cancelled (trace : List (RequestAction × RequestReply)) : Prop :=
  ∃ reply, (.call (.cancel .valid), reply) ∈ trace

/-- What an event may be after the events before it. -/
structure Orderly (earlier : List (RequestAction × RequestReply))
    (event : RequestAction × RequestReply) : Prop where
  /-- after `zpr_grpc_bidi_close_send` every send fails -/
  closed : ClosedSend earlier → ∀ stream data bytes, event.1 = .call (.send stream data bytes) →
    ∃ last_error, event.2 = .call (.returned ZPR_ERR last_error)
  /-- the end is polled only after the sender has gone and everything accepted has been
  polled -/
  ended : event.2 = .ready none →
    (ClosedSend earlier ∨ Cancelled earlier) ∧ polled earlier = accepted earlier

/-- What one step may do. -/
structure RequestFrame (call next : BidiCall) (action : RequestAction) (reply : RequestReply) :
    Prop where
  /-- a send that returns 0 or fails changes nothing -/
  refused : ∀ stream data bytes rc last_error, action = .call (.send stream data bytes) →
    reply = .call (.returned rc last_error) → rc = 0 ∨ rc = ZPR_ERR → next = call
  /-- the response half stays as it is when the sending half is closed -/
  reader : ∀ stream, action = .call (.close_send stream) → next.response = call.response

/-! ## What the steps do -/

/-- Whether the host can still send, if it has its handle. -/
def BidiCall.tx (call : BidiCall) : Option Bool := call.stream.map GrpcBidiStream.tx

theorem BidiCall.tx_withResponse (call : BidiCall) {response : ClientCall}
    (kept : response.stream.isSome = call.response.stream.isSome) :
    (call.withResponse response).tx = call.tx := by
  rw [BidiCall.response_held] at kept
  unfold BidiCall.tx BidiCall.withResponse
  cases held : call.stream with
  | none => rfl
  | some s =>
      cases reader : response.stream with
      | none => simp [held, reader] at kept
      | some reader => rfl

/-- What a step does to the request half. -/
inductive RequestStep (call next : BidiCall) :
    RequestAction → RequestReply → Prop
  | elsewhere (action : CallAction) (reply : Reply)
      (noSend : ∀ stream data bytes, action ≠ .send stream data bytes)
      (noClose : ∀ stream, action ≠ .close_send stream)
      (rx : next.rx = call.rx) (tx : next.tx = call.tx) :
      RequestStep call next (.call action) (.call reply)
  | accepts (data : Pointer) (bytes : Bytes) (s : GrpcBidiStream) (held : call.stream = some s)
      (opened : s.tx = true) (alive : call.rx.receiverAlive = true)
      (room : call.rx.buffer.length < call.rx.capacity)
      (sent : next = { call with rx := { call.rx with buffer := call.rx.buffer ++ [bytes] } }) :
      RequestStep call next (.call (.send .valid data bytes)) (.call (.returned 1 none))
  | refuses (stream data : Pointer) (bytes : Bytes) (rc : Int) (last_error : Option String)
      (code : rc = 0 ∨ rc = ZPR_ERR) (same : next = call)
      (closed : (∀ s, call.stream = some s → s.tx = false) → rc = ZPR_ERR) :
      RequestStep call next (.call (.send stream data bytes)) (.call (.returned rc last_error))
  | ignores (stream : Pointer) (reply : Reply) (null : stream = .null) (same : next = call) :
      RequestStep call next (.call (.close_send stream)) (.call reply)
  | closes (reply : Reply) (s : GrpcBidiStream) (held : call.stream = some s)
      (closed : next = { call with stream := some { s with tx := false },
                                   rx := call.rx.dropSender }) :
      RequestStep call next (.call (.close_send .valid)) (.call reply)
  | cancels (reply : Reply)
      (freed : next = { call with stream := none, rx := call.rx.dropSender }) :
      RequestStep call next (.call (.cancel .valid)) (.call reply)
  | yields (bytes : Bytes) (buffer : List Bytes) (alive : call.rx.receiverAlive = true)
      (held : call.rx.buffer = bytes :: buffer)
      (taken : next = { call with rx := { call.rx with buffer := buffer } }) :
      RequestStep call next .poll_next (.ready (some bytes))
  | waits (same : next = call) : RequestStep call next .poll_next .pending
  | ends (alive : call.rx.receiverAlive = true) (empty : call.rx.buffer = [])
      (gone : call.rx.senderAlive = false) (same : next = call) :
      RequestStep call next .poll_next (.ready none)
  | hangsUp (dropped : next = { call with rx := call.rx.dropReceiver }) :
      RequestStep call next .hang_up .silent

theorem send_requestStep {call next : BidiCall} {stream data : Pointer}
    (taken : call.send stream data bytes = some (next, reply)) :
    RequestStep call next (.call (.send stream data bytes)) (.call reply) := by
  rcases Option.map_eq_some_iff.mp taken with ⟨s, handed, equal⟩
  rcases BidiCall.handle_cases handed with ⟨rfl, rfl⟩ | ⟨handle, rfl, held, rfl⟩
  · cases equal
    exact .refuses _ _ _ _ _ (.inr rfl) rfl fun _ => rfl
  · unfold zpr_grpc_bidi_send at equal
    dsimp only at equal
    split at equal
    · cases equal
      exact .refuses _ _ _ _ _ (.inr rfl) rfl fun _ => rfl
    · split at equal
      · cases equal
        exact .refuses _ _ _ _ _ (.inr rfl) rfl fun _ => rfl
      · rename_i opened
        rw [Bool.not_eq_false] at opened
        rcases call.rx.trySend_cases bytes with ⟨sent, _⟩ | ⟨sent, alive, room⟩ | ⟨sent, _, _⟩
        · rw [sent] at equal
          cases equal
          exact .refuses _ _ _ _ _ (.inr rfl) rfl fun _ => rfl
        · rw [sent] at equal
          cases equal
          exact .accepts data bytes handle held opened alive room rfl
        · rw [sent] at equal
          cases equal
          apply RequestStep.refuses _ _ _ _ _ (.inl rfl) rfl
          intro closed
          rw [closed handle held] at opened
          cases opened

theorem bidiCallStep_requestStep {call next : BidiCall} (noPoll : action ≠ .poll_next)
    (taken : bidiCallStep call action = some (next, reply)) :
    RequestStep call next (.call action) (.call reply) := by
  cases action with
  | poll_next => exact absurd rfl noPoll
  | send stream data bytes => exact send_requestStep taken
  | close_send stream =>
      rcases Option.map_eq_some_iff.mp taken with ⟨s, handed, equal⟩
      rcases BidiCall.handle_cases handed with ⟨rfl, rfl⟩ | ⟨handle, rfl, held, rfl⟩
      · cases equal
        exact .ignores _ _ rfl rfl
      · cases equal
        exact .closes _ handle held rfl
  | cancel stream =>
      rcases Option.map_eq_some_iff.mp taken with ⟨s, handed, equal⟩
      rcases BidiCall.handle_cases handed with ⟨rfl, rfl⟩ | ⟨handle, rfl, held, rfl⟩
      · cases equal
        exact .elsewhere _ _ (by simp) (by simp) rfl rfl
      · cases equal
        exact .cancels _ rfl
  | arrive incoming =>
      rcases Option.map_eq_some_iff.mp taken with ⟨response, arrives, equal⟩
      cases equal
      exact .elsewhere _ _ (by simp) (by simp) rfl
        (call.tx_withResponse (ClientCall.arrive_turn arrives).held_eq)
  | read_into stream buffer =>
      rcases Option.bind_eq_some_iff.mp taken with ⟨s, handed, read⟩
      rcases Option.map_eq_some_iff.mp read with ⟨⟨after, answer⟩, found, equal⟩
      rcases BidiCall.handle_cases handed with ⟨_, rfl⟩ | ⟨handle, _, held, rfl⟩
      · cases found
        cases equal
        exact .elsewhere _ _ (by simp) (by simp) rfl rfl
      · rcases Option.map_eq_some_iff.mp found with ⟨reader, _, same⟩
        cases same
        cases equal
        refine .elsewhere _ _ (by simp) (by simp) rfl ?_
        rw [BidiCall.tx, BidiCall.tx, held]
        rfl
  | buffer stream capacity =>
      rcases Option.map_eq_some_iff.mp taken with ⟨s, handed, equal⟩
      rcases BidiCall.handle_cases handed with ⟨_, rfl⟩ | ⟨handle, _, held, rfl⟩
      · cases equal
        exact .elsewhere _ _ (by simp) (by simp) rfl rfl
      · have reads : call.response.stream = some handle.reader := by
          rw [BidiCall.response, held]
          rfl
        rcases call.response.buffer_turn handle.reader capacity reads with ⟨turn, _⟩
        cases equal
        exact .elsewhere _ _ (by simp) (by simp) rfl (call.tx_withResponse turn.held_eq)
  | pump =>
      rcases Option.map_eq_some_iff.mp taken with ⟨⟨response, answer⟩, pumped, equal⟩
      cases equal
      exact .elsewhere _ _ (by simp) (by simp) rfl
        (call.tx_withResponse (ClientCall.runPump_turn pumped).held_eq)

theorem requestStep_cases {call next : BidiCall}
    (taken : requestStep call action = some (next, reply)) : RequestStep call next action reply := by
  cases action with
  | call action =>
      by_cases noPoll : action = .poll_next
      · subst noPoll
        cases taken
      · have step : (bidiCallStep call action).map (fun (next, reply) =>
            (next, RequestReply.call reply)) = some (next, reply) := by
          rw [← taken]
          cases action <;> first | rfl | exact absurd rfl noPoll
        rcases Option.map_eq_some_iff.mp step with ⟨⟨after, answer⟩, stepped, equal⟩
        cases equal
        exact bidiCallStep_requestStep noPoll stepped
  | poll_next =>
      simp only [requestStep, Option.ite_none_right_eq_some, Option.some.injEq, Prod.mk.injEq]
        at taken
      rcases taken with ⟨alive, rfl, rfl⟩
      rcases call.rx.tryRecv_cases with ⟨bytes, buffer, held, received⟩ | ⟨_, _, received⟩ |
        ⟨empty, gone, received⟩
      · simp only [poll_next, received]
        exact .yields bytes buffer alive held rfl
      · simp only [poll_next, received]
        exact .waits rfl
      · simp only [poll_next, received]
        exact .ends alive empty gone rfl
  | hang_up =>
      cases taken
      exact .hangsUp rfl

/-! ## Runs -/

/-- What was accepted has been polled, waits in the channel, or was lost when the server
hung up. -/
structure Conserved (capacity : Nat) (trace : List (RequestAction × RequestReply))
    (call : BidiCall) : Prop where
  size : call.rx.capacity = capacity
  conserved : ∃ lost, accepted trace = polled trace ++ (call.rx.buffer ++ lost) ∧
    call.rx.buffer.length + lost.length ≤ capacity ∧ (call.rx.receiverAlive = true → lost = [])
  sender : call.rx.senderAlive = false → ClosedSend trace ∨ Cancelled trace
  closed : ClosedSend trace → call.tx ≠ some true

theorem ClosedSend.next (closed : ClosedSend trace) (event : RequestAction × RequestReply) :
    ClosedSend (trace ++ [event]) :=
  let ⟨reply, member⟩ := closed
  ⟨reply, List.mem_append_left _ member⟩

theorem Cancelled.next (cancelled : Cancelled trace) (event : RequestAction × RequestReply) :
    Cancelled (trace ++ [event]) :=
  let ⟨reply, member⟩ := cancelled
  ⟨reply, List.mem_append_left _ member⟩

theorem closedSend_last {trace : List (RequestAction × RequestReply)}
    {event : RequestAction × RequestReply} (closed : ClosedSend (trace ++ [event])) :
    ClosedSend trace ∨ event.1 = .call (.close_send .valid) := by
  rcases closed with ⟨reply, member⟩
  rcases List.mem_append.mp member with before | last
  · exact .inl ⟨reply, before⟩
  · rw [← List.mem_singleton.mp last]
    exact .inr rfl

namespace Conserved

variable {capacity : Nat} {call : BidiCall} {trace : List (RequestAction × RequestReply)}

/-- A sender that has gone before an event is accounted for after it. -/
theorem sender_next (conserved : Conserved capacity trace call)
    (gone : call.rx.senderAlive = false) (event : RequestAction × RequestReply) :
    ClosedSend (trace ++ [event]) ∨ Cancelled (trace ++ [event]) := by
  rcases conserved.sender gone with before | before
  · exact .inl (before.next event)
  · exact .inr (before.next event)

theorem closed_next (conserved : Conserved capacity trace call)
    {event : RequestAction × RequestReply} (noClose : event.1 ≠ .call (.close_send .valid))
    (isClosed : ClosedSend (trace ++ [event])) : call.tx ≠ some true := by
  rcases closedSend_last isClosed with before | last
  · exact conserved.closed before
  · exact absurd last noClose

/-- A step that neither accepts nor yields a message. -/
theorem still (conserved : Conserved capacity trace call) {event : RequestAction × RequestReply}
    (unaccepted : acceptedOf event = []) (unpolled : polledOf event = [])
    (noClose : event.1 ≠ .call (.close_send .valid)) {next : BidiCall} (rx : next.rx = call.rx)
    (tx : next.tx = call.tx) : Conserved capacity (trace ++ [event]) next := by
  rcases conserved.conserved with ⟨lost, balance, bound, alive⟩
  constructor
  · rw [rx, conserved.size]
  · refine ⟨lost, ?_, by rw [rx]; exact bound, by rw [rx]; exact alive⟩
    rw [accepted_next, polled_next, unaccepted, unpolled, List.append_nil, List.append_nil, rx,
      balance]
  · intro gone
    rw [rx] at gone
    exact conserved.sender_next gone event
  · intro isClosed
    rw [tx]
    exact conserved.closed_next noClose isClosed

theorem step (conserved : Conserved capacity trace call)
    (taken : requestStep call action = some (next, reply)) :
    Conserved capacity (trace ++ [(action, reply)]) next := by
  cases requestStep_cases taken with
  | elsewhere action reply noSend noClose rx tx =>
      apply conserved.still ?_ rfl ?_ rx tx
      · unfold acceptedOf
        split
        · rename_i same
          simp only [Prod.mk.injEq, RequestAction.call.injEq] at same
          exact absurd same.1 (noSend _ _ _)
        · rfl
      · intro same
        simp only [RequestAction.call.injEq] at same
        exact noClose _ same
  | refuses stream data bytes rc last_error code same =>
      subst same
      apply conserved.still ?_ rfl (by simp) rfl rfl
      rcases code with rfl | rfl <;> cases stream <;> rfl
  | ignores stream reply null same =>
      subst null same
      exact conserved.still rfl rfl (by simp) rfl rfl
  | waits same =>
      subst same
      exact conserved.still rfl rfl (by simp) rfl rfl
  | ends _ _ _ same =>
      subst same
      exact conserved.still rfl rfl (by simp) rfl rfl
  | accepts data bytes s held opened isAlive room sent =>
      subst sent
      rcases conserved.conserved with ⟨lost, balance, bound, alive⟩
      have none := alive isAlive
      subst none
      refine ⟨conserved.size, ⟨[], ?_, ?_, fun _ => rfl⟩, ?_, conserved.closed_next nofun⟩
      · rw [accepted_next, polled_next, balance]
        simp [acceptedOf, polledOf]
      · have size := conserved.size
        simp only [List.length_append, List.length_singleton, List.length_nil]
        omega
      · exact fun gone => conserved.sender_next gone _
  | yields bytes buffer isAlive held rest =>
      subst rest
      rcases conserved.conserved with ⟨lost, balance, bound, alive⟩
      rw [held] at balance bound
      refine ⟨conserved.size, ⟨lost, ?_, ?_, alive⟩, ?_, conserved.closed_next nofun⟩
      · rw [accepted_next, polled_next, balance]
        simp [acceptedOf, polledOf]
      · rw [List.length_cons] at bound
        show buffer.length + lost.length ≤ capacity
        omega
      · exact fun gone => conserved.sender_next gone _
  | closes reply s held isClosed =>
      subst isClosed
      rcases conserved with ⟨cap, ⟨lost, balance, bound, alive⟩, _, _⟩
      have noted : ClosedSend (trace ++ [(.call (.close_send .valid), .call reply)]) :=
        ⟨.call reply, List.mem_append_right _ (List.mem_singleton_self _)⟩
      refine ⟨cap, ⟨lost, ?_, bound, alive⟩, fun _ => .inl noted, fun _ => by simp [BidiCall.tx]⟩
      rw [accepted_next, polled_next, balance]
      simp [acceptedOf, polledOf, Channel.dropSender]
  | cancels reply freed =>
      subst freed
      rcases conserved with ⟨cap, ⟨lost, balance, bound, alive⟩, _, _⟩
      have noted : Cancelled (trace ++ [(.call (.cancel .valid), .call reply)]) :=
        ⟨.call reply, List.mem_append_right _ (List.mem_singleton_self _)⟩
      refine ⟨cap, ⟨lost, ?_, bound, alive⟩, fun _ => .inr noted, fun _ => by simp [BidiCall.tx]⟩
      rw [accepted_next, polled_next, balance]
      simp [acceptedOf, polledOf, Channel.dropSender]
  | hangsUp dropped =>
      subst dropped
      rcases conserved.conserved with ⟨lost, balance, bound, alive⟩
      refine ⟨conserved.size, ⟨call.rx.buffer ++ lost, ?_, ?_, nofun⟩, ?_,
        conserved.closed_next nofun⟩
      · rw [accepted_next, polled_next, balance]
        simp [acceptedOf, polledOf, Channel.dropReceiver]
      · rw [List.length_append]
        show 0 + (call.rx.buffer.length + lost.length) ≤ capacity
        omega
      · exact fun gone => conserved.sender_next gone _

theorem opened (made : requestChannel send_capacity = some rx) :
    Conserved (if send_capacity = 0 then 8 else send_capacity) [] (.opened rx) := by
  rcases requestChannel_eq made with ⟨alive, empty⟩
  simp only [requestChannel, Option.ite_none_right_eq_some, Option.some.injEq] at made
  rcases made with ⟨_, rfl⟩
  refine ⟨rfl, ⟨[], rfl, Nat.zero_le _, fun _ => rfl⟩, fun gone => ?_, fun closed => ?_⟩
  · cases gone
  · rcases closed with ⟨reply, member⟩
    cases member

theorem orderly (conserved : Conserved capacity trace call)
    (taken : requestStep call action = some (next, reply)) : Orderly trace (action, reply) := by
  cases requestStep_cases taken with
  | elsewhere action reply noSend =>
      refine ⟨fun _ stream data bytes same => ?_, nofun⟩
      simp only [RequestAction.call.injEq] at same
      exact absurd same (noSend stream data bytes)
  | accepts data bytes s held isOpen =>
      refine ⟨fun isClosed => ?_, nofun⟩
      have shut := conserved.closed isClosed
      rw [BidiCall.tx, held, Option.map_some, isOpen] at shut
      exact absurd rfl shut
  | refuses stream data bytes rc last_error _ _ closed =>
      refine ⟨fun isClosed _ _ _ _ => ⟨last_error, ?_⟩, nofun⟩
      have shut := conserved.closed isClosed
      rw [closed]
      intro s held
      rw [BidiCall.tx, held, Option.map_some] at shut
      simpa using shut
  | ignores | closes | cancels => exact ⟨fun _ _ _ _ same => by simp at same, nofun⟩
  | yields | waits | hangsUp => exact ⟨fun _ _ _ _ same => by simp at same, nofun⟩
  | ends isAlive empty gone =>
      refine ⟨fun _ _ _ _ same => by simp at same, fun _ => ⟨conserved.sender gone, ?_⟩⟩
      rcases conserved.conserved with ⟨lost, balance, _, alive⟩
      rw [balance, empty, alive isAlive]
      simp

end Conserved

theorem requestFrame (taken : requestStep call action = some (next, reply)) :
    RequestFrame call next action reply := by
  cases requestStep_cases taken with
  | elsewhere action reply noSend noClose =>
      constructor
      · intro stream data bytes rc last_error same
        simp only [RequestAction.call.injEq] at same
        exact absurd same (noSend stream data bytes)
      · intro stream same
        simp only [RequestAction.call.injEq] at same
        exact absurd same (noClose stream)
  | accepts data bytes =>
      constructor
      · intro stream data' bytes' rc last_error _ same failed
        simp only [RequestReply.call.injEq, Reply.returned.injEq] at same
        rw [← same.1, ZPR_ERR] at failed
        omega
      · exact fun _ same => by simp at same
  | refuses _ _ _ _ _ _ same => exact ⟨fun _ _ _ _ _ _ _ _ => same, fun _ same => by simp at same⟩
  | ignores _ _ _ same =>
      exact ⟨fun _ _ _ _ _ same => by simp at same, fun _ _ => by rw [same]⟩
  | closes _ s held closed =>
      refine ⟨fun _ _ _ _ _ same => by simp at same, fun _ _ => ?_⟩
      rw [closed, BidiCall.response, BidiCall.response, held]
      rfl
  | cancels | yields | waits | ends | hangsUp =>
      exact ⟨fun _ _ _ _ _ same => by simp at same, fun _ same => by simp at same⟩

/-- What can be said about the request half after any run. -/
structure RequestAccounts (capacity : Nat) (trace : List (RequestAction × RequestReply))
    (call : BidiCall) : Prop where
  in_order : polled trace <+: accepted trace
  bounded : (accepted trace).length ≤ (polled trace).length + capacity
  orderly : Everywhere Orderly trace
  frame : ∀ action next reply, requestStep call action = some (next, reply) →
    RequestFrame call next action reply

/-- However the host and the transport take turns, what is polled is what was accepted,
in order, with no more than the capacity in between; the end comes last, and nothing is
accepted after the host has half-closed the call. -/
theorem request_half_accounts (made : requestChannel send_capacity = some rx)
    (run : Run requestStep (.opened rx) trace call) :
    RequestAccounts (if send_capacity = 0 then 8 else send_capacity) trace call := by
  have known : Conserved (if send_capacity = 0 then 8 else send_capacity) trace call ∧
      Everywhere Orderly trace := by
    apply run.invariant fun trace call =>
      Conserved (if send_capacity = 0 then 8 else send_capacity) trace call ∧
        Everywhere Orderly trace
    · exact ⟨.opened made, everywhere_nil⟩
    · intro trace call action next reply _ known _ taken
      exact ⟨known.1.step taken, everywhere_next.mpr ⟨known.2, known.1.orderly taken⟩⟩
  rcases known with ⟨⟨_, ⟨lost, balance, bound, _⟩, _, _⟩, orderly⟩
  constructor
  · rw [balance]
    exact List.prefix_append _ _
  · rw [balance, List.length_append, List.length_append]
    omega
  · exact orderly
  · exact fun action next reply taken => requestFrame taken

/-- A window of one message: the second send has to be repeated, the third comes after
the half-close. -/
theorem request_half_accounts_for_upload : ∃ trace call,
    Run requestStep (.opened (.create 1)) trace call ∧
      trace.map Prod.snd = [.call (.returned 1 none), .call (.returned 0 none),
        .ready (some [1]), .call (.returned 1 none), .call (.returned ZPR_OK none),
        .call (.returned ZPR_ERR (some "the sending half is already closed")),
        .ready (some [2]), .ready none] ∧
      polled trace = [[1], [2]] ∧ accepted trace = [[1], [2]] ∧ RequestAccounts 1 trace call := by
  have replayed : ∃ trace call, replay requestStep (.opened (.create 1))
        [.call (.send .valid .valid [1]), .call (.send .valid .valid [2]), .poll_next,
          .call (.send .valid .valid [2]), .call (.close_send .valid),
          .call (.send .valid .valid [3]), .poll_next, .poll_next] = some (trace, call) ∧
      trace.map Prod.snd = [.call (.returned 1 none), .call (.returned 0 none),
        .ready (some [1]), .call (.returned 1 none), .call (.returned ZPR_OK none),
        .call (.returned ZPR_ERR (some "the sending half is already closed")),
        .ready (some [2]), .ready none] ∧
      polled trace = [[1], [2]] ∧ accepted trace = [[1], [2]] := ⟨_, _, rfl, rfl, rfl, rfl⟩
  rcases replayed with ⟨trace, call, replayed, replies, isPolled, isAccepted⟩
  have run := run_of_replay replayed
  have made : requestChannel 1 = some (.create 1) := by decide
  exact ⟨trace, call, run, replies, isPolled, isAccepted, request_half_accounts made run⟩

end Zpr.Grpc.Bidi
