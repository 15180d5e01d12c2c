import Zpr.GrpcServer.QueuedReads

namespace Zpr.GrpcServer

open Ffi

/-! # What a call that is not read takes in

Channels of eight messages stand between the host and its client. The pump takes the next
frame off the wire only when all the messages of the frames before it have gone into the
channel, so that a host that does not read stops its client. -/

/-! ## Where the pump stands in its body -/

/-- The frames that the pump has taken, those before the last of them, and how far it has
got with the messages of the last. -/
inductive Pump.Stands (body : RequestBody) : Pump → Prop
  | reading (read rest : List BodyFrame) (split : body.frames = read ++ rest) :
      Stands body ⟨{ body with frames := rest }, (pump_inbound read).2, .reading⟩
  | sending (before rest : List BodyFrame) (frame : BodyFrame) (done : List Bytes) (msg buf : Bytes)
      (split : body.frames = before ++ frame :: rest)
      (decoding : pump_frame (pump_inbound before).2 frame =
        (done ++ msg :: (decode_loop buf).1, (decode_loop buf).2)) :
      Stands body ⟨{ body with frames := rest }, buf, .sending msg⟩
  | finished (buf : Bytes) : Stands body ⟨{ body with frames := [] }, buf, .finished⟩

/-- The state of a channel or buffer between two decoded messages. -/
theorem pump_inbound_next (read : List BodyFrame) (frame : BodyFrame) :
    (pump_inbound (read ++ [frame])).1.flatten =
        (pump_inbound read).1.flatten ++ (pump_frame (pump_inbound read).2 frame).1 ∧
      (pump_inbound (read ++ [frame])).2 = (pump_frame (pump_inbound read).2 frame).2 := by
  have split := pump_frames_append [] read [frame]
  rw [pump_inbound, split]
  simp [pump_frames, pump_inbound]

/-- What the pump decodes next, of the frame that it took last. -/
theorem Pump.stands_decode {body : RequestBody} {before rest : List BodyFrame} {frame : BodyFrame}
    {done : List Bytes} {buf : Bytes} (phase : PumpPhase)
    (split : body.frames = before ++ frame :: rest)
    (decoding : pump_frame (pump_inbound before).2 frame =
      (done ++ (decode_loop buf).1, (decode_loop buf).2)) :
    (Pump.decode ⟨{ body with frames := rest }, buf, phase⟩).Stands body := by
  cases decoded : try_decode_one buf with
  | mk msg left =>
      cases msg with
      | some msg =>
          rw [decode_loop_of_some decoded] at decoding
          simp only [decode, decoded]
          exact .sending before rest frame done msg left split decoding
      | none =>
          rw [decode_loop_of_none decoded] at decoding
          simp only [decode, decoded]
          have taken := (pump_inbound_next before frame).2
          rw [decoding] at taken
          have whole : body.frames = (before ++ [frame]) ++ rest := by simp [split]
          have stands := Pump.Stands.reading (before ++ [frame]) rest whole
          rw [taken] at stands
          exact stands

theorem Pump.Stands.step {body : RequestBody} {pump next : Pump} {tx after : Channel Bytes}
    (stands : pump.Stands body) (alive : tx.receiverAlive = true)
    (taken : pump.step tx = some (next, after)) : next.Stands body := by
  cases stands with
  | finished buf => cases taken
  | reading read rest split =>
      rcases rest with _ | ⟨frame, rest⟩
      · cases taken
        exact .finished _
      · cases frame with
        | other =>
            cases taken
            have whole : body.frames = (read ++ [.other]) ++ rest := by simp [split]
            have stands := Pump.Stands.reading (read ++ [.other]) rest whole
            rw [(pump_inbound_next read .other).2] at stands
            exact stands
        | data chunk =>
            simp only [Pump.step, Option.some.injEq, Prod.mk.injEq] at taken
            rcases taken with ⟨rfl, _⟩
            have decoding : pump_frame (pump_inbound read).2 (.data chunk) =
                ([] ++ (decode_loop ((pump_inbound read).2 ++ chunk)).1,
                  (decode_loop ((pump_inbound read).2 ++ chunk)).2) := rfl
            exact stands_decode _ split decoding
  | sending before rest frame done msg buf split decoding =>
      rcases tx.trySend_cases msg with ⟨_, dead⟩ | ⟨result, _⟩ | ⟨result, _⟩
      · rw [alive] at dead
        cases dead
      · simp only [Pump.step, result, Option.some.injEq, Prod.mk.injEq] at taken
        rcases taken with ⟨rfl, _⟩
        rw [List.append_cons] at decoding
        exact stands_decode _ split decoding
      · simp [Pump.step, result] at taken

/-- The messages of the frames before the last one that the pump took have been sent. -/
theorem Pump.Stands.sent {body : RequestBody} {pump : Pump} {sent : List Bytes}
    (stands : pump.Stands body) (balance : sent ++ pump.toSend = body.messages) :
    ∃ before last, body.frames = before ++ last ++ pump.body.frames ∧ last.length ≤ 1 ∧
      (pump_inbound before).1.flatten <+: sent ∧
      ((∀ msg, pump.phase ≠ .sending msg) →
        last = [] ∧ (pump_inbound before).1.flatten = sent) := by
  have messages : ∀ read rest : List BodyFrame, body.frames = read ++ rest →
      body.messages = (pump_inbound read).1.flatten ++
        (pump_frames (pump_inbound read).2 rest).1.flatten := by
    intro read rest split
    have cut := pump_frames_append [] read rest
    rw [RequestBody.messages, pump_inbound, split, cut, List.flatten_append]
    rfl
  cases stands with
  | reading read rest split =>
      rw [messages read rest split] at balance
      have all := List.append_cancel_right balance
      exact ⟨read, [], by rw [split, List.append_nil], Nat.zero_le _, by rw [all],
        fun _ => ⟨rfl, all.symm⟩⟩
  | finished buf =>
      have all : sent = body.messages := by simpa [toSend] using balance
      refine ⟨body.frames, [], by simp, Nat.zero_le _, ?_, fun _ => ⟨rfl, ?_⟩⟩
      · rw [all]
        exact List.prefix_rfl
      · rw [all]
        rfl
  | sending before rest frame done msg buf split decoding =>
      have whole : body.frames = (before ++ [frame]) ++ rest := by simp [split]
      have next := pump_inbound_next before frame
      rw [decoding] at next
      rw [messages _ _ whole, next.1, next.2] at balance
      have all : sent = (pump_inbound before).1.flatten ++ done := by
        have same : sent ++ toSend ⟨{ body with frames := rest }, buf, .sending msg⟩ =
            ((pump_inbound before).1.flatten ++ done) ++
              toSend ⟨{ body with frames := rest }, buf, .sending msg⟩ := by
          rw [balance]
          simp [toSend]
        exact List.append_cancel_right same
      refine ⟨before, [frame], by simp [split], Nat.le_refl _, ?_, fun quiet => ?_⟩
      · rw [all]
        exact List.prefix_append _ _
      · exact absurd rfl (quiet msg)

/-! ## What the channel holds -/

/-- The channel of a request and the pump in front of it. -/
structure Request.Bounded (body : RequestBody) (request : Request) : Prop where
  capacity : request.inbound.capacity = 8
  bounded : request.inbound.buffer.length ≤ 8
  stands : request.inbound.receiverAlive = true → request.running = true →
    request.pump.Stands body

theorem Request.Bounded.arrived (body : RequestBody) :
    Request.Bounded body ⟨.handler, .spawn body, .create 8, true⟩ where
  capacity := rfl
  bounded := Nat.zero_le _
  stands _ _ := .reading [] body.frames rfl

theorem Pump.step_bounded {pump next : Pump} {tx after : Channel Bytes}
    (taken : pump.step tx = some (next, after)) (bounded : tx.buffer.length ≤ tx.capacity) :
    after.buffer.length ≤ after.capacity := by
  unfold step at taken
  cases phase : pump.phase with
  | finished => simp [phase] at taken
  | reading =>
      simp only [phase] at taken
      split at taken <;> cases taken <;> exact bounded
  | sending msg =>
      rcases tx.trySend_cases msg with ⟨result, _⟩ | ⟨result, _, room⟩ | ⟨result, _⟩
      · simp only [phase, result, Option.some.injEq, Prod.mk.injEq] at taken
        rw [← taken.2]
        exact bounded
      · simp only [phase, result, Option.some.injEq, Prod.mk.injEq] at taken
        rw [← taken.2]
        simp only [List.length_append, List.length_singleton]
        omega
      · simp [phase, result] at taken

theorem Request.Bounded.step {body : RequestBody} {request next : Request}
    (known : request.Bounded body) (change : RequestChange request sentNow returnedNow next) :
    next.Bounded body := by
  rcases known with ⟨capacity, bounded, stands⟩
  cases change with
  | same => exact ⟨capacity, bounded, stands⟩
  | entered call reading nothing notDone => exact ⟨capacity, bounded, stands⟩
  | left call reading => exact ⟨capacity, bounded, stands⟩
  | dropped reading => exact ⟨capacity, Nat.zero_le _, nofun⟩
  | stopped => exact ⟨capacity, bounded, fun _ => nofun⟩
  | pumped pump inbound running stepped =>
      have sameCapacity := Pump.step_capacity stepped
      have room := Pump.step_bounded stepped (by rw [capacity]; exact bounded)
      rw [sameCapacity, capacity] at room
      refine ⟨sameCapacity.trans capacity, room, fun alive _ => ?_⟩
      rcases Pump.step_spec stepped with ⟨_, spec⟩
      have wasAlive : request.inbound.receiverAlive = true := by
        rw [← spec.receiverAlive]
        exact alive
      exact (stands wasAlive running).step wasAlive stepped
  | read call read inbound reply reading answered =>
      cases answered with
      | returnsHeld | keepsHeld | findsNothing | findsEnd => exact ⟨capacity, bounded, stands⟩
      | returnsNext msg buffer _ _ first | holdsNext msg buffer _ _ first =>
          rw [first, List.length_cons] at bounded
          exact ⟨capacity, Nat.le_of_succ_le bounded, stands⟩

/-- What holds of every request when it arrives, and is kept by every event, holds of every
request that is not refused. -/
theorem requests_of_run {Holds : RequestBody → Request → Prop}
    (arrived : ∀ body, Holds body ⟨.handler, .spawn body, .create 8, true⟩)
    (kept : ∀ body request sent returned next, Holds body request →
      RequestChange request sent returned next → Holds body next)
    (run : RunWhere condition serverStep .start trace state) :
    ∀ (index : Nat) rpc body, state.rpcs[index]? = some rpc → rpc.arrival ≠ .refused →
      (bodies trace)[index]? = some body → Holds body (state.request index rpc) := by
  apply run.invariant fun trace state => ∀ (index : Nat) rpc body, state.rpcs[index]? = some rpc →
    rpc.arrival ≠ .refused → (bodies trace)[index]? = some body →
    Holds body (state.request index rpc)
  · intro index rpc body known
    simp [Server.start] at known
  · intro trace state action next reply earlier holds _ taken index after body found notRefused
      brought
    have lossless := lossless_of_run earlier
    cases known : state.rpcs[index]? with
    | some rpc =>
        have wasNotRefused := serverStep_notRefused taken known found notRefused
        rw [lossless.body_stays known] at brought
        exact kept _ _ _ _ _ (holds index rpc body known wasNotRefused brought)
          (serverStep_requests lossless.consistent taken known found notRefused)
    | none =>
        rcases serverStep_new_rpc taken known found with ⟨path, arriving, rfl, rfl⟩
        have outside : next.enteredAt index = none := Server.enteredAt_of_rpc found
        have running : next.running = true := by
          rcases serverStep_arrive_cases taken with ⟨running, rfl, _⟩
          exact running
        have atEnd : index = (bodies trace).length := by
          have beyond : (bodies trace).length ≤ index := by
            rw [← lossless.arrivals]
            exact List.getElem?_eq_none_iff.mp known
          have within := (List.getElem?_eq_some_iff.mp found).1
          rw [serverStep_rpcs_length taken, lossless.arrivals] at within
          simp only [bodiesOf, List.length_singleton] at within
          omega
        rw [bodies_next, atEnd, List.getElem?_append_right (Nat.le_refl _), Nat.sub_self]
          at brought
        cases brought
        simp only [Server.request, Server.readingAt, outside, running]
        exact arrived body

/-! ## What waits to be polled -/

/-- The channel of a response. -/
def OutboundBody.Bounded (body : OutboundBody) : Prop :=
  body.rx.capacity = 8 ∧ body.rx.buffer.length ≤ 8

theorem OutboundBody.Bounded.poll_frame {body : OutboundBody} (bounded : body.Bounded) :
    body.poll_frame.1.Bounded := by
  have atStatus : ∀ other : OutboundBody, other.Bounded → other.poll_status.1.Bounded := by
    intro other holds
    unfold poll_status
    split <;> exact holds
  rcases body.poll_frame_spec with
    ⟨msg, buffer, _, held, polled⟩ | ⟨_, _, _, polled⟩ | ⟨_, polled⟩ | ⟨_, polled⟩
  · rw [polled]
    rcases bounded with ⟨capacity, room⟩
    rw [held, List.length_cons] at room
    exact ⟨capacity, Nat.le_of_succ_le room⟩
  · rw [polled]
    exact bounded
  · rw [polled]
    exact atStatus _ bounded
  · rw [polled]
    exact bounded

/-- An event that writes nothing. -/
theorem OutboundBody.Bounded.change {response next : Response}
    (bounded : response.body.Bounded)
    (change : ResponseChange response [] removalsNow framesNow next) : next.body.Bounded := by
  generalize nothing : ([] : List Bytes) = writesNow at change
  cases change with
  | written => cases nothing
  | same | entered | taken | answered | dropped => exact bounded
  | hungUp => exact ⟨bounded.1, Nat.zero_le _⟩
  | polled body frame connected ready =>
      have polled := bounded.poll_frame
      rw [ready] at polled
      exact polled
  | waited body connected pending =>
      have polled := bounded.poll_frame
      rw [pending] at polled
      exact polled

/-- A write takes the place of nothing: there has to be room in the channel. -/
theorem Server.call_write_bounded {index : Nat} {state next : Server} {rpc after : Rpc}
    (taken : state.call_write call_id data bytes = some (next, reply))
    (known : state.rpcs[index]? = some rpc) (found : next.rpcs[index]? = some after)
    (bounded : rpc.body.Bounded) : after.body.Bounded := by
  have unchanged : next = state → after.body.Bounded := by
    rintro rfl
    cases known.symm.trans found
    exact bounded
  unfold call_write at taken
  split at taken
  · cases taken
    exact unchanged rfl
  · split at taken
    · cases taken
      exact unchanged rfl
    · rename_i call held
      rcases Option.map_eq_some_iff.mp taken with ⟨target, targetKnown, moved⟩
      rcases target.body.rx.trySend_cases bytes with ⟨result, _⟩ | ⟨result, _, room⟩ | ⟨result, _⟩
      · rw [result] at moved
        cases moved
        exact unchanged rfl
      · rw [result] at moved
        cases moved
        rcases update_cases known found with ⟨rfl, rfl⟩ | ⟨_, rfl⟩
        · cases known.symm.trans targetKnown
          rcases bounded with ⟨capacity, _⟩
          rw [capacity] at room
          refine ⟨capacity, ?_⟩
          simp only [List.length_append, List.length_singleton]
          omega
        · exact bounded
      · rw [result] at moved
        cases moved
        exact unchanged rfl

theorem responses_bounded_of_run (run : RunWhere condition serverStep .start trace state) :
    ∀ (index : Nat) rpc, state.rpcs[index]? = some rpc → rpc.arrival ≠ .refused →
      rpc.body.Bounded := by
  apply run.invariant fun _ state => ∀ (index : Nat) rpc, state.rpcs[index]? = some rpc →
    rpc.arrival ≠ .refused → rpc.body.Bounded
  · intro index rpc known
    simp [Server.start] at known
  · intro trace state action next reply earlier holds _ taken index after found notRefused
    cases known : state.rpcs[index]? with
    | none =>
        rcases serverStep_new_rpc taken known found with ⟨path, body, rfl, rfl⟩
        exact ⟨rfl, Nat.zero_le _⟩
    | some rpc =>
        have before := holds index rpc known (serverStep_notRefused taken known found notRefused)
        have responds := serverStep_responds (lossless_of_run earlier).consistent taken known found
          notRefused
        have quiet : (∀ id, writesOf id (action, reply) = []) → after.body.Bounded := by
          intro silent
          rw [Server.Responds, Server.elim_quiet silent] at responds
          exact OutboundBody.Bounded.change before responds
        cases action with
        | write call_id data bytes => exact Server.call_write_bounded taken known found before
        | _ => exact quiet fun _ => rfl

/-! ## A live call -/

/-- However long its host leaves a live call alone, no more than nine messages have been
taken in for it that it has not read, but for those of one frame that the pump has cut up in
part; nor do more than eight that it has written wait to be polled. -/
theorem live_call_is_bounded (run : Run serverStep .start trace state)
    (drawn : state.idAt index = some call_id)
    (held : state.queue.live.find? call_id = some call) (running : state.running = true) :
    ∃ rpc body before last, state.rpcs[index]? = some rpc ∧ (bodies trace)[index]? = some body ∧
      body.frames = before ++ last ++ rpc.pump.body.frames ∧ last.length ≤ 1 ∧
      (delivered call_id trace <+: body.messages) ∧
      (pump_inbound before).1.flatten.length ≤ (delivered call_id trace).length + 9 ∧
      ((∀ msg, rpc.pump.phase ≠ .sending msg) → last = []) ∧
      (rpc.connected = true →
        (writes call_id trace).length ≤ (frames index trace).length + 8) := by
  have lossless := lossless_of_run run
  rcases lossless.history_of_drawn drawn with ⟨rpc, body, known, brought, history⟩
  have reading : (state.request index rpc).reading = .live call :=
    Server.reading_of_live lossless.consistent drawn held
  have accounts := history.accounts
  rw [reading] at accounts
  have attended := history.attended (by simp [reading])
  have pumped := history.pumped attended running
  rcases Server.rpc_of_drawn drawn with ⟨same, knownToo, notRefused⟩
  cases known.symm.trans knownToo
  have bounded := requests_of_run Request.Bounded.arrived
    (fun _ _ _ _ _ known change => Request.Bounded.step known change) run index rpc body known
    notRefused brought
  rcases (bounded.stands attended running).sent pumped with
    ⟨before, last, split, atMostOne, isPrefix, still⟩
  refine ⟨rpc, body, before, last, known, brought, split, atMostOne,
    history.returned_prefix.trans history.isPrefix, ?_, fun quiet => (still quiet).1, ?_⟩
  · have room := bounded.bounded
    have pending : call.pending_msg.toList.length ≤ 1 := by
      cases call.pending_msg <;> simp
    have total := congrArg List.length accounts.1
    simp only [List.length_append] at total
    have fewer := isPrefix.length_le
    omega
  · intro connected
    rcases (explained_of_run run).history_of_drawn drawn with ⟨same, knownAgain, responses⟩
    cases known.symm.trans knownAgain
    have agrees := responses.agrees
    rcases (lossless.consistent.live call_id call held).1.entered with ⟨ms, entered⟩
    have own := lossless.consistent.distinct _ _ _ drawn (Server.idAt_of_enteredAt entered)
    rw [← own] at entered
    have isLive : (state.response index rpc).holder = .live := by
      simp [Server.response, Server.holderAt, entered, held]
    rw [isLive] at agrees
    have shownSoFar := responses.delivered connected
    rw [Delivered, agrees.2.2.2] at shownSoFar
    have total := congrArg List.length shownSoFar
    simp only [List.length_append, List.length_map] at total
    have room := (responses_bounded_of_run run index rpc known notRefused).2
    simp only [Server.response] at total
    omega

/-- Two messages in the first frame, of which the pump has sent one. -/
theorem live_call_is_bounded_for_unread_upload :
    ∃ trace state rpc, ∃ body : RequestBody, ∃ before last,
    Run serverStep .start trace state ∧ state.rpcs[0]? = some rpc ∧
      rpc.pump.phase = .sending [8] ∧ rpc.inbound.buffer = [[7]] ∧
      body.frames = before ++ last ++ rpc.pump.body.frames ∧ last.length ≤ 1 ∧
      (pump_inbound before).1.flatten.length ≤ (delivered 1 trace).length + 9 := by
  have replayed : ∃ trace state call rpc, replay serverStep .start
        [.arrive "/a" ⟨[.data [0, 0, 0, 0, 1, 7, 0, 0, 0, 0, 1, 8], .data [0]], false⟩,
          .handle_queued 0, .handle_queued 0, .handle_queued 0, .handle_queued 0,
          .handle_queued 0, .pump_inbound 0, .pump_inbound 0] = some (trace, state) ∧
      state.idAt 0 = some 1 ∧ state.running = true ∧ state.queue.live.find? 1 = some call ∧
      state.rpcs[0]? = some rpc ∧ rpc.pump.phase = .sending [8] ∧ rpc.inbound.buffer = [[7]] :=
    ⟨_, _, _, _, rfl, rfl, rfl, rfl, rfl, rfl, rfl⟩
  rcases replayed with
    ⟨trace, state, call, rpc, replayed, drawn, running, held, known, phase, buffered⟩
  have run := run_of_replay replayed
  rcases live_call_is_bounded run drawn held running with
    ⟨same, body, before, last, knownToo, _, split, atMostOne, _, bound, _⟩
  cases known.symm.trans knownToo
  exact ⟨trace, state, rpc, body, before, last, run, known, phase, buffered, split, atMostOne,
    bound⟩

end Zpr.GrpcServer
