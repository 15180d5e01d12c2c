import Zpr.GrpcServer.OutboundBody

namespace Zpr.GrpcServer

/-! # One response and its history

The response side of one RPC on its own: who holds the channel's sender and
the status sender, and what everything that can happen to the response makes of
it. The history of a response is the messages written to it, the outcomes its
call was removed with, and the answers that polling its body gave. -/

/-- Who has the `LiveCall` of an RPC. -/
inductive Holder
  /-- `handle_queued`, which has not put it into `live` yet -/
  | handler
  | live
  /-- whoever took it out of `live`, with the status sent or still to be sent -/
  | remover (outcome : Int × String) (answered : Bool)
  /-- nobody: it has been dropped -/
  | nobody
  deriving DecidableEq, Repr

structure Response where
  holder : Holder
  connected : Bool
  body : OutboundBody
  deriving DecidableEq, Repr

/-- One event in the life of a response, with what it adds to the history. -/
inductive ResponseChange (response : Response) :
    List Bytes → List (Int × String) → List (Option Frame) → Response → Prop
  | same : ResponseChange response [] [] [] response
  | entered (holder : response.holder = .handler) :
      ResponseChange response [] [] [] { response with holder := .live }
  | written (msg : Bytes) (holder : response.holder = .live)
      (alive : response.body.rx.receiverAlive = true) :
      ResponseChange response [msg] [] [] { response with
        body := { response.body with
          rx := { response.body.rx with buffer := response.body.rx.buffer ++ [msg] } } }
  | taken (outcome : Int × String) (holder : response.holder = .live) :
      ResponseChange response [] [outcome] [] { response with holder := .remover outcome false }
  | answered (outcome : Int × String) (holder : response.holder = .remover outcome false) :
      ResponseChange response [] [] [] { response with
        holder := .remover outcome true
        body := { response.body with status_rx := response.body.status_rx.send outcome } }
  | dropped (outcome : Int × String) (holder : response.holder = .remover outcome true) :
      ResponseChange response [] [] [] { response with
        holder := .nobody
        body := { response.body with rx := response.body.rx.dropSender } }
  | polled (body : OutboundBody) (frame : Option Frame) (connected : response.connected = true)
      (ready : response.body.poll_frame = (body, .ready frame)) :
      ResponseChange response [] [] [frame] { response with body := body }
  | waited (body : OutboundBody) (connected : response.connected = true)
      (pending : response.body.poll_frame = (body, .pending)) :
      ResponseChange response [] [] [] { response with body := body }
  | hungUp :
      ResponseChange response [] [] [] { response with
        connected := false
        body := { response.body with rx := response.body.rx.dropReceiver } }

/-- What a poll answers for a message. -/
def shown (msg : Bytes) : Option Frame := some (.data (encode_grpc_frame msg))

namespace OutboundBody

/-- There is nothing left to show but the status. -/
def AtStatus (body : OutboundBody) : Prop :=
  body.state = .awaitingStatus ∨
    body.state = .streaming ∧ body.rx.buffer = [] ∧ body.rx.senderAlive = false

theorem poll_status_of_sent {body : OutboundBody} (sent : body.status_rx = .sent outcome) :
    body.poll_status = ({ body with status_rx := .received, state := .done },
      .ready (some (.trailers (trailers outcome.1 outcome.2)))) := by
  simp [poll_status, Oneshot.poll, sent]

theorem poll_status_of_waiting {body : OutboundBody} (waiting : body.status_rx = .waiting) :
    body.poll_status = (body, .pending) := by
  simp only [poll_status, Oneshot.poll, waiting]
  rw [← waiting]

/-- A poll shows a message, finds that there is none yet, turns to the status or finds
the end. -/
theorem poll_frame_spec (body : OutboundBody) :
    (∃ msg buffer, body.state = .streaming ∧ body.rx.buffer = msg :: buffer ∧
      body.poll_frame =
        ({ body with rx := { body.rx with buffer := buffer } }, .ready (shown msg))) ∨
    (body.state = .streaming ∧ body.rx.buffer = [] ∧ body.rx.senderAlive = true ∧
      body.poll_frame = (body, .pending)) ∨
    (body.AtStatus ∧ body.poll_frame = poll_status { body with state := .awaitingStatus }) ∨
    (body.state = .done ∧ body.poll_frame = (body, .ready none)) := by
  cases state : body.state with
  | done => exact .inr (.inr (.inr ⟨rfl, by simp [poll_frame, state]⟩))
  | awaitingStatus =>
      refine .inr (.inr (.inl ⟨.inl state, ?_⟩))
      simp only [poll_frame, state]
      rw [← state]
  | streaming =>
      rcases body.rx.tryRecv_cases with
        ⟨msg, buffer, held, received⟩ | ⟨empty, alive, received⟩ | ⟨empty, dead, received⟩
      · refine .inl ⟨msg, buffer, rfl, held, ?_⟩
        simp [poll_frame, state, received, shown]
      · refine .inr (.inl ⟨rfl, empty, alive, ?_⟩)
        simp only [poll_frame, state, received]
        rw [← state]
      · refine .inr (.inr (.inl ⟨.inr ⟨state, empty, dead⟩, ?_⟩))
        simp only [poll_frame, state, received]

end OutboundBody

/-- How a response ends: the trailers, and then `None` for every further poll. -/
def closing (polls : Nat) (outcome : Int × String) : List (Option Frame) :=
  some (.trailers (trailers outcome.1 outcome.2)) :: List.replicate polls none

/-- The answers that polling a response is to give, in order. -/
def expectedFrames (writes : List Bytes) (removals : List (Int × String)) (polls : Nat) :
    List (Option Frame) :=
  writes.map shown ++ removals.flatMap (closing polls)

theorem trailers_not_mem_shown (messages : List Bytes) (map : HeaderMap) :
    some (.trailers map) ∉ messages.map shown := by
  intro member
  rcases List.mem_map.mp member with ⟨msg, _, same⟩
  cases same

theorem trailers_of_mem {written : List Bytes} {removals : List (Int × String)} {polls : Nat}
    {map : HeaderMap} (member : some (.trailers map) ∈ expectedFrames written removals polls) :
    ∃ outcome ∈ removals, map = trailers outcome.1 outcome.2 := by
  rcases List.mem_append.mp member with data | closing
  · exact absurd data (trailers_not_mem_shown written map)
  · rcases List.mem_flatMap.mp closing with ⟨outcome, removed, member⟩
    rcases List.mem_cons.mp member with same | later
    · cases same
      exact ⟨outcome, removed, rfl⟩
    · cases List.eq_of_mem_replicate later

/-- Where the sender ends stand, against the removals so far. -/
def Holder.Agrees (body : OutboundBody) (removals : List (Int × String)) : Holder → Prop
  | .handler | .live =>
      removals = [] ∧ body.status_rx = .waiting ∧ body.rx.senderAlive = true ∧
        body.state = .streaming
  | .remover outcome answered =>
      removals = [outcome] ∧
        body.status_rx = (if answered then .sent outcome else .waiting) ∧
        body.rx.senderAlive = true ∧ body.state = .streaming
  | .nobody =>
      ∃ outcome, removals = [outcome] ∧ body.rx.senderAlive = false ∧
        (body.state = .done ∨ body.status_rx = .sent outcome)

/-- What the frames so far and the channel's buffer make up together. -/
def Delivered (body : OutboundBody) (writes : List Bytes) (removals : List (Int × String))
    (frames : List (Option Frame)) : Prop :=
  match body.state with
  | .streaming => frames ++ body.rx.buffer.map shown = writes.map shown
  | .awaitingStatus => body.rx.buffer = [] ∧ frames = writes.map shown
  | .done => ∃ polls outcome, removals = [outcome] ∧
      frames = writes.map shown ++ closing polls outcome

/-- The history of a response explains its state. -/
structure History (response : Response) (writes : List Bytes) (removals : List (Int × String))
    (frames : List (Option Frame)) : Prop where
  agrees : response.holder.Agrees response.body removals
  alive : response.body.rx.receiverAlive = response.connected
  delivered : response.connected = true → Delivered response.body writes removals frames
  cut : response.connected = false → ∃ polls, frames <+: expectedFrames writes removals polls

/-- The four things that a poll can find, given where the sender ends stand. -/
theorem poll_frame_cases {body : OutboundBody} {holder : Holder}
    (agrees : holder.Agrees body removals) :
    (∃ msg buffer, body.state = .streaming ∧ body.rx.buffer = msg :: buffer ∧
      body.poll_frame =
        ({ body with rx := { body.rx with buffer := buffer } }, .ready (shown msg))) ∨
    body.poll_frame = (body, .pending) ∨
    (∃ outcome, holder = .nobody ∧ removals = [outcome] ∧ body.rx.senderAlive = false ∧
      (body.state = .awaitingStatus ∨ body.state = .streaming ∧ body.rx.buffer = []) ∧
      body.poll_frame = ({ body with status_rx := .received, state := .done },
        .ready (some (.trailers (trailers outcome.1 outcome.2))))) ∨
    (body.state = .done ∧ body.poll_frame = (body, .ready none)) := by
  rcases body.poll_frame_spec with shows | ⟨_, _, _, waits⟩ | ⟨atStatus, polls⟩ | ended
  · exact .inl shows
  · exact .inr (.inl waits)
  · cases holder with
    | handler | live | remover =>
        rcases atStatus with awaiting | ⟨_, _, dead⟩
        · simp [Holder.Agrees, awaiting] at agrees
        · simp [Holder.Agrees, dead] at agrees
    | nobody =>
        rcases agrees with ⟨outcome, removed, dropped, done | sent⟩
        · simp [OutboundBody.AtStatus, done] at atStatus
        · refine .inr (.inr (.inl ⟨outcome, rfl, removed, dropped, ?_, ?_⟩))
          · exact atStatus.imp_right fun streaming => ⟨streaming.1, streaming.2.1⟩
          · exact polls.trans (OutboundBody.poll_status_of_sent sent)
  · exact .inr (.inr (.inr ended))

theorem isPrefix_of_delivered {body : OutboundBody}
    (delivered : Delivered body writes removals frames) :
    ∃ polls, frames <+: expectedFrames writes removals polls := by
  unfold Delivered at delivered
  cases state : body.state with
  | streaming =>
      simp only [state] at delivered
      refine ⟨0, List.IsPrefix.trans ⟨body.rx.buffer.map shown, delivered⟩ ?_⟩
      exact List.prefix_append _ _
  | awaitingStatus =>
      simp only [state] at delivered
      rw [delivered.2]
      exact ⟨0, List.prefix_append _ _⟩
  | done =>
      simp only [state] at delivered
      rcases delivered with ⟨polls, outcome, rfl, rfl⟩
      exact ⟨polls, by simp [expectedFrames]⟩

namespace History

theorem opened : History ⟨.handler, true, .opened⟩ [] [] [] where
  agrees := ⟨rfl, rfl, rfl, rfl⟩
  alive := rfl
  delivered _ := rfl
  cut closed := nomatch closed

theorem isPrefix (history : History response writes removals frames) :
    ∃ polls, frames <+: expectedFrames writes removals polls := by
  cases connected : response.connected with
  | true => exact isPrefix_of_delivered (history.delivered connected)
  | false => exact history.cut connected

theorem removals_length_le (history : History response writes removals frames) :
    removals.length ≤ 1 := by
  have agrees := history.agrees
  cases holder : response.holder with
  | handler | live =>
      rw [holder] at agrees
      simp [agrees.1]
  | remover outcome answered =>
      rw [holder] at agrees
      simp [agrees.1]
  | nobody =>
      rw [holder] at agrees
      rcases agrees with ⟨outcome, removed, _⟩
      simp [removed]

theorem step_polled (history : History response writes removals frames)
    (connected : response.connected = true)
    (ready : response.body.poll_frame = (body, .ready frame)) :
    History { response with body := body } writes removals (frames ++ [frame]) := by
  rcases response with ⟨holder, isConnected, before⟩
  rcases history with ⟨agrees, alive, whileConnected, _⟩
  dsimp only at connected ready alive agrees
  have delivered : Delivered before writes removals frames := whileConnected connected
  subst connected
  rcases poll_frame_cases agrees with
    ⟨msg, buffer, state, held, result⟩ | pending |
    ⟨outcome, rfl, removed, dropped, ended, result⟩ | ⟨state, result⟩
  · rw [result, Prod.mk.injEq, PollFrame.ready.injEq] at ready
    rcases ready with ⟨rfl, rfl⟩
    refine ⟨by cases holder <;> exact agrees, alive, fun _ => ?_, fun closed => nomatch closed⟩
    simpa [Delivered, state, held] using delivered
  · rw [pending] at ready
    cases ready
  · rw [result, Prod.mk.injEq, PollFrame.ready.injEq] at ready
    rcases ready with ⟨rfl, rfl⟩
    have shownAll : frames = writes.map shown := by
      rcases ended with awaiting | ⟨streaming, empty⟩
      · simp only [Delivered, awaiting] at delivered
        exact delivered.2
      · simpa [Delivered, streaming, empty] using delivered
    refine ⟨⟨outcome, removed, dropped, .inl rfl⟩, alive, fun _ => ⟨0, outcome, removed, ?_⟩,
      fun closed => nomatch closed⟩
    rw [shownAll]
    rfl
  · rw [result, Prod.mk.injEq, PollFrame.ready.injEq] at ready
    rcases ready with ⟨rfl, rfl⟩
    simp only [Delivered, state] at delivered
    rcases delivered with ⟨polls, outcome, removed, rfl⟩
    refine ⟨agrees, alive, fun _ => ?_, fun closed => nomatch closed⟩
    simp only [Delivered, state]
    refine ⟨polls + 1, outcome, removed, ?_⟩
    simp [closing, List.replicate_succ']

theorem step_waited (history : History response writes removals frames)
    (pending : response.body.poll_frame = (body, .pending)) :
    History { response with body := body } writes removals frames := by
  rcases poll_frame_cases history.agrees with
    ⟨_, _, _, _, result⟩ | result | ⟨_, _, _, _, _, result⟩ | ⟨_, result⟩
  · rw [result] at pending
    cases pending
  · rw [result, Prod.mk.injEq] at pending
    rw [← pending.1]
    exact history
  · rw [result] at pending
    cases pending
  · rw [result] at pending
    cases pending

/-- The history goes on explaining the response, whatever happens to it. -/
theorem step (history : History response writes removals frames)
    (change : ResponseChange response newWrites newRemovals newFrames next) :
    History next (writes ++ newWrites) (removals ++ newRemovals) (frames ++ newFrames) := by
  rcases response with ⟨holder, isConnected, body⟩
  cases change with
  | same => simpa only [List.append_nil] using history
  | entered isHandler =>
      rcases history with ⟨agrees, alive, delivered, cut⟩
      simp only [List.append_nil]
      dsimp only at isHandler
      subst isHandler
      exact ⟨agrees, alive, delivered, cut⟩
  | written msg isLive receiving =>
      rcases history with ⟨agrees, alive, delivered, _⟩
      simp only [List.append_nil]
      dsimp only at isLive receiving alive
      subst isLive
      rcases agrees with ⟨notRemoved, waiting, sending, (streaming : body.state = .streaming)⟩
      refine ⟨⟨notRemoved, waiting, sending, streaming⟩, alive, fun connected => ?_,
        fun closed => ?_⟩
      · have before : Delivered body writes removals frames := delivered connected
        simp only [Delivered, streaming] at before ⊢
        rw [List.map_append, ← List.append_assoc, before, List.map_append]
      · rw [alive] at receiving
        rw [receiving] at closed
        cases closed
  | taken outcome isLive =>
      rcases history with ⟨agrees, alive, delivered, cut⟩
      simp only [List.append_nil]
      dsimp only at isLive
      subst isLive
      rcases agrees with ⟨rfl, waiting, sending, (streaming : body.state = .streaming)⟩
      refine ⟨⟨rfl, waiting, sending, streaming⟩, alive, fun connected => ?_, fun closed => ?_⟩
      · have before : Delivered body writes [] frames := delivered connected
        simpa only [Delivered, streaming] using before
      · rcases cut closed with ⟨polls, isPrefix⟩
        refine ⟨polls, isPrefix.trans ?_⟩
        simp [expectedFrames]
  | answered outcome isTaken =>
      rcases history with ⟨agrees, alive, delivered, cut⟩
      simp only [List.append_nil]
      dsimp only at isTaken
      subst isTaken
      rcases agrees with ⟨removed, (waiting : body.status_rx = .waiting), sending,
        (streaming : body.state = .streaming)⟩
      have sent : body.status_rx.send outcome = .sent outcome := by
        simp [waiting, Oneshot.send]
      refine ⟨⟨removed, sent, sending, streaming⟩, alive, fun connected => ?_, cut⟩
      have before : Delivered body writes removals frames := delivered connected
      simpa only [Delivered, streaming] using before
  | dropped outcome isAnswered =>
      rcases history with ⟨agrees, alive, delivered, cut⟩
      simp only [List.append_nil]
      dsimp only at isAnswered
      subst isAnswered
      rcases agrees with ⟨removed, sent, sending, streaming⟩
      exact ⟨⟨outcome, removed, rfl, .inr sent⟩, alive, delivered, cut⟩
  | polled after frame connected ready =>
      simp only [List.append_nil]
      exact history.step_polled connected ready
  | waited after connected pending =>
      simp only [List.append_nil]
      exact history.step_waited pending
  | hungUp =>
      simp only [List.append_nil]
      refine ⟨?_, rfl, ?_, fun _ => history.isPrefix⟩
      · cases holder <;> exact history.agrees
      · intro connected
        cases connected

end History

end Zpr.GrpcServer
