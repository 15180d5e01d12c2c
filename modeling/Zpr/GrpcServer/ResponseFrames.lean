import Zpr.GrpcServer.ResponseStream

namespace Zpr.GrpcServer

/-! # What a client is sent over a whole run

The histories of all responses, kept by every step of the server, and what they
say about the frames that the client of a call gets to see. -/

/-- The messages written to call `id`, in order. -/
def writes (id : Nat) (trace : List (Action × Reply)) : List Bytes :=
  trace.flatMap (writesOf id)

/-- The outcomes that call `id` was taken out of `live` with. -/
def removals (id : Nat) (trace : List (Action × Reply)) : List (Int × String) :=
  trace.flatMap (removalsOf id)

/-- The outcomes of the completions of call `id` that return `ZPR_OK`. -/
def completions (id : Nat) (trace : List (Action × Reply)) : List (Int × String) :=
  trace.flatMap (completionsOf id)

/-- The answers to the polls of one RPC's response body. -/
def frames (index : Nat) (trace : List (Action × Reply)) : List (Option Frame) :=
  trace.flatMap (framesOf index)

theorem writes_next (id : Nat) (trace : List (Action × Reply)) (event : Action × Reply) :
    writes id (trace ++ [event]) = writes id trace ++ writesOf id event := by
  simp [writes]

theorem removals_next (id : Nat) (trace : List (Action × Reply)) (event : Action × Reply) :
    removals id (trace ++ [event]) = removals id trace ++ removalsOf id event := by
  simp [removals]

theorem frames_next (index : Nat) (trace : List (Action × Reply)) (event : Action × Reply) :
    frames index (trace ++ [event]) = frames index trace ++ framesOf index event := by
  simp [frames]

theorem completions_sublist (id : Nat) (trace : List (Action × Reply)) :
    (completions id trace).Sublist (removals id trace) := by
  induction trace with
  | nil => exact .slnil
  | cons event trace induction =>
      apply List.Sublist.append ?_ induction
      rcases event with ⟨action, reply⟩
      cases action <;> cases reply <;> simp [completionsOf, removalsOf]

/-- A call is taken out of `live` by the host, by the reaper or at the end. -/
theorem removals_cases {FId : Nat} {trace : List (Action × Reply)}
    (removed : outcome ∈ removals FId trace) : outcome ∈ completions FId trace ∨
      outcome = Server.reaperStatus ∨ outcome = Server.freeStatus := by
  rcases List.mem_flatMap.mp removed with ⟨⟨action, reply⟩, member, told⟩
  cases action with
  | reap_loop =>
      cases reply with
      | removed ids =>
          simp only [removalsOf] at told
          split at told
          · exact .inr (.inl (List.mem_singleton.mp told))
          · cases told
      | _ => cases told
  | queue_free =>
      cases reply with
      | removed ids =>
          simp only [removalsOf] at told
          split at told
          · exact .inr (.inr (List.mem_singleton.mp told))
          · cases told
      | _ => cases told
  | complete => exact .inl (List.mem_flatMap.mpr ⟨_, member, told⟩)
  | _ => cases told

/-- The history of every response that is not an immediate error explains its
state. -/
structure Explained (trace : List (Action × Reply)) (state : Server) : Prop where
  consistent : state.Consistent
  undrawn : ∀ id, state.queue.next_id ≤ id → writes id trace = [] ∧ removals id trace = []
  unseen : ∀ index, state.rpcs[index]? = none → frames index trace = []
  history : ∀ index rpc, state.rpcs[index]? = some rpc → rpc.arrival ≠ .refused →
    History (state.response index rpc)
      ((state.idAt index).elim [] fun id => writes id trace)
      ((state.idAt index).elim [] fun id => removals id trace) (frames index trace)

namespace Explained

theorem start : Explained [] .start where
  consistent := .start
  undrawn _ _ := ⟨rfl, rfl⟩
  unseen _ _ := rfl
  history index rpc known := by simp [Server.start] at known

theorem writesOf_of_absent {id : Nat} (taken : serverStep state action = some (next, reply))
    (absent : state.queue.live.find? id = none) : writesOf id (action, reply) = [] := by
  cases action with
  | write call_id data bytes =>
      rcases Server.call_write_cases taken with
        ⟨rc, error, rfl, failed, _⟩ | ⟨call, _, held, _, _, rfl, _⟩
      · simp [writesOf, failed]
      · simp only [writesOf]
        rw [if_neg]
        intro same
        rw [same.1, absent] at held
        cases held
  | _ => rfl

theorem framesOf_of_unknown {index : Nat} (taken : serverStep state action = some (next, reply))
    (unknown : state.rpcs[index]? = none) : framesOf index (action, reply) = [] := by
  cases action with
  | poll_frame target =>
      by_cases own : target = index
      · subst own
        simp [serverStep, Server.poll_frame, unknown] at taken
      · cases reply with
        | polled poll => exact Server.framesOf_other own poll
        | _ => rfl
  | _ => rfl

/-- What the earlier part of the run did under the id that an RPC has now. -/
theorem elim_idAt {Item : Type} {look : Nat → List Item} (change : CallChange state next event)
    (undrawn : ∀ id, state.queue.next_id ≤ id → look id = []) (index : Nat) :
    (next.idAt index).elim [] look = (state.idAt index).elim [] look := by
  rcases change.idAt_cases index with same | ⟨before, now⟩
  · rw [same]
  · rw [before, now]
    exact undrawn _ (Nat.le_refl _)

theorem elim_append {Item : Type} (id? : Option Nat) (first second : Nat → List Item) :
    (id?.elim [] fun id => first id ++ second id) = id?.elim [] first ++ id?.elim [] second := by
  cases id? <;> rfl

theorem step (explained : Explained trace state)
    (taken : serverStep state action = some (next, reply)) :
    Explained (trace ++ [(action, reply)]) next := by
  have change := serverStep_calls taken
  refine ⟨explained.consistent.step change, fun id fresh => ?_, fun index unknown => ?_,
    fun index after found notRefused => ?_⟩
  · have freshBefore := Nat.le_trans change.next_id_le fresh
    have absent := (explained.consistent.absent_of_le freshBefore).1
    rcases explained.undrawn id freshBefore with ⟨noWrites, noRemovals⟩
    rw [writes_next, removals_next, noWrites, noRemovals, writesOf_of_absent taken absent,
      change.removalsOf_of_absent absent]
    exact ⟨rfl, rfl⟩
  · have unknownBefore := serverStep_unknown taken unknown
    rw [frames_next, explained.unseen index unknownBefore, framesOf_of_unknown taken unknownBefore]
    rfl
  · cases known : state.rpcs[index]? with
    | some rpc =>
        have wasNotRefused := serverStep_notRefused taken known found notRefused
        have before := explained.history index rpc known wasNotRefused
        have after := before.step
          (serverStep_responds explained.consistent taken known found notRefused)
        rw [← elim_idAt change fun id fresh => (explained.undrawn id fresh).1,
          ← elim_idAt change fun id fresh => (explained.undrawn id fresh).2,
          ← elim_append, ← elim_append] at after
        simpa only [writes_next, removals_next, frames_next] using after
    | none =>
        rcases serverStep_new_rpc taken known found with ⟨path, body, rfl, rfl⟩
        have undrawn : next.idAt index = none := Server.idAt_of_rpc found
        have outside : next.enteredAt index = none := Server.enteredAt_of_rpc found
        have noFrames : frames index (trace ++ [(.arrive path body, reply)]) = [] := by
          rw [frames_next, explained.unseen index known]
          rfl
        rw [undrawn, noFrames]
        simp only [Server.response, Server.holderAt, outside]
        exact History.opened

end Explained

theorem explained_of_run (run : RunWhere condition serverStep .start trace state) :
    Explained trace state :=
  run.invariant Explained .start fun _ explained _ taken => explained.step taken

theorem Explained.history_of_drawn {id : Nat} (explained : Explained trace state)
    (drawn : state.idAt index = some id) : ∃ rpc, state.rpcs[index]? = some rpc ∧
      History (state.response index rpc) (writes id trace) (removals id trace)
        (frames index trace) := by
  rcases Server.rpc_of_drawn drawn with ⟨rpc, known, notRefused⟩
  have history := explained.history index rpc known notRefused
  rw [drawn, Option.elim_some, Option.elim_some] at history
  exact ⟨rpc, known, history⟩

/-- For every interleaving of host threads, reaper, connection tasks and the end
of the server: what polling the response of an RPC has answered so far is a
prefix of the messages written to its call, in order, then the trailers of the
one removal of the call, then `None` for ever. At most one completion returns
`ZPR_OK`, and it is that removal; a write that is not taken changes nothing. -/
theorem response_frames_of_run (run : Run serverStep .start trace state)
    (drawn : state.idAt index = some call_id) :
    (∃ polls, frames index trace <+:
        expectedFrames (writes call_id trace) (removals call_id trace) polls) ∧
      (removals call_id trace).length ≤ 1 ∧
      (completions call_id trace = [] ∨ ∃ outcome,
        completions call_id trace = [outcome] ∧ removals call_id trace = [outcome]) ∧
      (∀ data bytes next rc error,
        serverStep state (.write call_id data bytes) = some (next, .returned rc error) →
        rc ≠ ZPR_CALL_MESSAGE → next = state) := by
  rcases (explained_of_run run).history_of_drawn drawn with ⟨rpc, _, history⟩
  have atMostOne := history.removals_length_le
  refine ⟨history.isPrefix, atMostOne, ?_, ?_⟩
  · have sublist := completions_sublist call_id trace
    cases completed : completions call_id trace with
    | nil => exact .inl rfl
    | cons outcome others =>
        have positive : 1 ≤ (completions call_id trace).length := by simp [completed]
        have equal := sublist.eq_of_length_le (Nat.le_trans atMostOne positive)
        rw [← equal, completed] at atMostOne
        have single : others = [] := by simpa using atMostOne
        subst single
        exact .inr ⟨outcome, rfl, by rw [← equal, completed]⟩
  · intro data bytes next rc error taken notTaken
    rcases Server.call_write_cases taken with
      ⟨_, _, _, _, unchanged⟩ | ⟨_, _, _, _, _, written, _⟩
    · exact unchanged
    · cases written
      exact absurd rfl notTaken

theorem response_frames_of_unary_call : ∃ trace state index call_id,
    Run serverStep .start trace state ∧ state.idAt index = some call_id ∧
      frames index trace = [shown [7], some (.trailers [("grpc-status", "0")]), none] ∧
      (∃ polls, frames index trace <+:
        expectedFrames (writes call_id trace) (removals call_id trace) polls) ∧
      (removals call_id trace).length ≤ 1 ∧
      (completions call_id trace = [] ∨ ∃ outcome,
        completions call_id trace = [outcome] ∧ removals call_id trace = [outcome]) ∧
      (∀ data bytes next rc error,
        serverStep state (.write call_id data bytes) = some (next, .returned rc error) →
        rc ≠ ZPR_CALL_MESSAGE → next = state) := by
  have replayed : ∃ trace state, replay serverStep .start
      [.arrive "/a" ⟨[], false⟩, .handle_queued 0, .handle_queued 0, .handle_queued 0,
        .handle_queued 0, .handle_queued 0, .write 1 .valid [7], .complete 1 0 none,
        .poll_frame 0, .advance 1, .advance 1, .advance 1, .poll_frame 0, .poll_frame 0] =
          some (trace, state) ∧
      state.idAt 0 = some 1 ∧
      frames 0 trace = [shown [7], some (.trailers [("grpc-status", "0")]), none] :=
    ⟨_, _, rfl, rfl, rfl⟩
  rcases replayed with ⟨trace, state, replayed, drawn, shownFrames⟩
  exact ⟨trace, state, 0, 1, run_of_replay replayed, drawn, shownFrames,
    response_frames_of_run (run_of_replay replayed) drawn⟩

end Zpr.GrpcServer
