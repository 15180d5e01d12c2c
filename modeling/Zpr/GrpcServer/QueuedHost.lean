import Zpr.GrpcServer.AcceptedCalls
import Zpr.GrpcServer.CallConservation
import Zpr.GrpcServer.ConnectedCalls
import Zpr.GrpcServer.HostProgram

namespace Zpr.GrpcServer

open Ffi

/-! # A host program in queued mode

The host accepts a call and then polls: it repeats a read that finds nothing, a read into
a buffer that is too short and a write that finds no room, until its program can go on. -/

/-- What an event shows to the host program of call `id`. -/
def queuedEventsOf (id : Nat) : Action × Reply → List HostEvent
  | (.read_into call_id _, .read reply) =>
      if call_id = id then
        if reply.rc = ZPR_CALL_MESSAGE then [.read reply.written]
        else if reply.rc = ZPR_CALL_CLIENT_DONE then [.client_done]
        else []
      else []
  | (.write call_id _ bytes, .returned rc _) =>
      if call_id = id then
        if rc = ZPR_CALL_MESSAGE then [.wrote bytes]
        else if rc = ZPR_ERR then [.refused bytes]
        else []
      else []
  | _ => []

def queuedEvents (id : Nat) (trace : List (Action × Reply)) : List HostEvent :=
  trace.flatMap (queuedEventsOf id)

/-- What a callee finds of a text that is handed over with a NUL after it. -/
def c_string (text : String) : Bytes := (as_bytes text ++ [0]).takeWhile (· ≠ 0)

/-- What a host does that serves a call with a program. It takes the id of every call that
it accepts, uses the id of this one when it has it, and frees the queue only when the
server has been stopped. Whatever else it does is up to it. -/
def ServesCall (program : HostProgram) (call_id : Nat) (trace : List (Action × Reply)) :
    Action → Prop
  | .accept out_call_id _ => out_call_id = .valid
  | .read_into id _ => id = call_id → call_id ∈ acceptedIds trace ∧
      program (queuedEvents call_id trace) = .read
  | .write id data bytes => id = call_id → call_id ∈ acceptedIds trace ∧
      program (queuedEvents call_id trace) = .write bytes ∧ (bytes ≠ [] → data = .valid)
  | .complete id grpc_status message => id = call_id → call_id ∈ acceptedIds trace ∧
      ∃ text, program (queuedEvents call_id trace) = .finish grpc_status text ∧
        (message = some (c_string text) ∨ text = "" ∧ message = none)
  | .queue_free => ∃ reply, (.server_stop, reply) ∈ trace
  | _ => True

/-- The texts that a program finishes with have no NUL in them. -/
def NulFree (program : HostProgram) : Prop :=
  ∀ history status message, program history = .finish status message → 0 ∉ as_bytes message

theorem c_string_of_nul_free {text : String} (free : 0 ∉ as_bytes text) :
    c_string text = as_bytes text := by
  have all : ∀ byte ∈ as_bytes text, decide (byte ≠ 0) = true := by
    intro byte member
    rw [decide_eq_true_eq]
    rintro rfl
    exact free member
  rw [c_string, List.takeWhile_append_of_pos all]
  simp

theorem status_message_of_text {text : String} (free : 0 ∉ as_bytes text)
    (given : message = some (c_string text) ∨ text = "" ∧ message = none) :
    Server.status_message message = .ok text := by
  rcases given with rfl | ⟨rfl, rfl⟩
  · rw [c_string_of_nul_free free, Server.status_message, cstr_to_str, fromUTF8_as_bytes]
  · rfl

@[simp] theorem queuedEvents_next (id : Nat) (trace : List (Action × Reply))
    (event : Action × Reply) :
    queuedEvents id (trace ++ [event]) = queuedEvents id trace ++ queuedEventsOf id event := by
  simp [queuedEvents]

theorem messagesRead_queuedEvents (id : Nat) (trace : List (Action × Reply)) :
    messagesRead (queuedEvents id trace) = delivered id trace := by
  rw [messagesRead, queuedEvents, delivered, List.flatMap_assoc]
  congr 1
  funext event
  rcases event with ⟨action, reply⟩
  cases action <;> cases reply <;> try rfl
  · rename_i call_id buffer reply
    by_cases own : call_id = id
    · simp only [queuedEventsOf, deliveredOf, own, if_true, true_and]
      split
      · rfl
      · split <;> rfl
    · simp [queuedEventsOf, deliveredOf, own]
  · simp only [queuedEventsOf]
    split
    · split
      · rfl
      · split <;> rfl
    · rfl

theorem messagesWritten_queuedEvents (id : Nat) (trace : List (Action × Reply)) :
    messagesWritten (queuedEvents id trace) = writes id trace := by
  rw [messagesWritten, queuedEvents, writes, List.flatMap_assoc]
  congr 1
  funext event
  rcases event with ⟨action, reply⟩
  cases action <;> cases reply <;> try rfl
  · rename_i call_id buffer reply
    by_cases own : call_id = id
    · simp only [queuedEventsOf, own, if_true]
      split
      · rfl
      · split <;> rfl
    · simp [queuedEventsOf, writesOf, own]
  · rename_i call_id data bytes rc error
    by_cases own : call_id = id
    · simp only [queuedEventsOf, writesOf, own, if_true, true_and]
      split
      · rfl
      · split <;> rfl
    · simp [queuedEventsOf, writesOf, own]

section Serving

variable {program : HostProgram} {call_id : Nat}

/-- A host that does not have the id yet has seen nothing of the call. -/
theorem queuedEvents_of_unaccepted
    (run : GuidedRun (ServesCall program call_id) serverStep .start trace state)
    (unaccepted : call_id ∉ acceptedIds trace) : queuedEvents call_id trace = [] := by
  induction run with
  | start => rfl
  | @next trace state action _ reply earlier serves taken induction =>
      have before : call_id ∉ acceptedIds trace := by
        intro member
        apply unaccepted
        rw [acceptedIds_next]
        exact List.mem_append_left _ member
      rw [queuedEvents_next, induction before, List.nil_append]
      cases action with
      | read_into id buffer =>
          have other : id ≠ call_id := fun own => before (serves own).1
          cases reply with
          | read answer => simp [queuedEventsOf, other]
          | _ => rfl
      | write id data bytes =>
          have other : id ≠ call_id := fun own => before (serves own).1
          cases reply with
          | returned rc error => simp [queuedEventsOf, other]
          | _ => rfl
      | _ => rfl

/-- The call of an RPC with a given request body, neither refused nor reaped, whose client
is still connected. -/
structure Serving (trace : List (Action × Reply)) (state : Server) (index call_id : Nat)
    (body : RequestBody) (rpc : Rpc) : Prop where
  drawn : state.idAt index = some call_id
  brought : (bodies trace)[index]? = some body
  known : state.rpcs[index]? = some rpc
  connected : rpc.connected = true
  notReaped : reapings call_id trace = []

namespace Serving

variable {index : Nat} {body : RequestBody} {rpc : Rpc} {trace : List (Action × Reply)}
  {state : Server}

theorem notRefused (serving : Serving trace state index call_id body rpc) :
    rpc.arrival ≠ .refused := by
  rcases Server.rpc_of_drawn serving.drawn with ⟨_, known, notRefused⟩
  cases serving.known.symm.trans known
  exact notRefused

theorem running (serving : Serving trace state index call_id body rpc)
    (connections : Connections state) : state.running = true :=
  connections.running index rpc serving.known serving.notRefused serving.connected

/-- It has been so for as long as the call has had its id. -/
theorem before {after : Rpc} (lossless : Lossless trace state)
    (taken : serverStep state action = some (next, reply))
    (serving : Serving (trace ++ [(action, reply)]) next index call_id body after) :
    (∃ rpc, Serving trace state index call_id body rpc) ∨
      state.queue.next_id = call_id ∧ action.handles = true := by
  rcases (serverStep_calls taken).idAt_cases index with same | ⟨undrawn, now⟩
  · left
    have drawn : state.idAt index = some call_id := same.symm.trans serving.drawn
    rcases Server.rpc_of_drawn drawn with ⟨rpc, known, _⟩
    have brought := serving.brought
    rw [lossless.body_stays known] at brought
    have notReaped := serving.notReaped
    rw [reapings_next, List.append_eq_nil_iff] at notReaped
    exact ⟨rpc, drawn, brought, known, Connections.connected_before lossless.consistent taken known
      serving.known serving.notRefused serving.connected, notReaped.1⟩
  · right
    have equal := now.symm.trans serving.drawn
    refine ⟨Option.some.inj equal, ?_⟩
    apply Bool.of_not_eq_false
    intro elsewhere
    have arrivals := serverStep_arrivalAt taken elsewhere index
    rw [Server.idAt_eq_arrivalAt] at undrawn now
    rcases arrivals with same | ⟨_, arrived⟩
    · rw [same, undrawn] at now
      cases now
    · rw [arrived] at now
      cases now

/-- It stays so as long as the client stays and the reaper does not take the call. -/
theorem next {after : Rpc} {nextState : Server} (serving : Serving trace state index call_id body rpc)
    (lossless : Lossless trace state)
    (taken : serverStep state action = some (nextState, reply))
    (found : nextState.rpcs[index]? = some after) (connected : after.connected = true)
    (notReaped : reapingsOf call_id (action, reply) = []) :
    Serving (trace ++ [(action, reply)]) nextState index call_id body after := by
  refine ⟨?_, ?_, found, connected, ?_⟩
  · rcases (serverStep_calls taken).idAt_cases index with same | ⟨undrawn, _⟩
    · exact same.trans serving.drawn
    · rw [serving.drawn] at undrawn
      cases undrawn
  · rw [lossless.body_stays serving.known]
    exact serving.brought
  · rw [reapings_next, serving.notReaped, notReaped]
    rfl

end Serving

/-- What is written to a call that is not over is taken or has to wait, as long as the
client is there. -/
theorem write_not_refused {index : Nat} {body : RequestBody} {rpc : Rpc}
    (run : GuidedRun (ServesCall program call_id) serverStep .start trace state)
    (serving : Serving trace state index call_id body rpc)
    (accepted : call_id ∈ acceptedIds trace) (unremoved : removals call_id trace = [])
    (given : bytes ≠ [] → data = .valid)
    (taken : state.call_write call_id data bytes = some (next, .returned rc error)) :
    rc ≠ ZPR_ERR := by
  have explained := explained_of_run run.run
  rcases ((lined_of_run run.run).accepted call_id accepted).2 with ⟨target, ms, pushed⟩
  have entered := Lined.enteredAt_of_arrivalAt pushed
  rcases removals_of_entered explained entered with ⟨⟨call, held⟩, _⟩ | ⟨_, _, once⟩
  · rcases (explained.consistent.live call_id call held).1.entered with ⟨ms, own⟩
    have same := explained.consistent.distinct _ _ _ serving.drawn (Server.idAt_of_enteredAt own)
    rcases explained.history_of_drawn serving.drawn with ⟨_, known, history⟩
    cases serving.known.symm.trans known
    have alive : rpc.body.rx.receiverAlive = true := history.alive.trans serving.connected
    have notNull : ¬ (bytes ≠ [] ∧ data = .null) := by
      rintro ⟨nonempty, isNull⟩
      cases isNull.symm.trans (given nonempty)
    simp only [Server.call_write, notNull, if_false, held, ← same, serving.known,
      Option.map_some, Option.some.injEq] at taken
    rcases rpc.body.rx.trySend_cases bytes with ⟨_, dead⟩ | ⟨result, _⟩ | ⟨result, _⟩
    · rw [alive] at dead
      cases dead
    · rw [result] at taken
      cases taken
      decide
    · rw [result] at taken
      cases taken
      decide
  · rw [unremoved] at once
    cases once

/-- What the host sees of the call is what its program and the request say. -/
theorem queuedEventsOf_cases {index : Nat} {body : RequestBody} {rpc : Rpc}
    (run : GuidedRun (ServesCall program call_id) serverStep .start trace state)
    (serving : Serving trace state index call_id body rpc)
    (ended : removals call_id trace <+: (program (queuedEvents call_id trace)).outcome)
    (serves : ServesCall program call_id trace action)
    (taken : serverStep state action = some (next, reply)) :
    queuedEventsOf call_id (action, reply) = [] ∨
      ∃ event, queuedEventsOf call_id (action, reply) = [event] ∧
        nextEvent program body.messages (queuedEvents call_id trace) = some event ∧
        removalsOf call_id (action, reply) = [] := by
  have lossless := lossless_of_run run.run
  cases action with
  | read_into id buffer =>
      by_cases own : id = call_id
      · subst own
        rcases serves rfl with ⟨_, reads⟩
        rcases Server.call_read_into_cases taken with
          ⟨_, _, rfl⟩ | ⟨call, _, _, _, answer, held, _, _, rfl, _⟩
        · left
          simp [queuedEventsOf, ZPR_ERR, ZPR_CALL_MESSAGE, ZPR_CALL_CLIENT_DONE]
        · by_cases message : answer.rc = ZPR_CALL_MESSAGE
          · refine .inr ⟨.read answer.written, by simp [queuedEventsOf, message], ?_, rfl⟩
            have runNext := Run.next run.run taken
            have calls := (Server.call_read_into_calls taken).sameCalls
            have drawnNext := (calls.idAt index).trans serving.drawn
            rcases (lossless_of_run runNext).history_of_drawn drawnNext with
              ⟨_, sameBody, _, brought, history⟩
            rw [lossless.body_stays serving.known, serving.brought] at brought
            cases brought
            have isPrefix := history.returned_prefix.trans history.isPrefix
            rw [delivered_next, deliveredOf, if_pos ⟨rfl, message⟩] at isPrefix
            rcases isPrefix with ⟨rest, whole⟩
            apply nextEvent_of_read reads
            rw [messagesRead_queuedEvents, ← whole]
            simp
          · by_cases done : answer.rc = ZPR_CALL_CLIENT_DONE
            · refine .inr ⟨.client_done, ?_, ?_, rfl⟩
              · simp [queuedEventsOf, done, ZPR_CALL_CLIENT_DONE, ZPR_CALL_MESSAGE]
              · rcases read_into_done lossless serving.drawn held taken done serving.known with
                  ⟨_, nothing, ended⟩
                rcases lossless.all_of_done serving.drawn held serving.known serving.brought nothing
                  ended with ⟨_, _, whole⟩
                apply nextEvent_of_done reads
                rw [messagesRead_queuedEvents]
                exact whole (serving.running (connections_of_run run.run))
            · exact .inl (by simp [queuedEventsOf, message, done])
      · left
        cases reply with
        | read answer => simp [queuedEventsOf, own]
        | _ => rfl
  | write id data bytes =>
      by_cases own : id = call_id
      · subst own
        rcases serves rfl with ⟨accepted, writes, given⟩
        rcases Server.call_write_cases taken with
          ⟨rc, error, rfl, failed, _⟩ | ⟨_, _, _, _, _, rfl, _⟩
        · have unremoved : removals id trace = [] := by
            rw [writes] at ended
            exact List.prefix_nil.mp ended
          have waits := write_not_refused run serving accepted unremoved given taken
          exact .inl (by simp [queuedEventsOf, failed, waits])
        · exact .inr ⟨.wrote bytes, by simp [queuedEventsOf], nextEvent_of_write writes, rfl⟩
      · left
        cases reply with
        | returned rc error => simp [queuedEventsOf, own]
        | _ => rfl
  | _ => exact .inl rfl

/-- What takes the call out of `live` is its completion, with what the program finishes
with. -/
theorem removalsOf_cases {index : Nat} {body : RequestBody} {rpc : Rpc} (nulFree : NulFree program)
    (run : GuidedRun (ServesCall program call_id) serverStep .start trace state)
    (serving : Serving trace state index call_id body rpc)
    (serves : ServesCall program call_id trace action)
    (taken : serverStep state action = some (next, reply))
    (notReaped : reapingsOf call_id (action, reply) = []) :
    removalsOf call_id (action, reply) = [] ∨
      removalsOf call_id (action, reply) = (program (queuedEvents call_id trace)).outcome := by
  cases action with
  | complete id grpc_status message =>
      rcases Server.call_complete_cases (Option.some.inj taken) with
        ⟨error, rfl, _⟩ | ⟨msg, call, told, _, rfl, _⟩
      · left
        simp only [removalsOf, completionsOf]
        split <;> simp [ZPR_ERR, ZPR_OK]
      · simp only [removalsOf, completionsOf, told]
        by_cases own : id = call_id
        · rcases serves own with ⟨_, text, finishes, given⟩
          have same := status_message_of_text (nulFree _ _ _ finishes) given
          cases told.symm.trans same
          rw [finishes, if_pos ⟨own, trivial⟩]
          exact .inr rfl
        · exact .inl (if_neg fun both => own both.1)
  | reap_loop =>
      left
      cases reply with
      | removed ids => exact notReaped
      | _ => rfl
  | queue_free =>
      rcases serves with ⟨stopReply, stopped⟩
      have running := serving.running (connections_of_run run.run)
      rw [stopped_of_mem run.run stopped] at running
      cases running
  | _ => exact .inl rfl

/-- An id that has been accepted has been drawn. -/
theorem not_accepted_of_fresh (lined : Lined trace state) (fresh : state.queue.next_id = call_id) :
    call_id ∉ acceptedIds trace := by
  intro member
  rcases (lined.accepted call_id member).2 with ⟨index, ms, queued⟩
  have drawn : state.idAt index = some call_id := Lined.idAt_of_arrivalAt queued
  have below := lined.consistent.below _ _ drawn
  omega

/-- As long as the call is served, the host has seen what its program and the request
say, and the call has been taken out of `live` at most by the outcome of the program. -/
theorem queued_reached {index : Nat} {body : RequestBody} {rpc : Rpc} (nulFree : NulFree program)
    (run : GuidedRun (ServesCall program call_id) serverStep .start trace state)
    (serving : Serving trace state index call_id body rpc) :
    (∃ stage, historyAt program body.messages stage = queuedEvents call_id trace) ∧
      removals call_id trace <+: (program (queuedEvents call_id trace)).outcome := by
  induction run generalizing rpc with
  | start =>
      have drawn := serving.drawn
      simp [Server.idAt, Server.start] at drawn
  | @next trace state action next reply earlier serves taken induction =>
      have explained := explained_of_run (Run.next earlier.run taken)
      have notReaped := serving.notReaped
      rw [reapings_next, List.append_eq_nil_iff] at notReaped
      have removed := removals_next call_id trace (action, reply)
      rcases serving.before (lossless_of_run earlier.run) taken with
        ⟨before, servingBefore⟩ | ⟨fresh, handles⟩
      · rcases induction servingBefore with ⟨reached, ended⟩
        rcases queuedEventsOf_cases earlier servingBefore ended serves taken with
          quiet | ⟨event, shows, moves, stays⟩
        · rw [queuedEvents_next, quiet, List.append_nil]
          refine ⟨reached, ?_⟩
          cases former : removals call_id trace with
          | nil =>
              rw [removed, former, List.nil_append]
              rcases removalsOf_cases nulFree earlier servingBefore serves taken notReaped.2 with
                stays | finishes
              · rw [stays]
                exact List.nil_prefix
              · rw [finishes]
          | cons outcome others =>
              -- a call is taken out once
              rcases explained.history_of_drawn serving.drawn with ⟨_, _, history⟩
              have once := history.removals_length_le
              rw [removed, former, List.length_append, List.length_cons] at once
              have stays : removalsOf call_id (action, reply) = [] :=
                List.length_eq_zero_iff.mp (by omega)
              rw [removed, stays, List.append_nil]
              exact ended
        · have unfinished : (program (queuedEvents call_id trace)).outcome = [] := by
            rcases nextEvent_cases program body.messages (queuedEvents call_id trace) with
              ⟨_, _, unfinished⟩ | ⟨_, _, _, finished⟩
            · exact unfinished
            · rw [moves] at finished
              cases finished
          rw [unfinished, List.prefix_nil] at ended
          rw [queuedEvents_next, shows, removed, ended, stays]
          exact ⟨reached_next reached moves, List.nil_prefix⟩
      · have unseen := queuedEvents_of_unaccepted earlier
          (not_accepted_of_fresh (lined_of_run earlier.run) fresh)
        have unremoved := ((explained_of_run earlier.run).undrawn call_id (Nat.le_of_eq fresh)).2
        rw [queuedEvents_next, removed, unseen, unremoved]
        cases action with
        | handle_queued => exact ⟨⟨0, rfl⟩, List.nil_prefix⟩
        | _ => cases handles

/-- A client that stays connected is shown nothing but what the program shows it. -/
theorem Serving.shows {index : Nat} {body : RequestBody} {rpc : Rpc} (nulFree : NulFree program)
    (run : GuidedRun (ServesCall program call_id) serverStep .start trace state)
    (serving : Serving trace state index call_id body rpc) :
    Shows program body.messages (frames index trace) := by
  rcases queued_reached nulFree run serving with ⟨⟨stage, reached⟩, ended⟩
  rcases (explained_of_run run.run).history_of_drawn serving.drawn with ⟨_, _, history⟩
  rcases history.isPrefix with ⟨polls, isPrefix⟩
  rw [← messagesWritten_queuedEvents] at isPrefix
  exact shows_of_history reached ended isPrefix

end Serving

end Zpr.GrpcServer
