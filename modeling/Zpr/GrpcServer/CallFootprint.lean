import Mathlib.Algebra.Group.Nat.Defs
import Mathlib.Algebra.Group.Prod
import Zpr.GrpcServer.CallInvariant

namespace Zpr.GrpcServer

open Ffi

/-! # What a step on one call reads and writes

A read, write, completion or removal of a call, and the steps of its connection task,
look at the RPC of the call, at what `live` and the removers hold under its id, and at
whether the runtime is there. They change nothing else, but for the two counters that
a remover increases. -/

namespace Server

/-- The server without its RPCs, its calls and the counters of its removers. -/
def rest (state : Server) : Server :=
  { state with
    queue := { state.queue with live := ∅, completed := 0, reaped := 0 }
    rpcs := []
    removed := ∅ }

/-- What the removers have counted. -/
def tally (state : Server) : Nat × Nat := (state.queue.completed, state.queue.reaped)

/-- The servers are the same as far as one RPC and its call go. -/
structure SameAt (index id : Nat) (state other : Server) : Prop where
  running : state.running = other.running
  rpc : state.rpcs[index]? = other.rpcs[index]?
  live : state.queue.live.find? id = other.queue.live.find? id
  removed : state.removed.find? id = other.removed.find? id

/-- Only one RPC and its call have changed. -/
structure Touches (index id : Nat) (state next : Server) : Prop where
  rest : next.rest = state.rest
  length : next.rpcs.length = state.rpcs.length
  rpcs : ∀ other, other ≠ index → next.rpcs[other]? = state.rpcs[other]?
  live : ∀ other, other ≠ id → next.queue.live.find? other = state.queue.live.find? other
  removed : ∀ other, other ≠ id → next.removed.find? other = state.removed.find? other

theorem running_of_rest {state next : Server} (same : next.rest = state.rest) :
    next.running = state.running := by
  show next.rest.running = state.rest.running
  rw [same]

namespace Touches

variable {index id : Nat} {state next middle : Server}

theorem refl (index id : Nat) (state : Server) : Touches index id state state :=
  ⟨rfl, rfl, fun _ _ => rfl, fun _ _ => rfl, fun _ _ => rfl⟩

theorem trans (first : Touches index id state middle) (second : Touches index id middle next) :
    Touches index id state next where
  rest := second.rest.trans first.rest
  length := second.length.trans first.length
  rpcs other different := (second.rpcs other different).trans (first.rpcs other different)
  live other different := (second.live other different).trans (first.live other different)
  removed other different := (second.removed other different).trans (first.removed other different)

theorem update (id : Nat) (state : Server) (index : Nat) (change : Rpc → Rpc) :
    Touches index id state (state.update index change) where
  rest := rfl
  length := List.length_modify ..
  rpcs other different := by rw [update_rpcs, if_neg (Ne.symm different)]
  live _ _ := rfl
  removed _ _ := rfl

theorem insertLive (index : Nat) (state : Server) (id : Nat) (call : LiveCall) :
    Touches index id state { state with queue := { state.queue with
      live := state.queue.live.insert id call } } where
  rest := rfl
  length := rfl
  rpcs _ _ := rfl
  live other different := by rw [IdMap.find?_insert, if_neg different]
  removed _ _ := rfl

theorem insertRemoved (index : Nat) (state : Server) (id : Nat) (removal : Removed) :
    Touches index id state { state with removed := state.removed.insert id removal } where
  rest := rfl
  length := rfl
  rpcs _ _ := rfl
  live _ _ := rfl
  removed other different := by rw [IdMap.find?_insert, if_neg different]

theorem eraseRemoved (index : Nat) (state : Server) (id : Nat) :
    Touches index id state { state with removed := state.removed.erase id } where
  rest := rfl
  length := rfl
  rpcs _ _ := rfl
  live _ _ := rfl
  removed other different := by rw [IdMap.find?_erase, if_neg different]

theorem count (index id : Nat) (state : Server) (remover : Remover) :
    Touches index id state { state with queue := remover.count state.queue } where
  rest := by cases remover <;> rfl
  length := rfl
  rpcs _ _ := rfl
  live _ _ := by cases remover <;> rfl
  removed _ _ := rfl

theorem take (index : Nat) (state : Server) (remover : Remover) (outcome : Int × String)
    (id : Nat) : Touches index id state (state.take remover outcome [id]) where
  rest := rfl
  length := rfl
  rpcs _ _ := rfl
  live other different := by
    simp only [Server.take, IdMap.find?_transfer_source]
    rw [if_neg (by simpa using different)]
  removed other different := by
    simp only [Server.take, IdMap.find?_transfer_target]
    rw [if_neg (by simpa using different)]

/-- What another call finds is as it was. -/
theorem sameAt {other : Nat} {otherId : Nat} (touches : Touches index id state next)
    (differentRpc : other ≠ index) (differentId : otherId ≠ id) :
    SameAt other otherId state next where
  running := (running_of_rest touches.rest).symm
  rpc := (touches.rpcs other differentRpc).symm
  live := (touches.live otherId differentId).symm
  removed := (touches.removed otherId differentId).symm

end Touches

namespace SameAt

variable {index id : Nat} {state other : Server}

theorem update (same : SameAt index id state other) (target : Nat) (change : Rpc → Rpc) :
    SameAt index id (state.update target change) (other.update target change) where
  running := same.running
  rpc := by rw [update_rpcs, update_rpcs, same.rpc]
  live := same.live
  removed := same.removed

theorem insertLive (same : SameAt index id state other) (call : LiveCall) :
    SameAt index id
      { state with queue := { state.queue with live := state.queue.live.insert id call } }
      { other with queue := { other.queue with live := other.queue.live.insert id call } } where
  running := same.running
  rpc := same.rpc
  live := by rw [IdMap.find?_insert, IdMap.find?_insert, if_pos rfl, if_pos rfl]
  removed := same.removed

theorem insertRemoved (same : SameAt index id state other) (removal : Removed) :
    SameAt index id { state with removed := state.removed.insert id removal }
      { other with removed := other.removed.insert id removal } where
  running := same.running
  rpc := same.rpc
  live := same.live
  removed := by rw [IdMap.find?_insert, IdMap.find?_insert, if_pos rfl, if_pos rfl]

theorem eraseRemoved (same : SameAt index id state other) :
    SameAt index id { state with removed := state.removed.erase id }
      { other with removed := other.removed.erase id } where
  running := same.running
  rpc := same.rpc
  live := same.live
  removed := by rw [IdMap.find?_erase, IdMap.find?_erase, if_pos rfl, if_pos rfl]

theorem count (same : SameAt index id state other) (remover : Remover) :
    SameAt index id { state with queue := remover.count state.queue }
      { other with queue := remover.count other.queue } where
  running := same.running
  rpc := same.rpc
  live := by cases remover <;> exact same.live
  removed := same.removed

theorem take (same : SameAt index id state other) (remover : Remover) (outcome : Int × String) :
    SameAt index id (state.take remover outcome [id]) (other.take remover outcome [id]) where
  running := same.running
  rpc := same.rpc
  live := by simp only [Server.take, IdMap.find?_transfer_source, same.live]
  removed := by simp only [Server.take, IdMap.find?_transfer_target, same.live, same.removed]

end SameAt

/-- A step on one call, and the same step of another server that is the same as far as
that call goes. -/
structure Local (index id : Nat) (action : Action) (state next other : Server) (reply : Reply) :
    Prop where
  touches : Touches index id state next
  follows : ∃ after, serverStep other action = some (after, reply) ∧
    Touches index id other after ∧ SameAt index id next after ∧
    next.tally + other.tally = after.tally + state.tally

/-- The tally does not change where the counters do not. -/
theorem tally_same {state next other after : Server} (kept : next.tally = state.tally)
    (keptToo : after.tally = other.tally) :
    next.tally + other.tally = after.tally + state.tally := by
  rw [kept, keptToo, add_comm]

section

variable {index id : Nat} {state next other : Server} {reply : Reply}

theorem pump_inbound_local (same : SameAt index id state other)
    (taken : state.pump_inbound index = some (next, reply)) :
    Local index id (.pump_inbound index) state next other reply := by
  rcases pump_inbound_cases taken with ⟨rpc, pump, inbound, running, known, pumped, rfl, rfl⟩
  refine ⟨.update id state index _, _, ?_, .update id other index _, same.update index _, ?_⟩
  · rw [same.rpc] at known
    rw [same.running] at running
    simp [serverStep, Server.pump_inbound, running, known, pumped]
  · exact tally_same rfl rfl

theorem poll_frame_local (same : SameAt index id state other)
    (taken : state.poll_frame index = some (next, reply)) :
    Local index id (.poll_frame index) state next other reply := by
  rcases poll_frame_cases taken with ⟨rpc, running, known, connected, polled⟩
  rw [same.rpc] at known
  rw [same.running] at running
  rcases polled with ⟨ms, drawn, arrival, rfl, rfl⟩ | ⟨arrival, rfl, rfl⟩
  · refine ⟨.update id state index _, _, ?_, .update id other index _, same.update index _, ?_⟩
    · simp [serverStep, Server.poll_frame, running, known, connected, arrival]
    · exact tally_same rfl rfl
  · refine ⟨.update id state index _, _, ?_, .update id other index _, same.update index _, ?_⟩
    · simp [serverStep, Server.poll_frame, running, known, connected, arrival]
    · exact tally_same rfl rfl

theorem hang_up_local (same : SameAt index id state other)
    (taken : state.hang_up index = some (next, reply)) :
    Local index id (.hang_up index) state next other reply := by
  rcases hang_up_cases taken with ⟨rpc, known, arrived, rfl, rfl⟩
  rw [same.rpc] at known
  refine ⟨.update id state index _, _, ?_, .update id other index _, same.update index _, ?_⟩
  · rcases arrived with arrival | ⟨ms, drawn, arrival⟩
    · simp [serverStep, Server.hang_up, known, arrival]
    · simp [serverStep, Server.hang_up, known, arrival]
  · exact tally_same rfl rfl

theorem call_read_into_local (same : SameAt index id state other)
    (owned : ∀ call, state.queue.live.find? id = some call → call.inbound_rx = index)
    (taken : state.call_read_into id buffer = some (next, reply)) :
    Local index id (.read_into id buffer) state next other reply := by
  rcases call_read_into_cases taken with
    ⟨absent, rfl, rfl⟩ | ⟨call, rpc, read, inbound, answer, held, known, answered, rfl, rfl⟩
  · rw [same.live] at absent
    refine ⟨.refl index id next, other, ?_, .refl index id other, same, tally_same rfl rfl⟩
    simp [serverStep, Server.call_read_into, absent]
  · have owner := owned call held
    subst owner
    rw [same.live] at held
    rw [same.rpc] at known
    refine ⟨(Touches.insertLive _ state id read).trans (.update id _ _ _), _, ?_,
      (Touches.insertLive _ other id read).trans (.update id _ _ _),
      (same.insertLive read).update _ _, tally_same rfl rfl⟩
    simp [serverStep, Server.call_read_into, held, known, answered]

theorem call_write_local (same : SameAt index id state other)
    (owned : ∀ call, state.queue.live.find? id = some call → call.outbound_tx = index)
    (taken : state.call_write id data bytes = some (next, reply)) :
    Local index id (.write id data bytes) state next other reply := by
  by_cases isNull : bytes ≠ [] ∧ data = .null
  · simp only [Server.call_write, if_pos isNull, Option.some.injEq, Prod.mk.injEq] at taken
    rcases taken with ⟨rfl, rfl⟩
    refine ⟨.refl index id state, other, ?_, .refl index id other, same, tally_same rfl rfl⟩
    simp only [serverStep, Server.call_write, if_pos isNull]
  · simp only [Server.call_write, if_neg isNull] at taken
    cases held : state.queue.live.find? id with
    | none =>
        simp only [held, Option.some.injEq, Prod.mk.injEq] at taken
        rcases taken with ⟨rfl, rfl⟩
        refine ⟨.refl index id state, other, ?_, .refl index id other, same, tally_same rfl rfl⟩
        rw [same.live] at held
        simp only [serverStep, Server.call_write, if_neg isNull, held]
    | some call =>
        have owner := owned call held
        subst owner
        simp only [held] at taken
        rcases Option.map_eq_some_iff.mp taken with ⟨rpc, known, moved⟩
        rw [same.live] at held
        rw [same.rpc] at known
        rcases sent : rpc.body.rx.trySend bytes with ⟨rx, result⟩
        rw [sent] at moved
        cases result with
        | sent =>
            cases moved
            refine ⟨.update id state _ _, _, ?_, .update id other _ _, same.update _ _,
              tally_same rfl rfl⟩
            simp only [serverStep, Server.call_write, if_neg isNull, held, known, Option.map_some,
              sent]
        | full =>
            cases moved
            refine ⟨.refl _ id state, other, ?_, .refl _ id other, same, tally_same rfl rfl⟩
            simp only [serverStep, Server.call_write, if_neg isNull, held, known, Option.map_some,
              sent]
        | closed =>
            cases moved
            refine ⟨.refl _ id state, other, ?_, .refl _ id other, same, tally_same rfl rfl⟩
            simp only [serverStep, Server.call_write, if_neg isNull, held, known, Option.map_some,
              sent]

theorem call_complete_local (index : Nat) (same : SameAt index id state other)
    (taken : state.call_complete id grpc_status message = (next, reply)) :
    Local index id (.complete id grpc_status message) state next other reply := by
  cases parsed : status_message message with
  | error e =>
      simp only [Server.call_complete, parsed, Prod.mk.injEq] at taken
      rcases taken with ⟨rfl, rfl⟩
      refine ⟨.refl index id state, other, ?_, .refl index id other, same, tally_same rfl rfl⟩
      simp only [serverStep, Server.call_complete, parsed]
  | ok msg =>
      cases held : state.queue.live.find? id with
      | none =>
          simp only [Server.call_complete, parsed, held, Prod.mk.injEq] at taken
          rcases taken with ⟨rfl, rfl⟩
          refine ⟨.refl index id state, other, ?_, .refl index id other, same, tally_same rfl rfl⟩
          rw [same.live] at held
          simp only [serverStep, Server.call_complete, parsed, held]
      | some call =>
          simp only [Server.call_complete, parsed, held, Prod.mk.injEq] at taken
          rcases taken with ⟨rfl, rfl⟩
          refine ⟨.take index state .complete _ id, _, ?_, .take index other .complete _ id,
            same.take .complete _, tally_same rfl rfl⟩
          rw [same.live] at held
          simp only [serverStep, Server.call_complete, parsed, held]

theorem send_status_touches (id : Nat) (state : Server) {status_tx : Option Nat}
    (owned : ∀ target, status_tx = some target → target = index) (outcome : Int × String) :
    Touches index id state (state.send_status status_tx outcome) := by
  cases status_tx with
  | none => exact .refl index id state
  | some target =>
      cases owned target rfl
      exact .update id state _ _

theorem send_status_sameAt (same : SameAt index id state other) (status_tx : Option Nat)
    (outcome : Int × String) :
    SameAt index id (state.send_status status_tx outcome) (other.send_status status_tx outcome) := by
  cases status_tx with
  | none => exact same
  | some target => exact same.update target _

theorem drop_call_touches (id : Nat) (state : Server) {call : LiveCall}
    (inbound : call.inbound_rx = index) (outbound : call.outbound_tx = index)
    (owned : ∀ target, call.status_tx = some target → target = index) :
    Touches index id state (state.drop_call call) := by
  have channels := (Touches.update id state index fun rpc =>
      { rpc with inbound := rpc.inbound.dropReceiver }).trans (.update id _ index fun rpc =>
      { rpc with body := { rpc.body with rx := rpc.body.rx.dropSender } })
  cases sender : call.status_tx with
  | none => simpa [drop_call, sender, inbound, outbound] using channels
  | some target =>
      cases owned target sender
      simpa [drop_call, sender, inbound, outbound] using channels.trans (.update id _ _ fun rpc =>
        { rpc with body := { rpc.body with status_rx := rpc.body.status_rx.dropSender } })

theorem drop_call_sameAt (same : SameAt index id state other) (call : LiveCall) :
    SameAt index id (state.drop_call call) (other.drop_call call) := by
  have channels := (same.update call.inbound_rx fun rpc =>
      { rpc with inbound := rpc.inbound.dropReceiver }).update call.outbound_tx fun rpc =>
      { rpc with body := { rpc.body with rx := rpc.body.rx.dropSender } }
  cases sender : call.status_tx with
  | none => simpa [drop_call, sender] using channels
  | some target => simpa [drop_call, sender] using channels.update target _

theorem drop_call_tally (state : Server) (call : LiveCall) :
    (state.drop_call call).tally = state.tally := by
  rcases drop_call_eq state call with ⟨rpcs, equal⟩
  rw [equal]
  rfl

theorem send_status_tally (state : Server) (status_tx : Option Nat) (outcome : Int × String) :
    (state.send_status status_tx outcome).tally = state.tally := by
  rcases send_status_eq state status_tx outcome with ⟨rpcs, equal⟩
  rw [equal]
  rfl

theorem advance_local (same : SameAt index id state other)
    (owned : ∀ removal, state.removed.find? id = some removal →
      removal.call.inbound_rx = index ∧ removal.call.outbound_tx = index ∧
        ∀ target, removal.call.status_tx = some target → target = index)
    (taken : state.advance id = some (next, reply)) :
    Local index id (.advance id) state next other reply := by
  rcases advance_cases taken with ⟨removal, held, rfl, stages⟩
  rcases owned removal held with ⟨inbound, outbound, sender⟩
  rw [same.removed] at held
  rcases stages with ⟨stage, rfl⟩ | ⟨stage, rfl⟩ | ⟨stage, rfl⟩
  · refine ⟨(Touches.insertRemoved index state id _).trans (send_status_touches id _ sender _), _,
      ?_, (Touches.insertRemoved index other id _).trans (send_status_touches id _ sender _),
      send_status_sameAt (same.insertRemoved _) _ _, ?_⟩
    · simp only [serverStep, Server.advance, held, Option.map_some, stage]
    · exact tally_same (send_status_tally _ _ _) (send_status_tally _ _ _)
  · refine ⟨(Touches.insertRemoved index state id _).trans (.count index id _ removal.remover), _,
      ?_, (Touches.insertRemoved index other id _).trans (.count index id _ removal.remover),
      (same.insertRemoved _).count removal.remover, ?_⟩
    · simp only [serverStep, Server.advance, held, Option.map_some, stage]
    · cases removal.remover <;> simp only [tally, Remover.count, Prod.mk_add_mk, Prod.mk.injEq] <;>
        omega
  · refine ⟨(Touches.eraseRemoved index state id).trans
        (drop_call_touches id _ inbound outbound sender), _,
      ?_, (Touches.eraseRemoved index other id).trans
        (drop_call_touches id _ inbound outbound sender),
      drop_call_sameAt same.eraseRemoved removal.call, ?_⟩
    · simp only [serverStep, Server.advance, held, Option.map_some, stage]
    · exact tally_same (drop_call_tally _ _) (drop_call_tally _ _)

end

end Server

end Zpr.GrpcServer
