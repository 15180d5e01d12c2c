import Zpr.Foundation.Strands
import Zpr.GrpcServer.CallStrands

namespace Zpr.GrpcServer

open Ffi

/-! # Calls do not get in each other's way

The strands of the queued calls are independent of each other and of the rest of the
server, so that their steps may be interleaved in any way, or left out. -/

namespace Server

variable {base state other : Server}

theorem agree_equivalence (base : Server) (name : Option Nat) : Equivalence (base.Agree name) := by
  cases name with
  | none =>
      constructor
      · exact fun state => ⟨rfl, rfl, fun _ _ => rfl, fun _ _ => rfl, fun _ _ => rfl⟩
      · exact fun agree => ⟨agree.rest.symm, agree.length.symm,
          fun index notQueued => (agree.rpcs index notQueued).symm,
          fun id notCall => (agree.live id notCall).symm,
          fun id notCall => (agree.removed id notCall).symm⟩
      · exact fun left right => ⟨left.rest.trans right.rest, left.length.trans right.length,
          fun index notQueued => (left.rpcs index notQueued).trans (right.rpcs index notQueued),
          fun id notCall => (left.live id notCall).trans (right.live id notCall),
          fun id notCall => (left.removed id notCall).trans (right.removed id notCall)⟩
  | some index =>
      constructor
      · exact fun state id queued => ⟨rfl, rfl, rfl, rfl⟩
      · intro state other agree id queued
        have same := agree id queued
        exact ⟨same.running.symm, same.rpc.symm, same.live.symm, same.removed.symm⟩
      · intro state middle other left right id queued
        have first := left id queued
        have second := right id queued
        exact ⟨first.running.trans second.running, first.rpc.trans second.rpc,
          first.live.trans second.live, first.removed.trans second.removed⟩

/-- The calls queued in `base` and the rest of the server are strands of their own. -/
theorem stranded (consistentBase : base.Consistent) :
    Stranded serverStep (Follows base) (fun action => action.sweeps = false) base.strand
      base.Agree tally where
  equivalence := agree_equivalence base
  keeps follows _ taken := follows.step taken
  frame := by
    intro state action next reply name follows allowed taken different
    cases called : base.strand action with
    | some index =>
        rw [called] at different
        rcases call_step follows called ((agree_equivalence base (some index)).refl state) taken with
          ⟨id, queued, isLocal⟩
        exact frame_of_touches consistentBase queued isLocal.touches different
    | none =>
        rw [called] at different
        cases name with
        | none => exact absurd rfl different
        | some index =>
            intro id queued
            exact (front_step consistentBase follows allowed called
              ((agree_equivalence base none).refl state) taken).spares index id queued
  follows := by
    intro state other action next reply follows _ allowed agree taken
    cases called : base.strand action with
    | some index =>
        rw [called] at agree
        rcases call_step follows called agree taken with ⟨id, queued, isLocal⟩
        rcases isLocal.follows with ⟨after, moved, _, same, sum⟩
        refine ⟨after, moved, fun otherId queuedToo => ?_, sum⟩
        rw [queued] at queuedToo
        cases queuedToo
        exact same
    | none =>
        rw [called] at agree
        exact (front_step consistentBase follows allowed called agree taken).follows

theorem Follows.refl (consistent : state.Consistent) : Follows state state :=
  ⟨consistent, fun _ _ queued => queued⟩

/-- Servers that are alike on all strands have the same content. -/
theorem sameContent_of_alike (alike : Stranded.Alike base.Agree tally state other) :
    SameContent state other where
  rest := (alike.agree none).rest
  rpcs := by
    apply List.ext_getElem?
    intro index
    cases queued : base.queuedId index with
    | none => exact (alike.agree none).rpcs index queued
    | some id => exact (alike.agree (some index) id queued).rpc
  live id := by
    cases called : base.callOf id with
    | none => exact (alike.agree none).live id called
    | some index => exact (alike.agree (some index) id (queuedId_of_callOf called)).live
  removed id := by
    cases called : base.callOf id with
    | none => exact (alike.agree none).removed id called
    | some index => exact (alike.agree (some index) id (queuedId_of_callOf called)).removed
  tally := alike.tally

end Server

open Stranded Server

/-- From any reachable state, a stretch of steps without a sweep of the reaper and without
the end of the server may be interleaved in any other way that keeps the order of each
queued call's own steps and the order of the steps of the rest of the server: every step
gets the same reply, and the server ends up with the same content. -/
theorem calls_can_be_reordered (before : Run serverStep .start history state)
    (run : RunWhere (fun _ action => action.sweeps = false) serverStep state trace final)
    {reordered : List (Action × Reply)}
    (sameStrands : ∀ name,
      onStrand state.strand name reordered = onStrand state.strand name trace) :
    ∃ last, RunWhere (fun _ action => action.sweeps = false) serverStep state reordered last ∧
      SameContent final last := by
  have consistent := consistent_of_run before
  rcases (stranded consistent).reorder (.refl consistent) sameStrands run with
    ⟨last, other, alike⟩
  exact ⟨last, other, sameContent_of_alike alike⟩

/-- Two calls that are written to and polled in turn, or one after the other. -/
theorem two_calls_can_be_reordered : ∃ history state final last wrote wroteToo polled polledToo
    accepted, Run serverStep .start history state ∧
      RunWhere (fun _ action => action.sweeps = false) serverStep state
        [(.write 1 .valid [7], wrote), (.write 2 .valid [8], wroteToo), (.poll_frame 0, polled),
          (.poll_frame 1, polledToo), (.accept .valid ⟨.valid, 8, .valid⟩, accepted)] final ∧
      RunWhere (fun _ action => action.sweeps = false) serverStep state
        [(.accept .valid ⟨.valid, 8, .valid⟩, accepted), (.write 2 .valid [8], wroteToo),
          (.poll_frame 1, polledToo), (.write 1 .valid [7], wrote), (.poll_frame 0, polled)] last ∧
      SameContent final last := by
  have replayed : ∃ history state final wrote wroteToo polled polledToo accepted,
      replay serverStep .start
        [.arrive "/a" ⟨[], false⟩, .handle_queued 0, .handle_queued 0, .handle_queued 0,
          .handle_queued 0, .handle_queued 0, .arrive "/b" ⟨[], false⟩, .handle_queued 1,
          .handle_queued 1, .handle_queued 1, .handle_queued 1, .handle_queued 1] =
            some (history, state) ∧
      replay serverStep state [.write 1 .valid [7], .write 2 .valid [8], .poll_frame 0,
        .poll_frame 1, .accept .valid ⟨.valid, 8, .valid⟩] =
          some ([(.write 1 .valid [7], wrote), (.write 2 .valid [8], wroteToo),
            (.poll_frame 0, polled), (.poll_frame 1, polledToo),
            (.accept .valid ⟨.valid, 8, .valid⟩, accepted)], final) ∧
      (state.callOf 1, state.callOf 2) = (some 0, some 1) ∧
      (state.queuedId 0, state.queuedId 1) = (some 1, some 2) :=
    ⟨_, _, _, _, _, _, _, _, rfl, rfl, rfl, rfl⟩
  rcases replayed with ⟨history, state, final, wrote, wroteToo, polled, polledToo, accepted,
    earlier, later, calls, ids⟩
  rw [Prod.mk.injEq] at calls ids
  have quiet : ∀ action ∈ [Action.write 1 .valid [7], .write 2 .valid [8], .poll_frame 0,
      .poll_frame 1, .accept .valid ⟨.valid, 8, .valid⟩], action.sweeps = false := by decide
  have run := runWhere_of_replay later fun action member _ => quiet action member
  have sameStrands : ∀ name, onStrand state.strand name
        [(.accept .valid ⟨.valid, 8, .valid⟩, accepted), (.write 2 .valid [8], wroteToo),
          (.poll_frame 1, polledToo), (.write 1 .valid [7], wrote), (.poll_frame 0, polled)] =
      onStrand state.strand name
        [(.write 1 .valid [7], wrote), (.write 2 .valid [8], wroteToo), (.poll_frame 0, polled),
          (.poll_frame 1, polledToo), (.accept .valid ⟨.valid, 8, .valid⟩, accepted)] := by
    intro name
    simp only [onStrand, List.filter_cons, List.filter_nil, strand, calls, ids,
      Option.isSome_some, if_true]
    rcases name with _ | _ | _ | index <;> rfl
  rcases calls_can_be_reordered (run_of_replay earlier) run sameStrands with ⟨last, other, alike⟩
  exact ⟨history, state, final, last, wrote, wroteToo, polled, polledToo, accepted,
    run_of_replay earlier, run, other, alike⟩

/-- In such a stretch a queued call goes through the same as it would if nobody else had
taken a step: its own steps alone are possible, get the same replies, and leave its RPC,
its place in `live` and its remover in the same state. -/
theorem call_goes_on_alone {index id : Nat} (before : Run serverStep .start history state)
    (run : RunWhere (fun _ action => action.sweeps = false) serverStep state trace final)
    (queued : state.queuedId index = some id) :
    ∃ last, RunWhere (fun _ action => action.sweeps = false) serverStep state
        (onStrand state.strand (some index) trace) last ∧ SameAt index id final last := by
  have consistent := consistent_of_run before
  rcases (stranded consistent).alone (fun name => name = some index) (.refl consistent)
    (.refl consistent) (fun name _ => (agree_equivalence state name).refl state) run with
    ⟨last, own, agree⟩
  exact ⟨last, own, agree (some index) (by simp) id queued⟩

/-- The second call, without the first. -/
theorem second_call_goes_on_alone : ∃ history state final last wrote wroteToo completed polled,
    Run serverStep .start history state ∧ state.queuedId 1 = some 2 ∧
      RunWhere (fun _ action => action.sweeps = false) serverStep state
        [(.write 1 .valid [7], wrote), (.write 2 .valid [8], wroteToo),
          (.complete 1 0 none, completed), (.poll_frame 1, polled)] final ∧
      RunWhere (fun _ action => action.sweeps = false) serverStep state
        [(.write 2 .valid [8], wroteToo), (.poll_frame 1, polled)] last ∧
      SameAt 1 2 final last := by
  have replayed : ∃ history state final wrote wroteToo completed polled,
      replay serverStep .start
        [.arrive "/a" ⟨[], false⟩, .handle_queued 0, .handle_queued 0, .handle_queued 0,
          .handle_queued 0, .handle_queued 0, .arrive "/b" ⟨[], false⟩, .handle_queued 1,
          .handle_queued 1, .handle_queued 1, .handle_queued 1, .handle_queued 1] =
            some (history, state) ∧
      replay serverStep state [.write 1 .valid [7], .write 2 .valid [8], .complete 1 0 none,
        .poll_frame 1] = some ([(.write 1 .valid [7], wrote), (.write 2 .valid [8], wroteToo),
          (.complete 1 0 none, completed), (.poll_frame 1, polled)], final) ∧
      onStrand state.strand (some 1) [(.write 1 .valid [7], wrote), (.write 2 .valid [8], wroteToo),
          (.complete 1 0 none, completed), (.poll_frame 1, polled)] =
        [(.write 2 .valid [8], wroteToo), (.poll_frame 1, polled)] ∧
      state.queuedId 1 = some 2 :=
    ⟨_, _, _, _, _, _, _, rfl, rfl, rfl, rfl⟩
  rcases replayed with
    ⟨history, state, final, wrote, wroteToo, completed, polled, earlier, later, own, queued⟩
  have quiet : ∀ action ∈ [Action.write 1 .valid [7], .write 2 .valid [8], .complete 1 0 none,
      .poll_frame 1], action.sweeps = false := by decide
  have run := runWhere_of_replay later fun action member _ => quiet action member
  rcases call_goes_on_alone (run_of_replay earlier) run queued with ⟨last, alone, same⟩
  rw [own] at alone
  exact ⟨history, state, final, last, wrote, wroteToo, completed, polled, run_of_replay earlier,
    queued, run, alone, same⟩

end Zpr.GrpcServer
