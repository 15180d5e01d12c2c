import Mathlib.Data.List.TakeWhile
import Zpr.GrpcServer.CallbackProgress
import Zpr.GrpcServer.QueuedProgress

namespace Zpr.GrpcServer

open Ffi

/-! # The two modes of the server

A client cannot tell whether its call is answered by a handler in callback mode or by a
host that polls a queue. -/

/-- The frames before the end of a response. -/
def beforeEnd (polls : List (Option Frame)) : List (Option Frame) := polls.takeWhile Option.isSome

theorem beforeEnd_of_isPrefix {first second : List (Option Frame)} (isPrefix : first <+: second)
    (ended : none ∈ first) : beforeEnd first = beforeEnd second := by
  rcases isPrefix with ⟨rest, rfl⟩
  have stops : (first.takeWhile Option.isSome).length ≠ first.length := by
    intro whole
    have same := (List.takeWhile_prefix Option.isSome).eq_of_length whole
    have all := List.takeWhile_eq_self_iff.mp same none ended
    cases all
  rw [beforeEnd, beforeEnd, List.takeWhile_append, if_neg stops]

/-- Take the same request, and the same program for a handler in callback mode and for a
host in queued mode whose call is neither refused nor reaped; let handler, host, pump,
client and whatever else there is move in any order while the two clients stay connected.
What the one client has been shown is then the beginning of what the other has been
shown. Each call can go on until its client has been shown as much as the other. Two
responses that have come to their end are the same, DATA frames and trailers. -/
theorem modes_answer_alike {program : HostProgram} (nulFree : NulFree program)
    (opened : handle path body = .ok start)
    (callbackRun : GuidedRun (RunsProgram program) callbackStep start callbackTrace call)
    (callbackConnected : call.connected = true)
    (queuedRun : GuidedRun (ServesCall program call_id) serverStep .start queuedTrace state)
    (serving : Serving queuedTrace state index call_id body rpc) :
    (callbackFrames callbackTrace <+: frames index queuedTrace ∨
      frames index queuedTrace <+: callbackFrames callbackTrace) ∧
    (∃ later final,
      GuidedRun (RunsProgram program) callbackStep start (callbackTrace ++ later) final ∧
      final.connected = true ∧
      frames index queuedTrace <+: callbackFrames (callbackTrace ++ later)) ∧
    (∃ later final after,
      GuidedRun (ServesCall program call_id) serverStep .start (queuedTrace ++ later) final ∧
      Serving (queuedTrace ++ later) final index call_id body after ∧
      callbackFrames callbackTrace <+: frames index (queuedTrace ++ later)) ∧
    (none ∈ callbackFrames callbackTrace → none ∈ frames index queuedTrace →
      beforeEnd (callbackFrames callbackTrace) = beforeEnd (frames index queuedTrace)) := by
  have callbackShows := (callbackExplained_of_run opened callbackRun).shows callbackConnected
  have queuedShows := serving.shows nulFree queuedRun
  have comparable := callbackShows.comparable queuedShows
  refine ⟨comparable, ?_, ?_, ?_⟩
  · rcases queuedShows with ⟨stage, isPrefix⟩
    rcases exists_callback_extension opened callbackRun callbackConnected stage with
      ⟨later, final, run, connected, longer⟩
    have shows := (callbackExplained_of_run opened run).shows connected
    have reached := Nat.le_trans isPrefix.length_le longer
    exact ⟨later, final, run, connected,
      Shows.prefix_of_length ⟨stage, isPrefix⟩ shows reached⟩
  · rcases callbackShows with ⟨stage, isPrefix⟩
    rcases exists_queued_extension nulFree queuedRun serving stage with
      ⟨later, final, after, run, served, longer⟩
    have shows := served.shows nulFree run
    have reached := Nat.le_trans isPrefix.length_le longer
    exact ⟨later, final, after, run, served,
      Shows.prefix_of_length ⟨stage, isPrefix⟩ shows reached⟩
  · intro callbackEnded queuedEnded
    rcases comparable with isPrefix | isPrefix
    · exact beforeEnd_of_isPrefix isPrefix callbackEnded
    · exact (beforeEnd_of_isPrefix isPrefix queuedEnded).symm

/-- Reads a message, writes it back and finishes. -/
def echo : HostProgram
  | [] => .read
  | [.read msg] => .write msg
  | _ => .finish 5 "done"

def oneMessage : RequestBody := ⟨[.data [0, 0, 0, 0, 1, 7]], false⟩

theorem echo_nulFree : NulFree echo := by
  intro history status message finishes
  unfold echo at finishes
  split at finishes
  · cases finishes
  · cases finishes
  · cases finishes
    decide

/-- An echo in both modes, in queued mode with a buffer that is too short. -/
theorem modes_answer_alike_for_echo :
    ∃ start callbackTrace call queuedTrace state rpc, handle "/a" oneMessage = .ok start ∧
      GuidedRun (RunsProgram echo) callbackStep start callbackTrace call ∧
      GuidedRun (ServesCall echo 1) serverStep .start queuedTrace state ∧
      call.connected = true ∧ Serving queuedTrace state 0 1 oneMessage rpc ∧
      callbackFrames callbackTrace = [shown [7],
        some (.trailers [("grpc-status", "5"), ("grpc-message", "done")]), none] ∧
      (callbackFrames callbackTrace <+: frames 0 queuedTrace ∨
        frames 0 queuedTrace <+: callbackFrames callbackTrace) ∧
      (∃ later final,
        GuidedRun (RunsProgram echo) callbackStep start (callbackTrace ++ later) final ∧
        final.connected = true ∧
        frames 0 queuedTrace <+: callbackFrames (callbackTrace ++ later)) ∧
      (∃ later final after,
        GuidedRun (ServesCall echo 1) serverStep .start (queuedTrace ++ later) final ∧
        Serving (queuedTrace ++ later) final 0 1 oneMessage after ∧
        callbackFrames callbackTrace <+: frames 0 (queuedTrace ++ later)) ∧
      beforeEnd (callbackFrames callbackTrace) = beforeEnd (frames 0 queuedTrace) := by
  have inCallbackMode : ∃ start trace call, handle "/a" oneMessage = .ok start ∧
      replay callbackStep start [.pump_inbound, .pump_inbound, .read .valid, .write .valid [7],
        .poll_frame, .returns 5 (some (as_bytes "done")), .reclaim, .send_status, .poll_frame,
        .poll_frame] = some (trace, call) ∧
      AllowedAfter (RunsProgram echo) [] trace ∧ call.connected = true ∧
      callbackFrames trace = [shown [7],
        some (.trailers [("grpc-status", "5"), ("grpc-message", "done")]), none] := by
    refine ⟨_, _, _, rfl, rfl, ?_, rfl, rfl⟩
    exact ⟨trivial, trivial, ⟨rfl, rfl⟩, ⟨rfl, fun _ => rfl⟩, trivial, ⟨"done", rfl, .inl rfl⟩,
      trivial, trivial, trivial, trivial, trivial⟩
  have inQueuedMode : ∃ trace state rpc, replay serverStep .start [.arrive "/a" oneMessage,
        .handle_queued 0, .handle_queued 0, .handle_queued 0, .handle_queued 0, .handle_queued 0,
        .accept .valid ⟨.valid, 2, .valid⟩, .pump_inbound 0, .read_into 1 ⟨.valid, 0, .valid⟩,
        .pump_inbound 0, .read_into 1 ⟨.valid, 0, .valid⟩, .read_into 1 ⟨.valid, 1, .valid⟩,
        .write 1 .valid [7], .complete 1 5 (some (c_string "done")), .poll_frame 0, .advance 1,
        .advance 1, .advance 1, .poll_frame 0, .poll_frame 0] = some (trace, state) ∧
      AllowedAfter (ServesCall echo 1) [] trace ∧ state.idAt 0 = some 1 ∧
      (bodies trace)[0]? = some oneMessage ∧ state.rpcs[0]? = some rpc ∧ rpc.connected = true ∧
      reapings 1 trace = [] ∧ none ∈ frames 0 trace := by
    refine ⟨_, _, _, rfl, ?_, rfl, rfl, rfl, rfl, rfl, by decide⟩
    exact ⟨trivial, trivial, trivial, trivial, trivial, trivial, rfl, trivial,
      fun _ => ⟨by decide, rfl⟩, trivial, fun _ => ⟨by decide, rfl⟩, fun _ => ⟨by decide, rfl⟩,
      fun _ => ⟨by decide, rfl, fun _ => rfl⟩, fun _ => ⟨by decide, "done", rfl, .inl rfl⟩,
      trivial, trivial, trivial, trivial, trivial, trivial, trivial⟩
  rcases inCallbackMode with
    ⟨start, callbackTrace, call, opened, callbackReplayed, runs, callbackConnected, shownFrames⟩
  rcases inQueuedMode with
    ⟨queuedTrace, state, rpc, queuedReplayed, serves, drawn, brought, known, connected, notReaped,
      queuedEnded⟩
  have callbackRun := guidedRun_of_run (run_of_replay callbackReplayed) runs
  have queuedRun := guidedRun_of_run (run_of_replay queuedReplayed) serves
  have serving : Serving queuedTrace state 0 1 oneMessage rpc :=
    ⟨drawn, brought, known, connected, notReaped⟩
  have callbackEnded : none ∈ callbackFrames callbackTrace := by simp [shownFrames]
  rcases modes_answer_alike echo_nulFree opened callbackRun callbackConnected queuedRun serving with
    ⟨comparable, callbackGoesOn, queuedGoesOn, same⟩
  exact ⟨start, callbackTrace, call, queuedTrace, state, rpc, opened, callbackRun, queuedRun,
    callbackConnected, serving, shownFrames, comparable, callbackGoesOn, queuedGoesOn,
    same callbackEnded queuedEnded⟩

end Zpr.GrpcServer
