import Zpr.GrpcServer.CallbackDialogue
import Zpr.GrpcServer.DialogueSteps
import Zpr.GrpcServer.ModeEquivalence

namespace Zpr.GrpcServer

open Ffi

/-! # One dialogue for both modes

Both modes refine the same machine, which answers an event from what has happened before. -/

/-- However a host serves a call, it does what a dialogue does: in queued mode, with any
number of other calls, host threads and the reaper around it, unless it is refused, and in
callback mode. So a call of either mode at which the same has happened as at a call of the
other, in the same order, has been given the same answers: the same messages to the host,
the same frames to the client. -/
theorem modes_hold_one_dialogue (queuedRun : Run serverStep .start queuedTrace state)
    (served : ∀ rpc, state.rpcs[index]? = some rpc → rpc.arrival ≠ .refused)
    (opened : handle path body = .ok start)
    (callbackRun : Run callbackStep start callbackTrace call) :
    Run (dialogueStep callRules) .opened (dialogueTrace index queuedTrace) (state.dialogue index) ∧
      Run (dialogueStep callRules) .opened (callbackDialogueTrace start callbackTrace)
        call.dialogue ∧
      ((dialogueTrace index queuedTrace).map Prod.fst =
          (callbackDialogueTrace start callbackTrace).map Prod.fst →
        dialogueTrace index queuedTrace = callbackDialogueTrace start callbackTrace ∧
          state.dialogue index = call.dialogue) := by
  have queued := queued_call_is_a_dialogue queuedRun served
  have callback := callback_call_is_a_dialogue opened callbackRun
  exact ⟨queued, callback, queued.unique callback⟩

theorem modes_hold_one_dialogue_for_one_answer :
    ∃ queuedTrace state start callbackTrace call, handle "/a" oneMessage = .ok start ∧
      Run serverStep .start queuedTrace state ∧ Run callbackStep start callbackTrace call ∧
      dialogueTrace 0 queuedTrace =
        [(.arrive [7], .silent), (.halfClose, .silent), (.read, .message [7]), (.read, .ended),
          (.write [9], .taken), (.finish (0, ""), .silent),
          (.poll, .shown (.data [0, 0, 0, 0, 1, 9])), (.poll, .pending), (.release, .silent),
          (.poll, .shown (.trailers [("grpc-status", "0")])), (.poll, .closed)] ∧
      dialogueTrace 0 queuedTrace = callbackDialogueTrace start callbackTrace ∧
      state.dialogue 0 = call.dialogue := by
  have inQueuedMode : ∃ trace state rpc, replay serverStep .start
      [.arrive "/a" oneMessage, .handle_queued 0, .handle_queued 0, .handle_queued 0,
        .handle_queued 0, .handle_queued 0, .pump_inbound 0, .pump_inbound 0, .pump_inbound 0,
        .read_into 1 ⟨.valid, 8, .valid⟩, .read_into 1 ⟨.valid, 8, .valid⟩,
        .write 1 .valid [9], .complete 1 0 none, .poll_frame 0, .poll_frame 0, .advance 1,
        .advance 1, .advance 1, .poll_frame 0, .poll_frame 0] = some (trace, state) ∧
      state.rpcs[0]? = some rpc ∧ rpc.arrival = .queued 30000 1 ∧
      dialogueTrace 0 trace =
        [(.arrive [7], .silent), (.halfClose, .silent), (.read, .message [7]), (.read, .ended),
          (.write [9], .taken), (.finish (0, ""), .silent),
          (.poll, .shown (.data [0, 0, 0, 0, 1, 9])), (.poll, .pending), (.release, .silent),
          (.poll, .shown (.trailers [("grpc-status", "0")])), (.poll, .closed)] :=
    ⟨_, _, _, rfl, rfl, rfl, rfl⟩
  have inCallbackMode : ∃ start trace call, handle "/a" oneMessage = .ok start ∧
      replay callbackStep start [.pump_inbound, .pump_inbound, .pump_inbound, .read .valid,
        .read .valid, .write .valid [9], .returns 0 none, .poll_frame, .poll_frame, .reclaim,
        .send_status, .poll_frame, .poll_frame] = some (trace, call) ∧
      (callbackDialogueTrace start trace).map Prod.fst =
        [.arrive [7], .halfClose, .read, .read, .write [9], .finish (0, ""), .poll, .poll,
          .release, .poll, .poll] :=
    ⟨_, _, _, rfl, rfl, rfl⟩
  rcases inQueuedMode with ⟨queuedTrace, state, rpc, replayed, known, queued, told⟩
  rcases inCallbackMode with ⟨start, callbackTrace, call, opened, replayedToo, done⟩
  have served : ∀ other, state.rpcs[0]? = some other → other.arrival ≠ .refused := by
    intro other same
    cases known.symm.trans same
    rw [queued]
    exact Arrival.noConfusion
  rcases modes_hold_one_dialogue (run_of_replay replayed) served opened
    (run_of_replay replayedToo) with ⟨_, _, alike⟩
  have same := alike (by rw [told, done]; rfl)
  exact ⟨queuedTrace, state, start, callbackTrace, call, opened, run_of_replay replayed,
    run_of_replay replayedToo, told, same⟩

end Zpr.GrpcServer
