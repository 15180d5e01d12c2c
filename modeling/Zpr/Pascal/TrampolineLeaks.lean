import Zpr.Foundation.Counting
import Zpr.Pascal.TrampolineMemory

namespace Zpr.Pascal

open Ffi GrpcServer

/-! # Nothing is lost

Whatever a thread has in hand it lets go of in the end, and then the library has given
nothing away. -/

/-- The steps that let go of memory, and do nothing else. -/
def GivesBack : CallbackHostAction → Prop
  | .BufferToBytes _ | .take_message _ | .take _ => True
  | _ => False

/-- How many steps a party is from having nothing in hand. -/
def Party.pending : Party → Nat
  | .call _ (.reading _) | .call _ (.returned _ _ _) => 1
  | .call _ _ => 0
  | .host received => received.length

def CallbackHost.pending (host : CallbackHost) : Nat := (host.parties.map Party.pending).sum

theorem CallbackHost.pending_update {host : CallbackHost} {index : Nat} {party : Party}
    (at_ : host.parties[index]? = some party) (after : Party) (memory : Memory) :
    (host.update index after memory).pending + party.pending = host.pending + after.pending := by
  rw [CallbackHost.pending, CallbackHost.update, List.set_eq_modify]
  exact sum_modify Party.pending (fun _ => after) host.parties index at_

theorem Party.blocks_of_pending {party : Party} (none : party.pending = 0) : party.blocks = [] := by
  cases party with
  | call rpc thread => cases thread <;> first | rfl | cases none
  | host received =>
      cases List.length_eq_zero_iff.mp none
      rfl

section

variable {fromAnsi : Json.FromAnsi} {host : CallbackHost}

theorem exists_step_of_pending (fromAnsi : Json.FromAnsi) (sound : host.Sound) {index : Nat}
    {party : Party} (at_ : host.parties[index]? = some party) (pending : party.pending ≠ 0) :
    ∃ action after memory reply, GivesBack action ∧
      callbackHostStep fromAnsi host action = some (host.update index after memory, reply) ∧
      after.pending + 1 = party.pending := by
  have own := sound.parties index party at_
  cases party with
  | call rpc thread =>
      cases thread with
      | entering => exact absurd rfl pending
      | FOnCall => exact absurd rfl pending
      | left => exact absurd rfl pending
      | reading Buf =>
          rcases own with ⟨⟨bytes, holds⟩, _⟩
          rcases BufferToBytes_of_holds holds with ⟨rest, copied, _⟩
          refine ⟨.BufferToBytes index, .call rpc .FOnCall, rest, .bytes bytes, trivial, ?_, rfl⟩
          simp [callbackHostStep, CallbackHost.BufferToBytes, CallbackHost.onCall, at_, copied]
      | returned out_status out_msg out_msg_len =>
          rcases own with ⟨⟨Msg, holds, rfl⟩, running⟩
          have isRunning := running (by simp)
          rcases takeMessage_of_holds holds with ⟨bytes, rest, took, _⟩
          refine ⟨.take_message index,
            .call { rpc with handler := .returned (out_status, returned_message bytes) } .left,
            rest, .took out_status bytes, trivial, ?_, rfl⟩
          simp [callbackHostStep, CallbackHost.take_message, CallbackHost.onCall, at_, took,
            callbackStep, isRunning]
  | host received =>
      cases received with
      | nil => exact absurd rfl pending
      | cons one received =>
          rcases Received.take_of_sound fromAnsi (own one List.mem_cons_self) with
            ⟨reply, rest, took, _⟩
          refine ⟨.take index, .host received, rest, reply, trivial, ?_, rfl⟩
          simp [callbackHostStep, CallbackHost.take, at_, took]

/-- The threads that have something in hand can let go of it without anybody else. -/
theorem exists_run_to_nothing (fromAnsi : Json.FromAnsi) (sound : host.Sound) :
    ∃ later final, RunWhere (fun _ action => GivesBack action) (callbackHostStep fromAnsi) host
      later final ∧ final.Sound ∧ final.pending = 0 := by
  refine exists_run_of_progress CallbackHost.pending ?_ sound
  intro state sound unfinished
  have busy : ∃ party ∈ state.parties, party.pending ≠ 0 := by
    by_contra idle
    apply unfinished
    rw [CallbackHost.pending, List.sum_eq_zero_iff_forall_eq_nat]
    intro count member
    rcases List.mem_map.mp member with ⟨party, present, rfl⟩
    by_contra pending
    exact idle ⟨party, present, pending⟩
  rcases busy with ⟨party, member, pending⟩
  rcases List.getElem?_of_mem member with ⟨index, at_⟩
  rcases exists_step_of_pending fromAnsi sound at_ pending with
    ⟨action, after, memory, reply, gives, taken, fewer⟩
  have moved := CallbackHost.pending_update at_ after memory
  refine ⟨action, _, reply, gives, taken, ?_, by omega⟩
  exact (effect_of_change sound (change_of_step sound taken)).sound sound

/-- In every run of a server in callback mode and of the other threads of its host: no
memory is used that must not be, and what the library has given away and not got back is
exactly what some thread has in hand between two steps, each block with one thread. If those
threads take their next steps, the library gets everything back. -/
theorem library_memory_comes_back {assigned : Bool}
    (run : Run (callbackHostStep fromAnsi) (.start assigned) trace host) :
    (∀ event ∈ trace, event.2 ≠ .undefined) ∧
      (host.parties.flatMap Party.blocks).Perm host.memory.lent.keys ∧
      ∃ later final, RunWhere (fun _ action => GivesBack action) (callbackHostStep fromAnsi) host
        later final ∧ (∀ event ∈ later, event.2 ≠ .undefined) ∧ final.memory.lent.keys = [] := by
  rcases sound_of_run run with ⟨sound, defined⟩
  rcases exists_run_to_nothing fromAnsi sound with
    ⟨later, final, back, soundFinal, nothing⟩
  have whole := run.append (back.mono fun _ _ _ => trivial)
  refine ⟨defined, sound.custody, later, final, back, fun event member => ?_, ?_⟩
  · exact (sound_of_run whole).2 event (List.mem_append_right _ member)
  · have empty : final.parties.flatMap Party.blocks = [] := by
      rw [List.flatMap_eq_nil_iff]
      intro party member
      apply Party.blocks_of_pending
      have sums : (final.parties.map Party.pending).sum = 0 := nothing
      exact List.sum_eq_zero_iff_forall_eq_nat.mp sums _ (List.mem_map_of_mem member)
    have custody : (final.parties.flatMap Party.blocks).Perm final.memory.lent.keys :=
      soundFinal.custody
    rw [empty] at custody
    exact List.nil_perm.mp custody

end

/-- A message of one byte has been read by the handler, with room for two more, and another
thread has been given a string. -/
theorem library_memory_comes_back_in_a_read : ∃ trace host,
    Run (callbackHostStep id) (.start true) trace host ∧
      host.parties.flatMap Party.blocks = [0, 1] ∧
      (∀ event ∈ trace, event.2 ≠ .undefined) ∧
      (host.parties.flatMap Party.blocks).Perm host.memory.lent.keys ∧
      ∃ later final, RunWhere (fun _ action => GivesBack action) (callbackHostStep id) host
        later final ∧ (∀ event ∈ later, event.2 ≠ .undefined) ∧ final.memory.lent.keys = [] := by
  have replayed : ∃ trace host, replay (callbackHostStep id) (.start true)
        [.arrive "/a" ⟨[.data [0, 0, 0, 0, 1, 7]], false⟩, .start_thread, .task 0 .pump_inbound,
          .task 0 .pump_inbound, .enter 0, .Read 0 2, .hand 1 (.text "no")] = some (trace, host) ∧
      host.parties.flatMap Party.blocks = [0, 1] := ⟨_, _, rfl, rfl⟩
  rcases replayed with ⟨trace, host, replayed, blocks⟩
  have run := run_of_replay replayed
  exact ⟨trace, host, run, blocks, library_memory_comes_back run⟩

end Zpr.Pascal
