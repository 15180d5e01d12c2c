import Zpr.Pascal.Trampoline

namespace Zpr.Pascal

open Ffi GrpcServer

/-! # Who has the library's memory

Between two steps of a thread a block is in the hands of one party. It can be let go of, and
then nobody has it. -/

def Received.blocks : Received → List Nat
  | .buffer Buf => Buf.data.blocks
  | .string P => P.blocks

def HandlerThread.blocks : HandlerThread → List Nat
  | .reading Buf => Buf.data.blocks
  | .returned _ OutMessage _ => OutMessage.blocks
  | _ => []

/-- The blocks that a party has and has to give back. -/
def Party.blocks : Party → List Nat
  | .call _ thread => thread.blocks
  | .host received => received.flatMap Received.blocks

def Received.Sound (memory : Memory) : Received → Prop
  | .buffer Buf => ∃ bytes, Buf.Holds memory bytes
  | .string P => ∃ text, StringHolds memory P text

/-- The message is empty, or it is in a block of its own size. -/
def MessageHolds (memory : Memory) (OutMessage : Address) (Msg : Bytes) : Prop :=
  (OutMessage = .null ∧ Msg = []) ∨ memory.Honours OutMessage Msg Msg.length

def HandlerThread.Sound (memory : Memory) : HandlerThread → Prop
  | .reading Buf => ∃ bytes, Buf.Holds memory bytes
  | .returned _ OutMessage OutMessageLen =>
      ∃ Msg, MessageHolds memory OutMessage Msg ∧ Msg.length = OutMessageLen
  | _ => True

/-- What a party has can be read and freed as the party is going to. -/
def Party.Sound (memory : Memory) : Party → Prop
  | .call rpc thread => thread.Sound memory ∧ (thread ≠ .left → rpc.handler = .running)
  | .host received => ∀ one ∈ received, one.Sound memory

structure CallbackHost.Sound (host : CallbackHost) : Prop where
  custody : Loans.Custody Party.blocks host.memory host.parties
  parties : ∀ (index : Nat) (party : Party), host.parties[index]? = some party →
    party.Sound host.memory

/-! ## What is not touched stays sound -/

theorem Received.Sound.elsewhere {memory after : Memory} {one : Received}
    (sound : one.Sound memory)
    (same : ∀ id ∈ one.blocks, after.lent.find? id = memory.lent.find? id) : one.Sound after := by
  cases one with
  | buffer Buf =>
      rcases sound with ⟨bytes, holds⟩
      exact ⟨bytes, holds.elsewhere same⟩
  | string P =>
      rcases sound with ⟨text, holds⟩
      exact ⟨text, holds.elsewhere same⟩

theorem HandlerThread.Sound.elsewhere {memory after : Memory} {thread : HandlerThread}
    (sound : thread.Sound memory)
    (same : ∀ id ∈ thread.blocks, after.lent.find? id = memory.lent.find? id) :
    thread.Sound after := by
  cases thread with
  | entering => trivial
  | FOnCall => trivial
  | reading Buf =>
      rcases sound with ⟨bytes, holds⟩
      exact ⟨bytes, holds.elsewhere same⟩
  | returned OutGrpcStatus OutMessage OutMessageLen =>
      rcases sound with ⟨Msg, holds, whole⟩
      exact ⟨Msg, holds.imp_right fun honours => honours.elsewhere same, whole⟩
  | left => trivial

theorem Party.Sound.elsewhere {memory after : Memory} {party : Party} (sound : party.Sound memory)
    (same : ∀ id ∈ party.blocks, after.lent.find? id = memory.lent.find? id) :
    party.Sound after := by
  cases party with
  | call rpc thread => exact ⟨sound.1.elsewhere same, sound.2⟩
  | host received =>
      intro one member
      exact (sound one member).elsewhere fun id held =>
        same id (List.mem_flatMap.mpr ⟨one, member, held⟩)

/-! ## What the functions do to the memory -/

theorem BufferToBytes_of_holds {memory : Memory} {Buf : ZprBuffer}
    (holds : Buf.Holds memory bytes) :
    ∃ rest, BufferToBytes memory Buf = some (bytes, rest) ∧
      Loans.SameOutside Buf.data memory rest ∧
      (Buf.data.blocks ++ rest.lent.keys).Perm memory.lent.keys := by
  rcases zpr_buffer_free_of_holds holds with ⟨rest, freed, same, keys⟩
  have copied : (if Buf.len > 0 then memory.look Buf.data Buf.len else some []) = some bytes := by
    rcases holds with ⟨rfl, rfl⟩ | ⟨honours, len⟩
    · rfl
    · rw [len]
      split
      · exact Loans.look_of_honours honours
      · rw [List.length_eq_zero_iff.mp (by omega : bytes.length = 0)]
  refine ⟨rest, ?_, same, keys⟩
  rw [BufferToBytes, copied, freed]
  rfl

theorem TakeString_of_holds (fromAnsi : Json.FromAnsi) {memory : Memory} {P : Address}
    (holds : StringHolds memory P text) :
    ∃ S rest, TakeString fromAnsi memory P = some (S, rest) ∧
      Loans.SameOutside P memory rest ∧ (P.blocks ++ rest.lent.keys).Perm memory.lent.keys := by
  rcases zpr_string_free_of_holds holds with ⟨rest, freed, same, keys⟩
  rcases holds with ⟨rfl, _⟩ | ⟨honours, noNul⟩
  · cases freed
    exact ⟨[], memory, rfl, same, keys⟩
  · have notNull : P ≠ .null := by
      rintro rfl
      exact honours
    refine ⟨fromAnsi text, rest, ?_, same, keys⟩
    rw [TakeString, if_neg notNull, cstr_from_ptr_of_honours honours noNul, freed]
    rfl

theorem Received.take_of_sound (fromAnsi : Json.FromAnsi) {memory : Memory} {one : Received}
    (sound : one.Sound memory) :
    ∃ reply rest, one.take fromAnsi memory = some (reply, rest) ∧ reply ≠ .undefined ∧
      (∀ id, id ∉ one.blocks → rest.lent.find? id = memory.lent.find? id) ∧
      (one.blocks ++ rest.lent.keys).Perm memory.lent.keys := by
  cases one with
  | buffer Buf =>
      rcases sound with ⟨bytes, holds⟩
      rcases BufferToBytes_of_holds holds with ⟨rest, taken, same, keys⟩
      exact ⟨.bytes bytes, rest, by rw [take, taken]; rfl, by simp, same, keys⟩
  | string P =>
      rcases sound with ⟨text, holds⟩
      rcases TakeString_of_holds fromAnsi holds with ⟨S, rest, taken, same, keys⟩
      exact ⟨.text S, rest, by rw [take, taken]; rfl, by simp, same, keys⟩

theorem Handed.receive_spec (memory : Memory) (handed : Handed) :
    (handed.receive memory).1.Sound (handed.receive memory).2 ∧
      (∀ id ∈ memory.lent.keys,
        (handed.receive memory).2.lent.find? id = memory.lent.find? id) ∧
      ((handed.receive memory).1.blocks ++ memory.lent.keys).Perm
        (handed.receive memory).2.lent.keys := by
  cases handed with
  | bytes v =>
      exact ⟨⟨_, ZprBuffer.holds_from_vec memory v⟩, fun _ => Loans.find?_lend v,
        memory.keys_lend v⟩
  | no_bytes => exact ⟨⟨[], .inl ⟨rfl, rfl⟩⟩, fun _ _ => rfl, List.Perm.refl _⟩
  | text s =>
      have holds := stringHolds_into_raw memory s
      simp only [receive, Prod.map, id_eq, cstring_into_raw] at holds ⊢
      exact ⟨⟨_, holds⟩, fun _ => Loans.find?_lend _, memory.keys_lend _⟩
  | no_text => exact ⟨⟨[], .inl ⟨rfl, rfl⟩⟩, fun _ _ => rfl, List.Perm.refl _⟩

/-- The message of the status is in a block of its own size, or there is none. -/
theorem trampolineEnd_spec (memory : Memory) (Status : Int) (Msg : Bytes) :
    ∃ OutMessage after,
      trampolineEnd memory Status Msg =
        some (.returned Status OutMessage Msg.length, after) ∧
      MessageHolds after OutMessage Msg ∧
      (∀ id ∈ memory.lent.keys, after.lent.find? id = memory.lent.find? id) ∧
      (OutMessage.blocks ++ memory.lent.keys).Perm after.lent.keys := by
  by_cases nonempty : Msg.length > 0
  · have whole : Msg.length = (List.replicate Msg.length (0 : UInt8)).length :=
      List.length_replicate.symm
    have honours := memory.honours_lend (.exact (List.replicate Msg.length (0 : UInt8)))
    rcases Loans.overwrite_of_honours honours whole with ⟨after, written, holds, same, keys⟩
    refine ⟨(zpr_alloc memory Msg.length).1, after, ?_, .inr ?_, ?_, ?_⟩
    · rw [trampolineEnd, if_pos nonempty]
      exact Option.map_eq_some_iff.mpr ⟨after, written, rfl⟩
    · rw [show (Vec.exact (List.replicate Msg.length (0 : UInt8))).capacity = Msg.length from
        whole.symm] at holds
      exact holds
    · intro id member
      have apart : id ∉ (zpr_alloc memory Msg.length).1.blocks := by
        intro new
        have distinct := (memory.keys_lend (.exact (List.replicate Msg.length 0))).nodup_iff.mpr
          (AList.keys_nodup _)
        exact (List.disjoint_of_nodup_append distinct) new member
      exact (same id apart).trans (Loans.find?_lend _ member)
    · exact (memory.keys_lend _).trans keys.symm
  · have empty : Msg = [] := List.length_eq_zero_iff.mp (by omega)
    subst empty
    exact ⟨.null, memory, rfl, .inl ⟨rfl, rfl⟩, fun _ _ => rfl, List.Perm.refl _⟩

theorem takeMessage_of_holds {memory : Memory} {out_msg : Address}
    (holds : MessageHolds memory out_msg Msg) :
    ∃ bytes rest, takeMessage memory out_msg Msg.length = some (bytes, rest) ∧
      (bytes = some Msg ∨ Msg = [] ∧ bytes = none) ∧ Loans.SameOutside out_msg memory rest ∧
      (out_msg.blocks ++ rest.lent.keys).Perm memory.lent.keys := by
  rcases holds with ⟨rfl, rfl⟩ | honours
  · exact ⟨none, memory, rfl, .inr ⟨rfl, rfl⟩, fun _ _ => rfl, List.Perm.refl _⟩
  · have notNull : out_msg ≠ .null := by
      rintro rfl
      exact honours
    rcases Loans.reclaim_of_honours honours with ⟨vec, rest, reclaimed, items, same, keys⟩
    refine ⟨some vec.items, rest, ?_, .inl (by rw [items]), same, keys⟩
    rw [takeMessage, if_neg notNull, reclaimed]
    rfl

/-! ## Steps -/

/-- The party that an action belongs to. -/
def CallbackHostAction.index : CallbackHostAction → Option Nat
  | .arrive _ _ | .start_thread => none
  | .task index _ | .enter index | .Read index _ | .BufferToBytes index | .Write index _
  | .returns index _ _ | .raises index _ | .take_message index | .hand index _ | .take index =>
      some index

/-- What a step does to the parties and to the memory: it changes one party and those blocks
alone that the party has, or nobody had. -/
inductive CallbackHostEffect (host : CallbackHost) : Option Nat → CallbackHost → Prop
  | same (index : Option Nat) : CallbackHostEffect host index host
  | adds (party : Party) (blocks : party.blocks = []) (own : party.Sound host.memory) :
      CallbackHostEffect host none { host with parties := host.parties ++ [party] }
  | updates (index : Nat) (party after : Party) (memory : Memory)
      (at_ : host.parties[index]? = some party)
      (balanced : (party.blocks ++ memory.lent.keys).Perm (after.blocks ++ host.memory.lent.keys))
      (same : ∀ id ∈ host.memory.lent.keys, id ∉ party.blocks →
        memory.lent.find? id = host.memory.lent.find? id)
      (own : after.Sound memory) :
      CallbackHostEffect host (some index) (host.update index after memory)

namespace CallbackHostEffect

variable {host next : CallbackHost}

/-- A step of one party that leaves the memory alone. -/
theorem quiet {index : Nat} {party after : Party} (sound : host.Sound)
    (at_ : host.parties[index]? = some party) (blocks : after.blocks = party.blocks)
    (own : party.Sound host.memory → after.Sound host.memory) :
    CallbackHostEffect host (some index) (host.update index after host.memory) :=
  .updates index party after host.memory at_ (by rw [blocks]) (fun _ _ _ => rfl)
    (own (sound.parties index party at_))

/-- The other parties are left alone, and what they have as well. -/
theorem frame {other : Nat} {changed : Option Nat} {party : Party} (sound : host.Sound)
    (effect : CallbackHostEffect host changed next) (at_ : host.parties[other]? = some party)
    (apart : changed ≠ some other) :
    next.parties[other]? = some party ∧
      ∀ id ∈ party.blocks, next.memory.lent.find? id = host.memory.lent.find? id := by
  cases effect with
  | same => exact ⟨at_, fun _ _ => rfl⟩
  | adds another =>
      have inside : other < host.parties.length := (List.getElem?_eq_some_iff.mp at_).1
      exact ⟨(List.getElem?_append_left inside).trans at_, fun _ _ => rfl⟩
  | updates index before after memory there _ same _ =>
      have different : index ≠ other := fun equal => apart (congrArg some equal)
      refine ⟨(List.getElem?_set_ne different).trans at_, fun id held => ?_⟩
      exact same id (sound.custody.mem_keys at_ held)
        (sound.custody.apart at_ there (Ne.symm different) held)

/-- What is known of who has which block, is known after the step. -/
theorem sound {changed : Option Nat} (effect : CallbackHostEffect host changed next)
    (sound : host.Sound) : next.Sound := by
  cases effect with
  | same => exact sound
  | adds party blocks own =>
      refine ⟨?_, fun index there found => ?_⟩
      · show ((host.parties ++ [party]).flatMap Party.blocks).Perm host.memory.lent.keys
        rw [List.flatMap_append, List.flatMap_singleton, blocks, List.append_nil]
        exact sound.custody
      · by_cases inside : index < host.parties.length
        · rw [List.getElem?_append_left inside] at found
          exact sound.parties index there found
        · rw [List.getElem?_append_right (Nat.le_of_not_lt inside)] at found
          cases List.mem_singleton.mp (List.mem_of_getElem? found)
          exact own
  | updates index party after memory at_ balanced same own =>
      refine ⟨sound.custody.update at_ balanced, fun other there found => ?_⟩
      by_cases isSame : other = index
      · subst isSame
        rw [CallbackHost.update, List.getElem?_set_self', at_] at found
        cases found
        exact own
      · rw [CallbackHost.update, List.getElem?_set_ne (Ne.symm isSame)] at found
        exact (sound.parties other there found).elsewhere fun id held =>
          same id (sound.custody.mem_keys found held) (sound.custody.apart found at_ isSame held)

end CallbackHostEffect

/-- How a handler's thread comes to the end of `GrpcTrampoline`, and what it has for the
client then. -/
inductive EndsWith (assigned : Bool) (index : Nat) :
    CallbackHostAction → HandlerThread → Int → Bytes → Prop
  | unassigned (isNot : assigned = false) : EndsWith assigned index (.enter index) .entering 12 []
  | returned (Status : Int) (Msg : Bytes) :
      EndsWith assigned index (.returns index Status Msg) .FOnCall Status Msg
  | raised (Message : String) :
      EndsWith assigned index (.raises index Message) .FOnCall 13 (cstr Message)

section

variable {fromAnsi : Json.FromAnsi} {host next : CallbackHost} {reply : CallbackHostReply}

/-- What a step does where nothing is undefined. -/
inductive CallbackHostChange (fromAnsi : Json.FromAnsi) (host : CallbackHost) :
    CallbackHostAction → CallbackHost → CallbackHostReply → Prop
  | refused (path : String) (body : RequestBody) (answer : List Frame) :
      CallbackHostChange fromAnsi host (.arrive path body) host (.refused answer)
  | arrives {path : String} {body : RequestBody} {rpc : CallbackCall}
      (opened : handle path body = .ok rpc) :
      CallbackHostChange fromAnsi host (.arrive path body)
        { host with parties := host.parties ++ [.call rpc .entering] } .silent
  | task {index : Nat} {action : CallbackAction} {rpc after : CallbackCall}
      {thread : HandlerThread} {reply : CallbackReply}
      (at_ : host.parties[index]? = some (.call rpc thread)) (allowed : isTask action = true)
      (stepped : callbackStep rpc action = some (after, reply)) :
      CallbackHostChange fromAnsi host (.task index action)
        (host.update index (.call after thread) host.memory) (.callback reply)
  | enters {index : Nat} {rpc : CallbackCall}
      (at_ : host.parties[index]? = some (.call rpc .entering)) (assigned : host.assigned = true) :
      CallbackHostChange fromAnsi host (.enter index)
        (host.update index (.call rpc .FOnCall) host.memory) .silent
  | reads {index spare : Nat} {rpc after : CallbackCall} {msg : Bytes}
      (at_ : host.parties[index]? = some (.call rpc .FOnCall))
      (received : rpc.stream_read .valid = some (after, .read ⟨1, some msg⟩)) (v : Vec UInt8)
      (items : v.items = msg) :
      CallbackHostChange fromAnsi host (.Read index spare)
        (host.update index (.call after (.reading (ZprBuffer.from_vec host.memory v).1))
          (ZprBuffer.from_vec host.memory v).2) (.callback (.read ⟨1, some msg⟩))
  | reads_end {index spare : Nat} {rpc after : CallbackCall}
      (at_ : host.parties[index]? = some (.call rpc .FOnCall))
      (received : rpc.stream_read .valid = some (after, .read ⟨0, some []⟩)) :
      CallbackHostChange fromAnsi host (.Read index spare)
        (host.update index (.call after .FOnCall) host.memory) (.callback (.read ⟨0, some []⟩))
  | copies {index : Nat} {rpc : CallbackCall} {Buf : ZprBuffer} {AData : TBytes} {memory : Memory}
      (at_ : host.parties[index]? = some (.call rpc (.reading Buf)))
      (copied : BufferToBytes host.memory Buf = some (AData, memory)) :
      CallbackHostChange fromAnsi host (.BufferToBytes index)
        (host.update index (.call rpc .FOnCall) memory) (.bytes AData)
  | writes {index : Nat} {AData : TBytes} {rpc after : CallbackCall} {reply : CallbackReply}
      (at_ : host.parties[index]? = some (.call rpc .FOnCall))
      (written : rpc.stream_write (BytesPtr AData) AData = some (after, reply)) :
      CallbackHostChange fromAnsi host (.Write index AData)
        (host.update index (.call after .FOnCall) host.memory) (.callback reply)
  | ends {index : Nat} {action : CallbackHostAction} {rpc : CallbackCall} {before : HandlerThread}
      {Status : Int} {Msg : Bytes} {OutMessage : Address} {memory : Memory}
      (at_ : host.parties[index]? = some (.call rpc before))
      (ending : EndsWith host.assigned index action before Status Msg)
      (ended : trampolineEnd host.memory Status Msg =
        some (.returned Status OutMessage Msg.length, memory)) :
      CallbackHostChange fromAnsi host action
        (host.update index (.call rpc (.returned Status OutMessage Msg.length)) memory) .silent
  | message_taken {index : Nat} {rpc : CallbackCall} {out_status : Int} {out_msg : Address}
      {out_msg_len : Nat} {bytes : Option Bytes} {memory : Memory}
      (at_ : host.parties[index]? = some (.call rpc (.returned out_status out_msg out_msg_len)))
      (taken : takeMessage host.memory out_msg out_msg_len = some (bytes, memory))
      (running : rpc.handler = .running) :
      CallbackHostChange fromAnsi host (.take_message index)
        (host.update index
          (.call { rpc with handler := .returned (out_status, returned_message bytes) } .left)
          memory)
        (.took out_status bytes)
  | thread_starts : CallbackHostChange fromAnsi host .start_thread
      { host with parties := host.parties ++ [.host []] } .silent
  | hands {index : Nat} {received : List Received} (handed : Handed)
      (at_ : host.parties[index]? = some (.host received)) :
      CallbackHostChange fromAnsi host (.hand index handed)
        (host.update index (.host (received ++ [(handed.receive host.memory).1]))
          (handed.receive host.memory).2) .silent
  | takes {index : Nat} {one : Received} {received : List Received} {reply : CallbackHostReply}
      {memory : Memory} (at_ : host.parties[index]? = some (.host (one :: received)))
      (taken : one.take fromAnsi host.memory = some (reply, memory))
      (defined : reply ≠ .undefined) :
      CallbackHostChange fromAnsi host (.take index)
        (host.update index (.host received) memory) reply

theorem stream_read_cases {rpc after : CallbackCall} {reply : CallbackReply}
    (received : rpc.stream_read .valid = some (after, reply)) :
    (∃ msg, reply = .read ⟨1, some msg⟩) ∨ reply = .read ⟨0, some []⟩ := by
  rcases Option.map_eq_some_iff.mp received with ⟨⟨_, inbound, answer⟩, got, equal⟩
  cases equal
  rcases rpc.inbound.tryRecv_cases with
    ⟨msg, buffer, _, result⟩ | ⟨_, _, result⟩ | ⟨_, _, result⟩
  · simp only [zpr_grpc_stream_read, result, Option.some.injEq, Prod.mk.injEq, true_and] at got
    rw [← got.2]
    exact .inl ⟨msg, rfl⟩
  · simp [zpr_grpc_stream_read, result] at got
  · simp only [zpr_grpc_stream_read, result, Option.some.injEq, Prod.mk.injEq, true_and] at got
    rw [← got.2]
    exact .inr rfl

theorem onCall_cases {index : Nat}
    {go : CallbackCall → HandlerThread → Option (CallbackHost × CallbackHostReply)}
    (taken : host.onCall index go = some (next, reply)) :
    ∃ rpc thread, host.parties[index]? = some (.call rpc thread) ∧
      go rpc thread = some (next, reply) := by
  unfold CallbackHost.onCall at taken
  split at taken
  · rename_i rpc thread at_
    exact ⟨rpc, thread, at_, taken⟩
  · cases taken

theorem change_of_leave {index : Nat} {action : CallbackHostAction} {rpc : CallbackCall}
    {before : HandlerThread} {Status : Int} {Msg : Bytes}
    (at_ : host.parties[index]? = some (.call rpc before))
    (ending : EndsWith host.assigned index action before Status Msg)
    (taken : host.leave index rpc Status Msg = some (next, reply)) :
    CallbackHostChange fromAnsi host action next reply := by
  rcases trampolineEnd_spec host.memory Status Msg with ⟨OutMessage, memory, ended, _⟩
  rw [CallbackHost.leave, ended, CallbackHost.unlessUndefined_some] at taken
  cases taken
  exact .ends at_ ending ended

theorem change_of_finish {index : Nat} {action : CallbackHostAction} {Status : Int} {Msg : Bytes}
    (ending : EndsWith host.assigned index action .FOnCall Status Msg)
    (taken : host.finish index Status Msg = some (next, reply)) :
    CallbackHostChange fromAnsi host action next reply := by
  rcases onCall_cases taken with ⟨rpc, thread, at_, taken⟩
  cases thread with
  | FOnCall => exact change_of_leave at_ ending taken
  | _ => cases taken

/-- In a sound state every step that can be taken is one of these. -/
theorem change_of_step {action : CallbackHostAction} (sound : host.Sound)
    (taken : callbackHostStep fromAnsi host action = some (next, reply)) :
    CallbackHostChange fromAnsi host action next reply := by
  cases action with
  | arrive path body =>
      have moved : host.arrive path body = (next, reply) := Option.some.inj taken
      cases opened : handle path body with
      | error answer =>
          rw [CallbackHost.arrive, opened] at moved
          cases moved
          exact .refused path body answer
      | ok rpc =>
          rw [CallbackHost.arrive, opened] at moved
          cases moved
          exact .arrives opened
  | task index action =>
      rcases onCall_cases taken with ⟨rpc, thread, at_, taken⟩
      split at taken
      · rename_i allowed
        rcases Option.map_eq_some_iff.mp taken with ⟨⟨after, answer⟩, stepped, equal⟩
        cases equal
        exact .task at_ allowed stepped
      · cases taken
  | enter index =>
      rcases onCall_cases taken with ⟨rpc, thread, at_, taken⟩
      cases thread with
      | entering =>
          cases assigned : host.assigned with
          | true =>
              simp only [assigned, if_true] at taken
              cases taken
              exact .enters at_ assigned
          | false =>
              simp only [assigned] at taken
              exact change_of_leave at_ (.unassigned assigned) taken
      | _ => cases taken
  | Read index spare =>
      rcases onCall_cases taken with ⟨rpc, thread, at_, taken⟩
      cases thread with
      | FOnCall =>
          rcases Option.map_eq_some_iff.mp taken with ⟨⟨after, answer⟩, received, equal⟩
          rcases stream_read_cases received with ⟨msg, rfl⟩ | rfl
          · cases equal
            exact .reads at_ received _ rfl
          · cases equal
            exact .reads_end at_ received
      | _ => cases taken
  | BufferToBytes index =>
      rcases onCall_cases taken with ⟨rpc, thread, at_, taken⟩
      cases thread with
      | reading Buf =>
          rcases sound.parties index _ at_ with ⟨⟨bytes, holds⟩, _⟩
          rcases BufferToBytes_of_holds holds with ⟨rest, copied, _⟩
          simp only [copied, CallbackHost.unlessUndefined_some] at taken
          cases taken
          exact .copies at_ copied
      | _ => cases taken
  | Write index AData =>
      rcases onCall_cases taken with ⟨rpc, thread, at_, taken⟩
      cases thread with
      | FOnCall =>
          rcases Option.map_eq_some_iff.mp taken with ⟨⟨after, answer⟩, written, equal⟩
          cases equal
          exact .writes at_ written
      | _ => cases taken
  | returns index Status Msg => exact change_of_finish (.returned Status Msg) taken
  | raises index Message => exact change_of_finish (.raised Message) taken
  | take_message index =>
      rcases onCall_cases taken with ⟨rpc, thread, at_, taken⟩
      cases thread with
      | returned out_status out_msg out_msg_len =>
          rcases sound.parties index _ at_ with ⟨⟨Msg, holds, rfl⟩, running⟩
          have isRunning := running (by simp)
          rcases takeMessage_of_holds holds with ⟨bytes, rest, took, _⟩
          simp only [took, CallbackHost.unlessUndefined_some, callbackStep, isRunning, if_true,
            Option.map_some] at taken
          cases taken
          exact .message_taken at_ took isRunning
      | _ => cases taken
  | start_thread =>
      cases taken
      exact .thread_starts
  | hand index handed =>
      have moved : host.hand index handed = some (next, reply) := taken
      unfold CallbackHost.hand at moved
      split at moved
      · rename_i received at_
        cases moved
        exact .hands handed at_
      · cases moved
  | take index =>
      have moved : host.take fromAnsi index = some (next, reply) := taken
      unfold CallbackHost.take at moved
      split at moved
      · rename_i one received at_
        have ownSound := sound.parties index _ at_ one List.mem_cons_self
        rcases Received.take_of_sound fromAnsi ownSound with ⟨answer, rest, took, defined, _⟩
        simp only [took, CallbackHost.unlessUndefined_some] at moved
        cases moved
        exact .takes at_ took defined
      · cases moved

theorem stream_read_handler {rpc after : CallbackCall} {answer : CallbackReply}
    (received : rpc.stream_read out = some (after, answer)) : after.handler = rpc.handler := by
  rcases Option.map_eq_some_iff.mp received with ⟨_, _, equal⟩
  cases equal
  rfl

theorem stream_write_handler {rpc after : CallbackCall} {answer : CallbackReply}
    (written : rpc.stream_write data bytes = some (after, answer)) :
    after.handler = rpc.handler := by
  rcases Option.map_eq_some_iff.mp written with ⟨_, _, equal⟩
  cases equal
  rfl

/-- No task stops a handler that runs. -/
theorem task_running {rpc after : CallbackCall} {action : CallbackAction} {answer : CallbackReply}
    (allowed : isTask action = true) (stepped : callbackStep rpc action = some (after, answer))
    (running : rpc.handler = .running) : after.handler = .running := by
  cases action with
  | pump_inbound =>
      rcases Option.map_eq_some_iff.mp stepped with ⟨_, _, equal⟩
      cases equal
      exact running
  | poll_frame =>
      simp only [callbackStep, CallbackCall.poll_frame] at stepped
      split at stepped
      · cases stepped
        exact running
      · cases stepped
  | hang_up =>
      cases stepped
      exact running
  | reclaim => simp [callbackStep, running] at stepped
  | send_status => simp [callbackStep, running] at stepped
  | read => cases allowed
  | write => cases allowed
  | returns => cases allowed

/-- What one step does to the memory. -/
theorem effect_of_change {action : CallbackHostAction} (sound : host.Sound)
    (change : CallbackHostChange fromAnsi host action next reply) :
    CallbackHostEffect host action.index next := by
  cases change with
  | refused => exact .same _
  | arrives opened =>
      have running : ∀ path body rpc, handle path body = .ok rpc → rpc.handler = .running := by
        intro path body rpc opened
        unfold handle at opened
        split at opened
        · cases opened
        · cases opened
          rfl
      exact .adds _ rfl ⟨trivial, fun _ => running _ _ _ opened⟩
  | task at_ allowed stepped =>
      refine .quiet sound at_ rfl fun own => ?_
      exact ⟨own.1, fun notLeft => task_running allowed stepped (own.2 notLeft)⟩
  | enters at_ assigned =>
      refine .quiet sound at_ rfl fun own => ?_
      exact ⟨trivial, fun _ => own.2 (by simp)⟩
  | reads at_ received v items =>
      rcases sound.parties _ _ at_ with ⟨_, running⟩
      refine .updates _ _ _ _ at_ ?_ ?_ ⟨⟨_, ZprBuffer.holds_from_vec host.memory v⟩, ?_⟩
      · exact (host.memory.keys_lend v).symm
      · exact fun id member _ => Loans.find?_lend v member
      · exact fun _ => (stream_read_handler received).trans (running (by simp))
  | reads_end at_ received =>
      refine .quiet sound at_ rfl fun own => ?_
      exact ⟨trivial, fun _ => (stream_read_handler received).trans (own.2 (by simp))⟩
  | copies at_ copied =>
      rcases sound.parties _ _ at_ with ⟨⟨bytes, holds⟩, running⟩
      rcases BufferToBytes_of_holds holds with ⟨rest, result, same, keys⟩
      cases result.symm.trans copied
      refine .updates _ _ _ _ at_ keys (fun id _ outside => same id outside) ⟨trivial, ?_⟩
      exact fun _ => running (by simp)
  | writes at_ written =>
      refine .quiet sound at_ rfl fun own => ?_
      exact ⟨trivial, fun _ => (stream_write_handler written).trans (own.2 (by simp))⟩
  | ends at_ ending ended =>
      rename_i index rpc before Status Msg OutMessage memory
      have own : action.index = some index := by cases ending <;> rfl
      rw [own]
      rcases sound.parties _ _ at_ with ⟨_, running⟩
      have notLeft : before ≠ .left ∧ before.blocks = [] := by
        cases ending <;> exact ⟨by simp, rfl⟩
      rcases trampolineEnd_spec host.memory Status Msg with
        ⟨address, after, result, holds, same, keys⟩
      cases result.symm.trans ended
      refine .updates _ _ _ _ at_ ?_ (fun id member _ => same id member)
        ⟨⟨Msg, holds, rfl⟩, fun _ => running notLeft.1⟩
      show (before.blocks ++ memory.lent.keys).Perm (OutMessage.blocks ++ host.memory.lent.keys)
      rw [notLeft.2]
      exact keys.symm
  | message_taken at_ taken running =>
      rcases sound.parties _ _ at_ with ⟨⟨Msg, holds, rfl⟩, _⟩
      rcases takeMessage_of_holds holds with ⟨bytes, rest, result, _, same, keys⟩
      cases result.symm.trans taken
      refine .updates _ _ _ _ at_ keys (fun id _ outside => same id outside) ⟨trivial, ?_⟩
      exact fun notLeft => absurd rfl notLeft
  | thread_starts =>
      exact .adds _ rfl fun one member => absurd member List.not_mem_nil
  | hands handed at_ =>
      rename_i index received
      rcases Handed.receive_spec host.memory handed with ⟨own, same, keys⟩
      have before := sound.parties _ _ at_
      refine .updates _ _ _ _ at_ ?_ (fun id member _ => same id member) ?_
      · show (received.flatMap Received.blocks ++ _).Perm
          ((received ++ [(handed.receive host.memory).1]).flatMap Received.blocks ++ _)
        rw [List.flatMap_append, List.flatMap_singleton, List.append_assoc]
        exact keys.symm.append_left _
      · intro one member
        rcases List.mem_append.mp member with earlier | last
        · refine (before one earlier).elsewhere fun id held => same id ?_
          exact sound.custody.mem_keys at_ (List.mem_flatMap.mpr ⟨one, earlier, held⟩)
        · cases List.mem_singleton.mp last
          exact own
  | takes at_ taken defined =>
      rename_i index one received memory
      have before := sound.parties _ _ at_
      have distinct : ((one :: received).flatMap Received.blocks).Nodup := sound.custody.nodup at_
      rw [List.flatMap_cons] at distinct
      rcases Received.take_of_sound fromAnsi (before one List.mem_cons_self) with
        ⟨answer, rest, result, _, same, keys⟩
      cases result.symm.trans taken
      refine .updates _ _ _ _ at_ ?_ ?_ ?_
      · show ((one :: received).flatMap Received.blocks ++ _).Perm
          (received.flatMap Received.blocks ++ _)
        rw [List.flatMap_cons, List.append_assoc]
        exact (List.perm_append_comm_assoc ..).trans (keys.append_left _)
      · intro id _ outside
        exact same id fun held => outside (List.mem_append_left _ held)
      · intro other member
        refine (before other (List.mem_cons_of_mem _ member)).elsewhere fun id held => same id ?_
        intro heldToo
        have apart := List.disjoint_of_nodup_append distinct
        exact apart heldToo (List.mem_flatMap.mpr ⟨other, member, held⟩)

theorem defined_of_change {action : CallbackHostAction}
    (change : CallbackHostChange fromAnsi host action next reply) :
    reply ≠ .undefined := by
  cases change with
  | takes _ _ defined => exact defined
  | _ => simp

theorem sound_start (assigned : Bool) : (CallbackHost.start assigned).Sound :=
  ⟨List.Perm.refl _, fun index party found => by simp [CallbackHost.start] at found⟩

/-- In every run the memory is sound, and nothing is undefined. -/
theorem sound_of_run {assigned : Bool}
    (run : Run (callbackHostStep fromAnsi) (.start assigned) trace host) :
    host.Sound ∧ ∀ event ∈ trace, event.2 ≠ .undefined := by
  refine run.invariant (fun trace host => host.Sound ∧ ∀ event ∈ trace, event.2 ≠ .undefined)
    ⟨sound_start assigned, fun event member => absurd member List.not_mem_nil⟩ ?_
  intro trace state action nextState answer _ known _ taken
  have change := change_of_step known.1 taken
  refine ⟨(effect_of_change known.1 change).sound known.1, fun event member => ?_⟩
  rcases List.mem_append.mp member with earlier | last
  · exact known.2 event earlier
  · cases List.mem_singleton.mp last
    exact defined_of_change change

end

end Zpr.Pascal
