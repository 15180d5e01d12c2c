import Zpr.ErrorSlot.Calls

namespace Zpr.ErrorSlot

open Ffi Json Protobuf

/-! # Whether the slot speaks of the last call

A call that fails and stores nothing leaves the message of another call in the slot, and
so does a call that succeeds. -/

/-- The value that a handle stands for. -/
def holds (heap : Heap) (handle : Handle) : Option Value :=
  handle.bind fun box => (heap[box]?).join

/-- The failures that store no message. -/
def Silent {Pool : Type} : Call Pool → Prop
  | .zpr_json_kind _ handle => handle = none
  | .zpr_json_as_bool heap handle _ => ¬ ∃ b, holds heap handle = some (.Bool b)
  | .zpr_json_as_f64 heap handle _ => ¬ ∃ n, holds heap handle = some (.Number n)
  | .zpr_json_as_string heap handle => ¬ ∃ s, holds heap handle = some (.String s)
  | .zpr_json_array_len heap handle => ¬ ∃ a, holds heap handle = some (.Array a)
  | .zpr_json_array_get heap handle index =>
      ¬ ∃ a, holds heap handle = some (.Array a) ∧ index < a.length
  | .zpr_json_object_get heap handle key =>
      ∃ name, cstr_to_str key = .ok name ∧
        ¬ ∃ o, holds heap handle = some (.Object o) ∧ (o.lookup name).isSome
  | .zpr_json_object_keys heap handle => ¬ ∃ o, holds heap handle = some (.Object o)
  | .zpr_json_array_push heap array value =>
      array = none ∨ value = none ∨ ¬ ∃ a, holds heap array = some (.Array a)
  | .zpr_json_object_set heap object key value =>
      object = none ∨ value = none ∨
        ∃ name, cstr_to_str key = .ok name ∧ ¬ ∃ o, holds heap object = some (.Object o)
  | .zpr_grpc_server_stop handle => handle = .null
  | _ => False

/-- What a call's ending has to do with its being silent. -/
structure Judged {Pool : Type} (call : Call Pool) (ending : Ending) : Prop where
  paired : ¬ Silent call → ending.Paired
  silent : Silent call → ending.result.fails = true ∧ ending.stored = none

variable {Pool Descriptor Message Deserializer : Type}

section

variable {call : Call Pool} {ending : Ending}

theorem judged_of_paired (never : ¬ Silent call) (paired : ending.Paired) :
    Judged call ending :=
  ⟨fun _ => paired, fun silent => absurd silent never⟩

theorem judged_missing {result : Result} (silent : Silent call) (fails : result.fails = true) :
    Judged call (returned result) :=
  ⟨fun speaks => absurd silent speaks, fun _ => ⟨fails, rfl⟩⟩

theorem judged_present {result : Result} (speaks : ¬ Silent call)
    (succeeds : result.fails = false) : Judged call (returned result) :=
  judged_of_paired speaks (returned_paired succeeds)

end

/-! ## JSON -/

/-- A view of exactly the values that one constructor makes. -/
def Recognizes (view : Value → Option α) (make : β → Value) : Prop :=
  ∀ v, view v = none ↔ ¬ ∃ b, v = make b

theorem as_bool_recognizes : Recognizes as_bool .Bool := by
  intro v
  cases v <;> simp [as_bool]

theorem as_f64_recognizes : Recognizes as_f64 .Number := by
  intro v
  cases v <;> simp [as_f64]

theorem as_str_recognizes : Recognizes as_str .String := by
  intro v
  cases v <;> simp [as_str]

theorem as_array_recognizes : Recognizes as_array .Array := by
  intro v
  cases v <;> simp [as_array]

theorem as_object_recognizes : Recognizes as_object .Object := by
  intro v
  cases v <;> simp [as_object]

section

variable {view : Value → Option α} {make : β → Value} {found : Option Value}

theorem Recognizes.bind_eq_none (recognizes : Recognizes view make) :
    found.bind view = none ↔ ¬ ∃ b, found = some (make b) := by
  cases found with
  | none => simp
  | some v => simpa using recognizes v

theorem Recognizes.of_bind_eq_some (recognizes : Recognizes view make) {a : α}
    (viewed : found.bind view = some a) : ¬ ¬ ∃ b, found = some (make b) := by
  rw [← recognizes.bind_eq_none, viewed]
  exact Option.some_ne_none a

end

theorem bind_as_array_eq_some {v : Option Value} {a : List Value} :
    v.bind as_array = some a ↔ v = some (.Array a) := by
  rcases v with _ | v
  · simp
  · cases v <;> simp [as_array]

theorem bind_as_object_eq_some {v : Option Value} {o : List (String × Value)} :
    v.bind as_object = some o ↔ v = some (.Object o) := by
  rcases v with _ | v
  · simp
  · cases v <;> simp [as_object]

theorem handle_ref_eq {heap : Heap} {handle : Handle} {v : Option Value}
    (borrowed : handle_ref heap handle = .ok v) : v = holds heap handle := by
  cases handle with
  | none =>
      cases borrowed
      rfl
  | some box =>
      simp only [handle_ref, Heap.read] at borrowed
      split at borrowed
      · rename_i found
        cases borrowed
        simp [holds, found]
      · cases borrowed

/-- An entry point that borrows the value of a handle. -/
theorem ofJson_map_eq_some {heap : Heap} {handle : Handle} {view : α → Result}
    {body : Option Value → Answer α} {ending : Ending}
    (ends : ofJson view ((handle_ref heap handle).map body) = some ending) :
    ending = ofAnswer view (body (holds heap handle)) := by
  cases borrowed : handle_ref heap handle with
  | error fault =>
      rw [borrowed] at ends
      cases ends
  | ok v =>
      rw [borrowed, handle_ref_eq borrowed] at ends
      exact (Option.some.inj ends).symm

section

variable {outside : Outside Pool Descriptor Message Deserializer} {heap : Heap} {handle : Handle}
  {ending : Ending}

theorem stringify_judged {pretty : Int}
    (ends : (Call.zpr_json_stringify heap handle pretty).ending outside = some ending) :
    Judged (.zpr_json_stringify heap handle pretty : Call Pool) ending := by
  apply judged_of_paired id
  rw [ofJson_map_eq_some ends]
  cases holds heap handle with
  | none => rfl
  | some v =>
      dsimp only
      split <;> rfl

theorem kind_judged (ends : (Call.zpr_json_kind heap handle).ending outside = some ending) :
    Judged (.zpr_json_kind heap handle : Call Pool) ending := by
  cases handle with
  | none =>
      cases ends
      exact judged_missing rfl rfl
  | some box =>
      simp only [Call.ending, Json.zpr_json_kind, handle_ref] at ends
      cases read : heap.read box with
      | error fault =>
          rw [read] at ends
          cases ends
      | ok v =>
          rw [read] at ends
          cases ends
          apply judged_present
          · simp [Silent]
          · cases v <;> rfl

theorem as_bool_judged {out : Pointer}
    (ends : (Call.zpr_json_as_bool heap handle out).ending outside = some ending) :
    Judged (.zpr_json_as_bool heap handle out : Call Pool) ending := by
  rw [ofJson_map_eq_some ends]
  cases found : (holds heap handle).bind as_bool with
  | none => exact judged_missing (as_bool_recognizes.bind_eq_none.mp found) rfl
  | some b => exact judged_present (as_bool_recognizes.of_bind_eq_some found) rfl

theorem as_f64_judged {out : Pointer}
    (ends : (Call.zpr_json_as_f64 heap handle out).ending outside = some ending) :
    Judged (.zpr_json_as_f64 heap handle out : Call Pool) ending := by
  rw [ofJson_map_eq_some ends]
  cases found : (holds heap handle).bind as_f64 with
  | none => exact judged_missing (as_f64_recognizes.bind_eq_none.mp found) rfl
  | some n => exact judged_present (as_f64_recognizes.of_bind_eq_some found) rfl

theorem as_string_judged
    (ends : (Call.zpr_json_as_string heap handle).ending outside = some ending) :
    Judged (.zpr_json_as_string heap handle : Call Pool) ending := by
  rw [ofJson_map_eq_some ends]
  cases found : (holds heap handle).bind as_str with
  | none => exact judged_missing (as_str_recognizes.bind_eq_none.mp found) rfl
  | some t => exact judged_present (as_str_recognizes.of_bind_eq_some found) rfl

theorem array_len_judged
    (ends : (Call.zpr_json_array_len heap handle).ending outside = some ending) :
    Judged (.zpr_json_array_len heap handle : Call Pool) ending := by
  rw [ofJson_map_eq_some ends]
  cases found : (holds heap handle).bind as_array with
  | none => exact judged_missing (as_array_recognizes.bind_eq_none.mp found) rfl
  | some a =>
      have succeeds : (Result.length a.length).fails = false := by simp [Result.fails]
      exact judged_present (as_array_recognizes.of_bind_eq_some found) succeeds

/-- The two getters answer with null where they find nothing. -/
theorem cloned_judged {call : Call Pool} {found : Option Value}
    (silent : Silent call ↔ found = none) :
    Judged call (ofAnswer ofHandle (heap.cloned found)) := by
  cases found with
  | none => exact judged_missing (silent.mpr rfl) rfl
  | some v => exact judged_present (fun isSilent => by simp [silent] at isSilent) rfl

theorem array_get_judged {index : Nat}
    (ends : (Call.zpr_json_array_get heap handle index).ending outside = some ending) :
    Judged (.zpr_json_array_get heap handle index : Call Pool) ending := by
  rw [ofJson_map_eq_some ends]
  apply cloned_judged
  rw [Silent, not_iff_comm, ← ne_eq, Option.ne_none_iff_exists']
  constructor
  · rintro ⟨v, found⟩
    rcases Option.bind_eq_some_iff.mp found with ⟨a, isArray, inside⟩
    exact ⟨a, bind_as_array_eq_some.mp isArray, (List.getElem?_eq_some_iff.mp inside).1⟩
  · rintro ⟨a, isArray, inside⟩
    refine ⟨a[index], Option.bind_eq_some_iff.mpr ⟨a, bind_as_array_eq_some.mpr isArray, ?_⟩⟩
    exact List.getElem?_eq_getElem inside

theorem object_get_judged {key : Option Bytes}
    (ends : (Call.zpr_json_object_get heap handle key).ending outside = some ending) :
    Judged (.zpr_json_object_get heap handle key : Call Pool) ending := by
  cases decoded : cstr_to_str key with
  | error e =>
      simp only [Call.ending, Json.zpr_json_object_get, decoded] at ends
      cases ends
      apply judged_of_paired
      · simp [Silent, decoded]
      · rfl
  | ok name =>
      simp only [Call.ending, Json.zpr_json_object_get, decoded] at ends
      rw [ofJson_map_eq_some ends]
      apply cloned_judged
      simp only [Silent, decoded, Except.ok.injEq, exists_eq_left']
      rw [not_iff_comm, ← ne_eq, Option.ne_none_iff_exists']
      constructor
      · rintro ⟨v, found⟩
        rcases Option.bind_eq_some_iff.mp found with ⟨o, isObject, present⟩
        exact ⟨o, bind_as_object_eq_some.mp isObject, Option.isSome_of_eq_some present⟩
      · rintro ⟨o, isObject, present⟩
        rcases Option.isSome_iff_exists.mp present with ⟨v, found⟩
        exact ⟨v, Option.bind_eq_some_iff.mpr ⟨o, bind_as_object_eq_some.mpr isObject, found⟩⟩

theorem object_keys_judged
    (ends : (Call.zpr_json_object_keys heap handle).ending outside = some ending) :
    Judged (.zpr_json_object_keys heap handle : Call Pool) ending := by
  rw [ofJson_map_eq_some ends]
  cases found : (holds heap handle).bind as_object with
  | none => exact judged_missing (as_object_recognizes.bind_eq_none.mp found) rfl
  | some o =>
      have speaks : ¬ Silent (.zpr_json_object_keys heap handle : Call Pool) :=
        as_object_recognizes.of_bind_eq_some found
      dsimp only
      split
      · exact judged_present speaks rfl
      · exact judged_present speaks rfl

/-- What is found after a value has been taken was there before. -/
theorem Heap.read_of_from_raw {rest : Heap} {value box : Nat} {v c : Value}
    (taken : Heap.from_raw heap value = .ok (v, rest)) (read : Heap.read rest box = .ok c) :
    heap[box]? = some (some c) := by
  rw [Heap.from_raw] at taken
  split at taken
  · rename_i found
    cases taken
    rw [Heap.read] at read
    split at read
    · rename_i held
      cases read
      by_cases same : value = box
      · subst same
        simp [List.getElem?_set] at held
      · rwa [List.getElem?_set_ne same] at held
    · cases read
  · cases taken

/-- What the two calls that take a value over answer once it has been taken. -/
theorem consume_ending {container value : Nat} {put : Value → Value → Option Value}
    (ends : ofJson .code (consume heap container value put) = some ending) :
    ∃ c v, holds heap (some container) = some c ∧
      ((put c v = none ∧ ending = returned (.code ZPR_ERR)) ∨
        ((put c v).isSome ∧ ending = returned (.code ZPR_OK))) := by
  rw [consume] at ends
  cases taken : heap.from_raw value with
  | error fault =>
      rw [taken] at ends
      cases ends
  | ok moved =>
      rcases moved with ⟨v, rest⟩
      rw [taken] at ends
      dsimp only at ends
      cases read : rest.read container with
      | error fault =>
          rw [read] at ends
          cases ends
      | ok c =>
          rw [read] at ends
          have held : holds heap (some container) = some c := by
            rw [holds, Option.bind_some, Heap.read_of_from_raw taken read]
            rfl
          refine ⟨c, v, held, ?_⟩
          cases placed : put c v with
          | none =>
              simp only [Except.map, placed] at ends
              cases ends
              exact .inl ⟨rfl, rfl⟩
          | some c' =>
              simp only [Except.map, placed] at ends
              cases ends
              exact .inr ⟨rfl, rfl⟩

theorem array_push_judged {array value : Handle}
    (ends : (Call.zpr_json_array_push heap array value).ending outside = some ending) :
    Judged (.zpr_json_array_push heap array value : Call Pool) ending := by
  cases array with
  | none =>
      cases ends
      exact judged_missing (.inl rfl) rfl
  | some container =>
      cases value with
      | none =>
          cases ends
          exact judged_missing (.inr (.inl rfl)) rfl
      | some box =>
          rcases consume_ending ends with ⟨c, v, held, ⟨missing, rfl⟩ | ⟨placed, rfl⟩⟩
          · have noArray : ¬ ∃ a, holds heap (some container) = some (.Array a) := by
              rw [pushElement, Option.map_eq_none_iff] at missing
              rw [← as_array_recognizes.bind_eq_none, held]
              exact missing
            exact judged_missing (.inr (.inr noArray)) rfl
          · apply judged_present _ rfl
            rw [pushElement, Option.isSome_map, Option.isSome_iff_ne_none] at placed
            simp only [Silent, reduceCtorEq, false_or, ← as_array_recognizes.bind_eq_none, held]
            exact placed

theorem object_set_judged {object value : Handle} {key : Option Bytes}
    (ends : (Call.zpr_json_object_set heap object key value).ending outside = some ending) :
    Judged (.zpr_json_object_set heap object key value : Call Pool) ending := by
  cases object with
  | none =>
      cases ends
      exact judged_missing (.inl rfl) rfl
  | some container =>
      cases value with
      | none =>
          cases ends
          exact judged_missing (.inr (.inl rfl)) rfl
      | some box =>
          cases decoded : cstr_to_str key with
          | error e =>
              simp only [Call.ending, Json.zpr_json_object_set, decoded] at ends
              cases ends
              apply judged_of_paired
              · simp [Silent, decoded]
              · rfl
          | ok name =>
              simp only [Call.ending, Json.zpr_json_object_set, decoded] at ends
              rcases consume_ending ends with ⟨c, v, held, ⟨missing, rfl⟩ | ⟨placed, rfl⟩⟩
              · have noObject : ¬ ∃ o, holds heap (some container) = some (.Object o) := by
                  rw [setField, Option.map_eq_none_iff] at missing
                  rw [← as_object_recognizes.bind_eq_none, held]
                  exact missing
                exact judged_missing (.inr (.inr ⟨name, decoded, noObject⟩)) rfl
              · apply judged_present _ rfl
                rw [setField, Option.isSome_map, Option.isSome_iff_ne_none] at placed
                simp only [Silent, reduceCtorEq, false_or, decoded, Except.ok.injEq,
                  exists_eq_left', ← as_object_recognizes.bind_eq_none, held]
                exact placed

end

/-! ## Streams -/

/-- The two ways in which a copy into the caller's buffer ends. -/
theorem copied_paired (bytes : Bytes) (buffer : Buffer) {code : Int} (found : 0 ≤ code) :
    ((copy_into bytes buffer).rc ≠ ZPR_OK →
      (Ending.mk (.code (copy_into bytes buffer).rc) (copy_into bytes buffer).last_error).Paired) ∧
    (¬ (copy_into bytes buffer).rc ≠ ZPR_OK →
      (Ending.mk (.code code) (copy_into bytes buffer).last_error).Paired) := by
  rcases copy_into_last_error bytes buffer with ⟨ok, nothing⟩ | ⟨negative, stored⟩
  · constructor
    · exact fun failed => absurd ok failed
    · intro _
      rw [nothing]
      simpa [Ending.Paired, Result.fails] using found
  · constructor
    · intro _
      rw [Ending.Paired, stored]
      simpa [Result.fails] using negative
    · intro ok
      rw [not_ne_iff.mp ok] at negative
      exact absurd negative (by decide)

open Grpc in
theorem onHandle_paired {call next : ClientCall} {stream : Pointer} {complaint reply : Grpc.Reply}
    {body : GrpcClientStream → Option (ClientCall × Grpc.Reply)}
    (complains : (ofStream complaint).Paired)
    (answers : ∀ s next reply, body s = some (next, reply) → (ofStream reply).Paired)
    (taken : call.onHandle stream complaint body = some (next, reply)) :
    (ofStream reply).Paired := by
  cases stream with
  | null =>
      cases taken
      exact complains
  | valid =>
      rcases Option.bind_eq_some_iff.mp taken with ⟨s, _, answered⟩
      exact answers s next reply answered

open Grpc in
theorem read_into_paired {s after : GrpcClientStream} {buffer : Buffer} {reply : BufferReply}
    (taken : zpr_grpc_client_stream_read_into s buffer = some (after, reply)) :
    (Ending.mk (.code reply.rc) reply.last_error).Paired := by
  rcases Option.map_eq_some_iff.mp taken with ⟨⟨read, found⟩, _, answered⟩
  cases found with
  | message bytes =>
      have paired := copied_paired bytes buffer (show (0 : Int) ≤ 1 by decide)
      dsimp only at answered
      split at answered
      · rename_i failed
        cases answered
        exact paired.1 failed
      · rename_i ok
        cases answered
        exact paired.2 ok
  | finished =>
      cases answered
      rfl
  | failed e =>
      cases answered
      rfl

open Grpc in
theorem buffer_paired (call : ClientCall) (s : GrpcClientStream) (capacity : Nat) :
    (ofStream (call.zpr_grpc_client_stream_buffer s capacity).2).Paired := by
  rw [ClientCall.zpr_grpc_client_stream_buffer]
  split
  · rfl
  · split <;> rfl

/-- The actions of a host. -/
def hostAction : Grpc.Action → Bool
  | .arrive _ | .pump => false
  | _ => true

open Grpc in
theorem clientStep_paired {call next : ClientCall} {action : Grpc.Action} {reply : Grpc.Reply}
    (host : hostAction action = true) (taken : clientStep call action = some (next, reply)) :
    (ofStream reply).Paired := by
  cases action with
  | arrive incoming => cases host
  | pump => cases host
  | read stream out =>
      refine onHandle_paired ?_ ?_ taken
      · rfl
      · intro s next reply answered
        rcases Option.map_eq_some_iff.mp answered with ⟨⟨after, result⟩, read, same⟩
        rcases Option.map_eq_some_iff.mp read with ⟨⟨found, what⟩, _, given⟩
        cases same
        cases what <;> cases given <;> rfl
  | read_into stream buffer =>
      refine onHandle_paired ?_ ?_ taken
      · rfl
      · intro s next reply answered
        rcases Option.map_eq_some_iff.mp answered with ⟨⟨after, result⟩, read, same⟩
        cases same
        exact read_into_paired read
  | buffer stream capacity =>
      refine onHandle_paired ?_ ?_ taken
      · rfl
      · intro s next reply answered
        rw [← (Prod.mk.inj (Option.some.inj answered)).2]
        exact buffer_paired call s capacity
  | stats stream out_depth out_dropped =>
      refine onHandle_paired ?_ ?_ taken
      · rfl
      · intro s next reply answered
        cases answered
        rw [zpr_grpc_client_stream_stats]
        split <;> rfl
  | cancel stream =>
      refine onHandle_paired ?_ ?_ taken
      · rfl
      · intro s next reply answered
        cases answered
        rfl

/-- The actions of a host on a bidirectional call. -/
def bidiHostAction : Grpc.Bidi.CallAction → Bool
  | .arrive _ | .poll_next | .pump => false
  | _ => true

open Grpc Grpc.Bidi in
theorem bidiCallStep_paired {call next : BidiCall} {action : CallAction} {reply : Grpc.Reply}
    (host : bidiHostAction action = true)
    (taken : bidiCallStep call action = some (next, reply)) : (ofStream reply).Paired := by
  cases action with
  | arrive incoming => cases host
  | poll_next => cases host
  | pump => cases host
  | send stream data bytes =>
      rcases Option.map_eq_some_iff.mp taken with ⟨s, _, same⟩
      cases same
      cases s with
      | none => rfl
      | some s =>
          dsimp only
          split_ifs
          · rfl
          · rfl
          · split <;> rfl
  | close_send stream =>
      rcases Option.map_eq_some_iff.mp taken with ⟨s, _, same⟩
      cases same
      cases s <;> rfl
  | read_into stream buffer =>
      rcases Option.bind_eq_some_iff.mp taken with ⟨s, _, answered⟩
      rcases Option.map_eq_some_iff.mp answered with ⟨⟨after, result⟩, read, same⟩
      cases same
      cases s with
      | none =>
          cases read
          rfl
      | some s =>
          rcases Option.map_eq_some_iff.mp read with ⟨⟨reader, given⟩, readReader, equal⟩
          cases equal
          exact read_into_paired readReader
  | buffer stream capacity =>
      rcases Option.map_eq_some_iff.mp taken with ⟨s, _, same⟩
      cases s with
      | none =>
          cases same
          rfl
      | some s =>
          rw [← (Prod.mk.inj same).2]
          exact buffer_paired call.response s.reader capacity
  | cancel stream =>
      rcases Option.map_eq_some_iff.mp taken with ⟨s, _, same⟩
      cases s with
      | none =>
          cases same
          rfl
      | some s =>
          cases same
          rfl

/-! ## The queued server -/

/-- The actions of a host that answers calls. -/
def serverHostAction : GrpcServer.Action → Bool
  | .accept _ _ | .read_into _ _ | .write _ _ _ | .complete _ _ _ | .configure _ _ => true
  | _ => false

open GrpcServer in
theorem accept_paired (q : CallQueue) (out_call_id : Pointer) (out_method : Buffer) :
    (ofServer (.accepted (zpr_grpc_accept q out_call_id out_method).2)).Paired := by
  rw [zpr_grpc_accept]
  split
  · rfl
  · rename_i id path pending _
    have paired := copied_paired (as_bytes path) out_method
      (show (0 : Int) ≤ ZPR_CALL_MESSAGE by decide)
    dsimp only
    split
    · exact paired.1 ‹_›
    · exact paired.2 ‹_›

open GrpcServer in
theorem LiveCall.read_into_paired (call : LiveCall) (inbound : Channel Bytes) (buffer : Buffer) :
    (ofServer (.read (call.read_into inbound buffer).2.2)).Paired := by
  rw [LiveCall.read_into]
  split
  · rename_i bytes _
    have paired := copied_paired bytes buffer (show (0 : Int) ≤ ZPR_CALL_MESSAGE by decide)
    dsimp only
    split
    · exact paired.1 ‹_›
    · exact paired.2 ‹_›
  · split
    · rfl
    · split
      · rename_i bytes _
        have paired := copied_paired bytes buffer (show (0 : Int) ≤ ZPR_CALL_MESSAGE by decide)
        dsimp only
        split
        · exact paired.1 ‹_›
        · exact paired.2 ‹_›
      · rfl
      · rfl

open GrpcServer in
theorem serverStep_paired {server next : Server} {action : GrpcServer.Action}
    {reply : GrpcServer.Reply} (host : serverHostAction action = true)
    (taken : serverStep server action = some (next, reply)) : (ofServer reply).Paired := by
  cases action with
  | accept out_call_id out_method =>
      cases taken
      exact accept_paired server.queue out_call_id out_method
  | read_into call_id buffer =>
      simp only [serverStep, Server.call_read_into] at taken
      split at taken
      · cases taken
        rfl
      · rename_i call _
        rcases Option.map_eq_some_iff.mp taken with ⟨rpc, _, same⟩
        rw [← (Prod.mk.inj same).2]
        exact LiveCall.read_into_paired call rpc.inbound buffer
  | write call_id data bytes =>
      simp only [serverStep, Server.call_write] at taken
      split at taken
      · cases taken
        rfl
      · split at taken
        · cases taken
          rfl
        · rcases Option.map_eq_some_iff.mp taken with ⟨rpc, _, same⟩
          split at same <;> cases same <;> rfl
  | complete call_id grpc_status message =>
      simp only [serverStep, Server.call_complete] at taken
      split at taken
      · cases taken
        rfl
      · split at taken <;> cases taken <;> rfl
  | configure max_pending deadline_ms =>
      simp only [serverStep, Server.queue_configure] at taken
      split at taken <;> cases taken <;> rfl
  | _ => cases host

/-! ## Every call -/

section

variable {outside : Outside Pool Descriptor Message Deserializer} {ending : Ending}

theorem calling_paired (badPath : String → String → String)
    (endpoint method_path metadata_json : Option Bytes) (answered : Answered) :
    (calling outside badPath endpoint method_path metadata_json answered).Paired := by
  rw [calling]
  split
  · rfl
  · rcases answered with _ | _ | _ <;> rfl

theorem json_to_binary_paired (pool : Option Pool) (message_type json : Option Bytes)
    (out : Pointer) :
    let encoded := zpr_protobuf_json_to_binary outside.messages outside.reader pool message_type
      json out
    (Ending.mk (.code encoded.rc) encoded.last_error).Paired := by
  dsimp only
  unfold zpr_protobuf_json_to_binary
  repeat' split
  all_goals rfl

theorem json_value_to_binary_paired {heap : Heap} {pool : Option Pool}
    {message_type : Option Bytes} {value : Handle}
    (ends : zpr_protobuf_json_value_to_binary outside heap pool message_type value =
      some ending) : ending.Paired := by
  unfold ErrorSlot.zpr_protobuf_json_value_to_binary at ends
  split at ends
  · split at ends
    · cases ends
      rfl
    · split at ends
      · cases ends
        rfl
      · split at ends
        · cases ends
        · cases ends
          exact reported_paired rfl rfl _
  · cases ends
    rfl

theorem onQueue_paired {queue : Pointer} {entry : String} {body : Option Ending}
    (answers : ∀ answer, body = some answer → answer.Paired)
    (ends : onQueue queue entry body = some ending) : ending.Paired := by
  cases queue with
  | null =>
      cases ends
      rfl
  | valid => exact answers ending ends

theorem onServer_paired {queue : Pointer} {entry : String} {server : GrpcServer.Server}
    {action : GrpcServer.Action} (host : serverHostAction action = true)
    (ends : onQueue queue entry ((GrpcServer.serverStep server action).map fun (_, reply) =>
      ofServer reply) = some ending) : ending.Paired := by
  apply onQueue_paired _ ends
  intro answer answered
  rcases Option.map_eq_some_iff.mp answered with ⟨⟨next, reply⟩, taken, same⟩
  cases same
  exact serverStep_paired host taken

theorem onStream_paired {call : Grpc.ClientCall} {action : Grpc.Action}
    (host : hostAction action = true)
    (ends : (Grpc.clientStep call action).map (fun (_, reply) => ofStream reply) = some ending) :
    ending.Paired := by
  rcases Option.map_eq_some_iff.mp ends with ⟨⟨next, reply⟩, taken, same⟩
  cases same
  exact clientStep_paired host taken

theorem onBidi_paired {call : Grpc.Bidi.BidiCall} {action : Grpc.Bidi.CallAction}
    (host : bidiHostAction action = true)
    (ends : (Grpc.Bidi.bidiCallStep call action).map (fun (_, reply) => ofStream reply) =
      some ending) : ending.Paired := by
  rcases Option.map_eq_some_iff.mp ends with ⟨⟨next, reply⟩, taken, same⟩
  cases same
  exact bidiCallStep_paired host taken

theorem ending_judged {call : Call Pool} (ends : call.ending outside = some ending) :
    Judged call ending := by
  cases call with
  | zpr_json_kind heap handle => exact kind_judged ends
  | zpr_json_as_bool heap handle out => exact as_bool_judged ends
  | zpr_json_as_f64 heap handle out => exact as_f64_judged ends
  | zpr_json_as_string heap handle => exact as_string_judged ends
  | zpr_json_array_len heap handle => exact array_len_judged ends
  | zpr_json_array_get heap handle index => exact array_get_judged ends
  | zpr_json_object_get heap handle key => exact object_get_judged ends
  | zpr_json_object_keys heap handle => exact object_keys_judged ends
  | zpr_json_array_push heap array value => exact array_push_judged ends
  | zpr_json_object_set heap object key value => exact object_set_judged ends
  | zpr_json_stringify heap handle pretty => exact stringify_judged ends
  | zpr_grpc_server_stop handle =>
      cases ends
      cases handle with
      | null => exact judged_missing rfl rfl
      | valid => exact judged_present (fun silent => by cases silent) rfl
  -- the rest always says something
  | zpr_buffer_free | zpr_alloc | zpr_string_free | zpr_version | zpr_protobuf_pool_free
  | zpr_grpc_queue_free | zpr_transcode_stop | zpr_json_new_null | zpr_json_new_bool
  | zpr_json_new_f64 | zpr_json_new_array | zpr_json_new_object =>
      cases ends
      exact judged_present id rfl
  | zpr_http_set_proxy built proxy_url =>
      cases ends
      apply judged_of_paired id
      unfold zpr_http_set_proxy
      split
      · rfl
      · split
        · rfl
        · exact reported_paired rfl rfl _
  | zpr_http_request | zpr_protobuf_binary_to_json_value | zpr_protobuf_binary_to_json
  | zpr_grpc_server_start_queued | zpr_grpc_server_start =>
      cases ends
      exact judged_of_paired id (reported_paired rfl rfl _)
  | zpr_json_parse heap text =>
      cases ends
      apply judged_of_paired id
      rw [zpr_json_parse_handle]
      split <;> rfl
  | zpr_json_new_string heap s =>
      cases ends
      apply judged_of_paired id
      rw [zpr_json_new_string]
      split <;> rfl
  | zpr_json_free heap handle =>
      apply judged_of_paired id
      cases handle with
      | none =>
          cases ends
          rfl
      | some box =>
          simp only [Call.ending, Json.zpr_json_free] at ends
          cases taken : heap.from_raw box with
          | error fault =>
              rw [taken] at ends
              cases ends
          | ok freed =>
              rw [taken] at ends
              cases ends
              rfl
  | zpr_grpc_set_proxy slot proxy_url =>
      cases ends
      apply judged_of_paired id
      split
      · rfl
      · split <;> rfl
  | zpr_grpc_call | zpr_grpc_client_stream_open | zpr_grpc_bidi_open =>
      cases ends
      exact judged_of_paired id (calling_paired _ _ _ _ _)
  | zpr_grpc_client_stream_read | zpr_grpc_client_stream_read_into
  | zpr_grpc_client_stream_buffer | zpr_grpc_client_stream_stats
  | zpr_grpc_client_stream_cancel => exact judged_of_paired id (onStream_paired rfl ends)
  | zpr_grpc_bidi_send | zpr_grpc_bidi_close_send | zpr_grpc_bidi_read_into
  | zpr_grpc_bidi_buffer | zpr_grpc_bidi_cancel =>
      exact judged_of_paired id (onBidi_paired rfl ends)
  | zpr_grpc_queue_configure | zpr_grpc_accept | zpr_grpc_call_read_into | zpr_grpc_call_write
  | zpr_grpc_call_complete => exact judged_of_paired id (onServer_paired rfl ends)
  | zpr_protobuf_json_value_to_binary heap pool message_type value =>
      exact judged_of_paired id (json_value_to_binary_paired ends)
  | zpr_protobuf_pool_new descriptor_set =>
      cases ends
      apply judged_of_paired id
      unfold zpr_protobuf_pool_new
      split
      · rfl
      · exact reported_paired rfl rfl _
  | zpr_protobuf_json_to_binary pool message_type json out =>
      cases ends
      exact judged_of_paired id (json_to_binary_paired pool message_type json out)
  | zpr_grpc_stream_read stream msg =>
      cases ends
      apply judged_of_paired id
      cases stream <;> cases msg <;> rfl
  | zpr_grpc_stream_write stream connected =>
      cases ends
      apply judged_of_paired id
      cases stream <;> cases connected <;> rfl
  | zpr_grpc_queue_counters queue | zpr_grpc_queue_stats queue =>
      cases ends
      apply judged_of_paired id
      cases queue <;> rfl
  | zpr_transcode_start bind_addr upstream pool listening =>
      cases ends
      apply judged_of_paired id
      cases pool with
      | null => rfl
      | valid => exact reported_paired rfl rfl _
  | panics guarded payload =>
      cases ends
      apply judged_of_paired id
      cases guarded <;> rfl

end

/-! ## Sequences of calls -/

/-- One call, with the slot before and after it. -/
def step (outside : Outside Pool Descriptor Message Deserializer) :
    PartialStep (Option String) (Call Pool) Ending := fun LAST_ERROR call =>
  (call.ending outside).map fun ending => (ending.slot LAST_ERROR, ending)

/-- After a call that fails the slot holds the message that this call stored, and after a
call that does not fail there is no text. -/
def Describes (outside : Outside Pool Descriptor Message Deserializer)
    (LAST_ERROR : Option String) (call : Call Pool) : Prop :=
  ∀ next ending, step outside LAST_ERROR call = some (next, ending) →
    (ending.result.fails = true →
      ∃ message, ending.stored = some message ∧ next = some (set_last_error message)) ∧
    (ending.result.fails = false → LastError next = "")

/-- The call does not fail in silence, and where it succeeds, no call before it has left a
message. -/
structure Plain (outside : Outside Pool Descriptor Message Deserializer)
    (LAST_ERROR : Option String) (call : Call Pool) : Prop where
  speaks : ¬ Silent call
  fresh : ∀ ending, call.ending outside = some ending → ending.result.fails = false →
    LastError LAST_ERROR = ""

section

variable {outside : Outside Pool Descriptor Message Deserializer} {LAST_ERROR : Option String}
  {call : Call Pool} {next : Option String} {ending : Ending}

/-- A call that succeeds leaves the slot as it is. -/
theorem slot_of_succeeds (judged : Judged call ending) (succeeds : ending.result.fails = false) :
    ending.slot LAST_ERROR = LAST_ERROR := by
  have nothing : ending.stored = none := by
    by_cases silent : Silent call
    · exact (judged.silent silent).2
    · rw [← Option.not_isSome_iff_eq_none, ← judged.paired silent, succeeds]
      exact Bool.false_ne_true
  rw [Ending.slot, nothing]
  rfl

theorem describes_iff (taken : step outside LAST_ERROR call = some (next, ending)) :
    Describes outside LAST_ERROR call ↔ Plain outside LAST_ERROR call := by
  rcases Option.map_eq_some_iff.mp taken with ⟨_, ends, same⟩
  cases same
  have judged := ending_judged ends
  constructor
  · intro describes
    constructor
    · intro silent
      rcases judged.silent silent with ⟨fails, nothing⟩
      rcases (describes _ _ taken).1 fails with ⟨message, stored, _⟩
      rw [nothing] at stored
      cases stored
    · intro other otherEnds succeeds
      cases Option.some.inj (ends.symm.trans otherEnds)
      have same : ending.slot LAST_ERROR = LAST_ERROR := slot_of_succeeds judged succeeds
      have empty := (describes _ _ taken).2 succeeds
      rwa [same] at empty
  · intro plain other result again
    cases Option.some.inj (taken.symm.trans again)
    constructor
    · intro fails
      have stored := judged.paired plain.speaks
      rw [Ending.Paired, fails] at stored
      rcases Option.isSome_iff_exists.mp stored.symm with ⟨message, given⟩
      exact ⟨message, given, by rw [Ending.slot, given]; rfl⟩
    · intro succeeds
      rw [slot_of_succeeds judged succeeds]
      exact plain.fresh ending ends succeeds

/-- What `Check` raises then is the message of the call that it checks. -/
theorem check_of_describes {rc : Int} (describes : Describes outside LAST_ERROR call)
    (taken : step outside LAST_ERROR call = some (next, ending))
    (result : ending.result = .code rc) (negative : rc < 0) :
    ∃ message, ending.stored = some message ∧ Check next rc = some (set_last_error message) := by
  have fails : ending.result.fails = true := by
    rw [result]
    simpa [Result.fails] using negative
  rcases (describes next ending taken).1 fails with ⟨message, stored, rfl⟩
  refine ⟨message, stored, ?_⟩
  have raises : rc ≠ ZPR_OK := by
    rw [ZPR_OK]
    omega
  rw [Check, if_pos raises]
  rfl

end

theorem last_error_describes_iff (outside : Outside Pool Descriptor Message Deserializer)
    (trace : List (Call Pool × Ending)) (LAST_ERROR : Option String) :
    RunWhere (Describes outside) (step outside) none trace LAST_ERROR ↔
      RunWhere (Plain outside) (step outside) none trace LAST_ERROR :=
  RunWhere.congr describes_iff

/-- Libraries that are not asked for anything here. -/
def unasked : Outside Unit Unit Unit Unit where
  serde :=
    { from_str := fun _ => .error "EOF while parsing a value at line 1 column 0"
      to_string := fun _ => .ok "null"
      to_string_pretty := fun _ => .ok "null" }
  messages :=
    { get_message_by_name := fun _ _ => none
      decode := fun _ _ => .error "buffer underflow"
      render := fun _ => .ok (.object [])
      floats := halves
      write := fun _ _ => "{}"
      to_string := fun _ => "{}"
      from_str := fun _ => .error "EOF while parsing a value at line 1 column 0"
      debug := String.quote }
  reader :=
    { from_str := fun _ => ()
      deserialize := fun _ _ => .error "EOF while parsing a value at line 1 column 0"
      end_ := fun _ => .ok ()
      encode_to_vec := fun _ => [] }
  decode_pool := fun _ => .error "buffer underflow"
  deserialize_value := fun _ _ => .error "expected a map"
  path := fun _ => .error "invalid uri character"
  method := fun _ => .error "invalid HTTP method"
  parse_headers := fun _ => .error "expected a map"

/-- A value is pushed to an object some time after the proxy has been set too late: the
exception tells of the proxy. -/
theorem push_reports_proxy : ∃ trace LAST_ERROR,
    Run (step unasked) none trace LAST_ERROR ∧
      trace = [
        (.zpr_http_set_proxy true none, failed (.code ZPR_ERR)
          "zpr_http_set_proxy called after the HTTP client was already built"),
        (.zpr_json_array_push [some (.Object []), some .Null] (some 0) (some 1),
          returned (.code ZPR_ERR))] ∧
      Check LAST_ERROR ZPR_ERR =
        some "zpr_http_set_proxy called after the HTTP client was already built" ∧
      ¬ RunWhere (Describes unasked) (step unasked) none trace LAST_ERROR := by
  have first : Run (step unasked) none
      ([] ++ [(.zpr_http_set_proxy true none, _)]) _ := .next .start rfl
  have second : Run (step unasked) none
      (_ ++ [(.zpr_json_array_push [some (.Object []), some .Null] (some 0) (some 1), _)]) _ :=
    .next first rfl
  refine ⟨_, _, second, rfl, by decide, fun describes => ?_⟩
  rcases describes.split (show _ = [_] ++ _ :: [] from rfl) with
    ⟨before, after, _, last, taken, _⟩
  rcases (last _ _ taken).1 rfl with ⟨message, stored, _⟩
  cases stored

end Zpr.ErrorSlot
