import Zpr.GrpcServer.CallConservation
import Zpr.GrpcServer.QueuedReads
import Zpr.Pascal.CallObjects

namespace Zpr.Pascal

open Ffi GrpcServer

/-! # What an object stands for

Each accepted call has one object, and what the host does with the call it does through
that object. -/

/-! ## The events of one call -/

theorem aboutCall_next (FId : Nat) (trace : List (Action × Reply)) (event : Action × Reply) :
    aboutCall FId (trace ++ [event]) =
      aboutCall FId trace ++ if call? event.1 = some FId then [event] else [] := by
  rw [aboutCall, List.filter_append]
  by_cases about : call? event.1 = some FId
  · rw [List.filter_cons_of_pos (by simp [about]), List.filter_nil, if_pos about]
    rfl
  · rw [List.filter_cons_of_neg (by simp [about]), List.filter_nil, if_neg about]
    rfl

/-- Other events do not count. -/
theorem flatMap_aboutCall {FId : Nat} {observed : Action × Reply → List Observed}
    (silent : ∀ event, call? event.1 ≠ some FId → observed event = [])
    (trace : List (Action × Reply)) :
    (aboutCall FId trace).flatMap observed = trace.flatMap observed := by
  induction trace with
  | nil => rfl
  | cons event rest induction =>
      by_cases about : call? event.1 = some FId
      · rw [aboutCall, List.filter_cons_of_pos (by simp [about]), List.flatMap_cons,
          List.flatMap_cons, ← induction]
        rfl
      · rw [aboutCall, List.filter_cons_of_neg (by simp [about]), List.flatMap_cons,
          silent event about, List.nil_append, ← induction]
        rfl

theorem writes_aboutCall (FId : Nat) (trace : List (Action × Reply)) :
    writes FId (aboutCall FId trace) = writes FId trace := by
  apply flatMap_aboutCall
  rintro ⟨action, reply⟩ other
  cases action with
  | write call_id data bytes =>
      have different : call_id ≠ FId := fun same => other (congrArg some same)
      cases reply <;> simp [writesOf, different]
  | _ => rfl

theorem completions_aboutCall (FId : Nat) (trace : List (Action × Reply)) :
    completions FId (aboutCall FId trace) = completions FId trace := by
  apply flatMap_aboutCall
  rintro ⟨action, reply⟩ other
  cases action with
  | complete call_id grpc_status message =>
      have different : call_id ≠ FId := fun same => other (congrArg some same)
      cases reply with
      | returned rc last_error =>
          simp only [completionsOf, different, false_and, if_false]
          split <;> rfl
      | _ => rfl
  | _ => rfl

/-! ## Which calls have been accepted -/

theorem acceptedIds_eq_handedOut
    (run : RunWhere (fun _ action => TakesId action) serverStep .start trace state) :
    acceptedIds trace = (handedOut trace).map Prod.fst := by
  have told : acceptedIds trace = (returned trace).flatMap fun call => call.1.toList := by
    rw [acceptedIds, returned, List.flatMap_assoc]
    congr 1
    funext event
    rcases event with ⟨action, reply⟩
    cases action with
    | accept out_call_id out_method =>
        cases reply with
        | accepted answer =>
            simp only [acceptedOf, returnedOf]
            split <;> simp
        | _ => rfl
    | _ => rfl
  rw [told, returned_of_run run, List.flatMap_map]
  exact List.flatMap_pure_eq_map _ _

theorem acceptedIds_nodup
    (run : RunWhere (fun _ action => TakesId action) serverStep .start trace state) :
    (acceptedIds trace).Nodup := by
  have nodup := (inOrder_of_run run).nodup
  rw [(inOrder_of_run run).order, List.map_append] at nodup
  rw [acceptedIds_eq_handedOut run]
  exact (List.nodup_append.mp nodup).1

/-- A call in `live` is still to be accepted, or has been. -/
theorem waiting_or_accepted {FId : Nat}
    (run : RunWhere (fun _ action => TakesId action) serverStep .start trace state)
    (held : state.queue.live.find? FId = some call) :
    state.Waiting FId ∨ FId ∈ acceptedIds trace := by
  have ordered := inOrder_of_run run
  rcases (ordered.consistent.live FId call held).1.entered with ⟨ms, entered⟩
  rcases Option.bind_eq_some_iff.mp entered with ⟨rpc, known, drawn⟩
  have arrivalAt : state.arrivalAt call.outbound_tx = some rpc.arrival := by
    rw [Server.arrivalAt, known, Option.map_some]
  cases arrival : rpc.arrival with
  | inserted =>
      rw [arrival] at drawn arrivalAt
      cases drawn
      exact .inl (.inl ⟨_, _, arrivalAt⟩)
  | queued =>
      rw [arrival] at drawn arrivalAt
      cases drawn
      have member := (ordered.known FId).mpr ⟨_, _, arrivalAt⟩
      rw [ordered.order, List.map_append, List.mem_append] at member
      rcases member with accepted | pending
      · exact .inr (acceptedIds_eq_handedOut run ▸ accepted)
      · exact .inl (.inr pending)
  | _ =>
      rw [arrival] at drawn
      cases drawn

/-- A step that is about no call. -/
theorem aboutCall_next_none (trace : List ObjectEvent) (action : ObjectAction)
    (called : Option (Action × Reply)) (noCall : ∀ event ∈ called, call? event.1 = none)
    (apart : action.object? = none ∨ called = none) :
    (∀ FId, aboutCall FId (libraryTrace (trace ++ [(action, called)])) =
      aboutCall FId (libraryTrace trace)) ∧
    ∀ index, callsOf index (trace ++ [(action, called)]) = callsOf index trace := by
  constructor
  · intro FId
    rw [libraryTrace_next]
    cases called with
    | none => rw [Option.toList_none, List.append_nil]
    | some event =>
        rw [Option.toList_some, aboutCall_next, noCall event rfl, if_neg (by simp), List.append_nil]
  · intro index
    rw [callsOf_next]
    rcases apart with apart | nothing
    · rw [apart, if_neg (by simp), List.append_nil]
    · rw [nothing, Option.toList_none, ite_self, List.append_nil]

/-! ## One object for each call -/

/-- What every object has done is what has been done with its call. -/
structure Shares (trace : List ObjectEvent) (host : ObjectHost) : Prop where
  ids : (host.calls.map fun held => held.object.FId) = acceptedIds (libraryTrace trace)
  own : ∀ index held, host.calls[index]? = some held →
    aboutCall held.object.FId (libraryTrace trace) = callsOf index trace
  unaccepted : ∀ FId, FId ∉ acceptedIds (libraryTrace trace) →
    aboutCall FId (libraryTrace trace) = []
  unmade : ∀ index, host.calls[index]? = none → callsOf index trace = []
  completed : ∀ index held, host.calls[index]? = some held →
    ((callsOf index trace).countP fun event => isCompletion event.1) =
      if held.object.FCompleted then 1 else 0

namespace Shares

variable {host next : ObjectHost} {held more owned : OwnedCall} {index other : Nat}

theorem start : Shares [] .start where
  ids := rfl
  own index held known := by cases known
  unaccepted _ _ := rfl
  unmade _ _ := rfl
  completed index held known := by cases known

theorem accepted (shares : Shares trace host) (known : host.calls[index]? = some held) :
    held.object.FId ∈ acceptedIds (libraryTrace trace) := by
  rw [← shares.ids]
  exact List.mem_map.mpr ⟨held, List.mem_of_getElem? known, rfl⟩

/-- Two objects have two ids. -/
theorem index_eq (shares : Shares trace host) (nodup : (acceptedIds (libraryTrace trace)).Nodup)
    (first : host.calls[index]? = some held) (second : host.calls[other]? = some more)
    (same : held.object.FId = more.object.FId) : index = other := by
  rw [← shares.ids] at nodup
  have inside : index < (host.calls.map fun held => held.object.FId).length := by
    rw [List.length_map]
    exact (List.getElem?_eq_some_iff.mp first).1
  apply (List.getElem?_inj inside nodup).mp
  rw [List.getElem?_map, List.getElem?_map, first, second, Option.map_some, Option.map_some, same]

/-- A step of one object on its call. -/
theorem aboutOne (shares : Shares trace host)
    (nodup : (acceptedIds (libraryTrace trace)).Nodup) (action : ObjectAction) (step : Action)
    (reply : Reply) (own : action.object? = some index) (held : host.calls[index]? = some owned)
    (about : call? step = some owned.object.FId) :
    (∀ other more, host.calls[other]? = some more →
      aboutCall more.object.FId (libraryTrace (trace ++ [(action, some (step, reply))])) =
        callsOf other (trace ++ [(action, some (step, reply))])) ∧
    (∀ FId, FId ∉ acceptedIds (libraryTrace trace) →
      aboutCall FId (libraryTrace (trace ++ [(action, some (step, reply))])) = []) ∧
    ∀ other, host.calls[other]? = none →
      callsOf other (trace ++ [(action, some (step, reply))]) = [] := by
  refine ⟨fun other more known => ?_, fun FId unaccepted => ?_, fun other unmade => ?_⟩
  · rw [libraryTrace_next, callsOf_next, own, Option.toList_some, aboutCall_next, about,
      shares.own other more known]
    by_cases same : index = other
    · subst same
      cases held.symm.trans known
      rw [if_pos rfl, if_pos rfl]
    · have different : owned.object.FId ≠ more.object.FId :=
        fun sameId => same (shares.index_eq nodup held known sameId)
      rw [if_neg (by simp [different]), if_neg (by simp [same])]
  · have different : owned.object.FId ≠ FId := fun same => unaccepted (same ▸ shares.accepted held)
    rw [libraryTrace_next, Option.toList_some, aboutCall_next, about, if_neg (by simp [different]),
      List.append_nil]
    exact shares.unaccepted FId unaccepted
  · have different : index ≠ other := by
      rintro rfl
      rw [held] at unmade
      cases unmade
    rw [callsOf_next, own, if_neg (by simp [different]), List.append_nil]
    exact shares.unmade other unmade

theorem known_of_set (held : host.calls[index]? = some owned)
    (known : (host.calls.set index replaced)[other]? = some more) :
    (index = other ∧ more = replaced) ∨ (index ≠ other ∧ host.calls[other]? = some more) := by
  by_cases same : index = other
  · subst same
    rw [List.getElem?_set_self (List.getElem?_eq_some_iff.mp held).1] at known
    cases known
    exact .inl ⟨rfl, rfl⟩
  · rw [List.getElem?_set_ne same] at known
    exact .inr ⟨same, known⟩

theorem none_of_set (unmade : (host.calls.set index replaced)[other]? = none) :
    host.calls[other]? = none := by
  rw [List.getElem?_eq_none_iff, List.length_set] at unmade
  exact List.getElem?_eq_none_iff.mpr unmade

theorem ids_of_set (held : host.calls[index]? = some owned) (replaced : OwnedCall)
    (same : replaced.object.FId = owned.object.FId) :
    ((host.calls.set index replaced).map fun held => held.object.FId) =
      host.calls.map fun held => held.object.FId := by
  rcases List.getElem?_eq_some_iff.mp held with ⟨inside, rfl⟩
  rw [List.map_set, same]
  apply List.ext_getElem
  · rw [List.length_set]
  · intro other _ within
    rw [List.getElem_set]
    split
    · rename_i equal
      subst equal
      rw [List.getElem_map]
    · rfl

/-- A step that is about no object and no call, and hands none out. -/
theorem step_apart (shares : Shares trace host) (called : Option (Action × Reply))
    (noCall : ∀ event ∈ called, call? event.1 = none)
    (apart : action.object? = none ∨ called = none)
    (ids : acceptedIds (libraryTrace (trace ++ [(action, called)])) =
      acceptedIds (libraryTrace trace)) (calls : next.calls = host.calls) :
    Shares (trace ++ [(action, called)]) next := by
  rcases aboutCall_next_none trace action called noCall apart with ⟨about, own⟩
  constructor
  · rw [calls, ids]
    exact shares.ids
  · simpa only [calls, about, own] using shares.own
  · simpa only [ids, about] using shares.unaccepted
  · simpa only [calls, own] using shares.unmade
  · simpa only [calls, own] using shares.completed

/-- What has been done does not depend on whether an object has been freed. -/
theorem frees (shares : Shares trace host) (held : host.calls[index]? = some ⟨object, freed⟩)
    (after : Bool) (calls : next.calls = host.calls.set index ⟨object, after⟩) :
    Shares trace next := by
  constructor
  · rw [calls, ids_of_set held ⟨object, after⟩ rfl]
    exact shares.ids
  · intro other more known
    rw [calls] at known
    rcases known_of_set held known with ⟨rfl, rfl⟩ | ⟨_, before⟩
    · exact shares.own index ⟨object, freed⟩ held
    · exact shares.own other more before
  · exact shares.unaccepted
  · intro other none
    rw [calls] at none
    exact shares.unmade other (none_of_set none)
  · intro other more known
    rw [calls] at known
    rcases known_of_set held known with ⟨rfl, rfl⟩ | ⟨_, before⟩
    · exact shares.completed index ⟨object, freed⟩ held
    · exact shares.completed other more before

/-- The object that comes last has done nothing, and nothing has been done with its call. -/
theorem step_accepts (shares : Shares trace host)
    (nodup : (acceptedIds (libraryTrace (trace ++ [(action, some (.accept .valid buffer, reply))]))
      ).Nodup)
    (apart : action.object? = none)
    (handed : acceptedOf (.accept .valid buffer, reply) = [object.FId])
    (isOpen : object.FCompleted = false) (calls : next.calls = host.calls ++ [⟨object, false⟩]) :
    Shares (trace ++ [(action, some (.accept .valid buffer, reply))]) next := by
  rcases aboutCall_next_none trace action (some (.accept .valid buffer, reply))
    (by simp [call?]) (.inl apart) with ⟨about, own⟩
  have ids : acceptedIds (libraryTrace
      (trace ++ [(action, some (.accept .valid buffer, reply))])) =
        acceptedIds (libraryTrace trace) ++ [object.FId] := by
    rw [libraryTrace_next, Option.toList_some, acceptedIds_next, handed]
  have fresh : object.FId ∉ acceptedIds (libraryTrace trace) := by
    rw [ids, List.nodup_append] at nodup
    intro member
    exact nodup.2.2 _ member _ (List.mem_singleton_self _) rfl
  have isLast : ∀ (index : Nat) (held : OwnedCall), next.calls[index]? = some held →
      host.calls[index]? = some held ∨ host.calls[index]? = none ∧ held = ⟨object, false⟩ := by
    intro index held known
    rw [calls] at known
    rcases Nat.lt_or_ge index host.calls.length with inside | outside
    · rw [List.getElem?_append_left inside] at known
      exact .inl known
    · rw [List.getElem?_append_right outside] at known
      have member := List.mem_of_getElem? known
      exact .inr ⟨List.getElem?_eq_none_iff.mpr outside, List.mem_singleton.mp member⟩
  constructor
  · rw [calls, ids, List.map_append, shares.ids]
    rfl
  · intro index held known
    rw [about, own]
    rcases isLast index held known with before | ⟨unmade, rfl⟩
    · exact shares.own index held before
    · exact (shares.unaccepted _ fresh).trans (shares.unmade index unmade).symm
  · intro FId unaccepted
    rw [ids, List.mem_append, not_or] at unaccepted
    rw [about]
    exact shares.unaccepted FId unaccepted.1
  · intro index unmade
    rw [own]
    apply shares.unmade
    rw [calls, List.getElem?_eq_none_iff, List.length_append] at unmade
    rw [List.getElem?_eq_none_iff]
    omega
  · intro index held known
    rw [own]
    rcases isLast index held known with before | ⟨unmade, rfl⟩
    · exact shares.completed index held before
    · rw [shares.unmade index unmade, isOpen]
      rfl

/-- An object reads or writes. -/
theorem step_uses (shares : Shares trace host)
    (nodup : (acceptedIds (libraryTrace trace)).Nodup) (own : action.object? = some index)
    (held : host.calls[index]? = some ⟨object, false⟩) (about : call? step = some object.FId)
    (notCompletion : isCompletion step = false)
    (ids : acceptedIds (libraryTrace (trace ++ [(action, some (step, reply))])) =
      acceptedIds (libraryTrace trace)) (calls : next.calls = host.calls) :
    Shares (trace ++ [(action, some (step, reply))]) next := by
  rcases shares.aboutOne nodup action step reply own held about with ⟨owns, others, unmade⟩
  constructor
  · rw [calls, ids]
    exact shares.ids
  · simpa only [calls] using owns
  · simpa only [ids] using others
  · simpa only [calls] using unmade
  · intro other more known
    rw [calls] at known
    rw [callsOf_next, List.countP_append, shares.completed other more known]
    split <;> simp [notCompletion]

/-- An open object completes its call. -/
theorem step_completes (shares : Shares trace host)
    (nodup : (acceptedIds (libraryTrace trace)).Nodup) (own : action.object? = some index)
    (held : host.calls[index]? = some ⟨object, false⟩) (isOpen : object.FCompleted = false)
    (ids : acceptedIds (libraryTrace (trace ++
      [(action, some (.complete object.FId AStatus AMessage, reply))])) =
        acceptedIds (libraryTrace trace))
    (calls : next.calls = host.calls.set index ⟨{ object with FCompleted := true }, freed⟩) :
    Shares (trace ++ [(action, some (.complete object.FId AStatus AMessage, reply))]) next := by
  rcases shares.aboutOne nodup action (.complete object.FId AStatus AMessage) reply own held rfl
    with ⟨owns, others, unmade⟩
  constructor
  · rw [calls, ids, ids_of_set held ⟨{ object with FCompleted := true }, freed⟩ rfl]
    exact shares.ids
  · intro other more known
    rw [calls] at known
    rcases known_of_set held known with ⟨rfl, rfl⟩ | ⟨_, before⟩
    · exact owns index ⟨object, false⟩ held
    · exact owns other more before
  · simpa only [ids] using others
  · intro other none
    rw [calls] at none
    exact unmade other (none_of_set none)
  · intro other more known
    rw [calls] at known
    rw [callsOf_next, own, List.countP_append]
    rcases known_of_set held known with ⟨rfl, rfl⟩ | ⟨different, before⟩
    · rw [shares.completed index ⟨object, false⟩ held, isOpen, if_pos rfl]
      rfl
    · have apart : ¬ some index = some other := by simpa using different
      rw [shares.completed other more before, if_neg apart]
      rfl

theorem step (shares : Shares trace host)
    (nodup : (acceptedIds (libraryTrace (trace ++ [(action, event)]))).Nodup)
    (change : ObjectChange host action event next) : Shares (trace ++ [(action, event)]) next := by
  have ids : ∀ step reply, acceptedOf (step, reply) = [] →
      acceptedIds (libraryTrace (trace ++ [(action, some (step, reply))])) =
        acceptedIds (libraryTrace trace) := by
    intro step reply none
    rw [libraryTrace_next, Option.toList_some, acceptedIds_next, none, List.append_nil]
  cases change with
  | quiet _ server calls =>
      exact shares.step_apart none (by simp) (.inr rfl) (by simp) calls
  | elsewhere step reply _ apart noCall none _ _ calls =>
      exact shares.step_apart (some (step, reply)) (by simpa using noCall) (.inl apart)
        (ids step reply none) calls
  | accepts buffer reply _ object apart handed isOpen _ calls =>
      exact shares.step_accepts nodup apart handed isOpen calls
  | uses index object step reply _ own held about notCompletion stepped calls =>
      have quiet : acceptedOf (step, reply) = [] := by
        cases step <;> first | rfl | cases about
      rw [ids step reply quiet] at nodup
      exact shares.step_uses nodup own held about notCompletion (ids step reply quiet) calls
  | completes index object freed AStatus AMessage reply _ how held isOpen _ calls =>
      have own : action.object? = some index := by
        rcases how with rfl | ⟨rfl, _⟩ <;> rfl
      have same := ids (.complete object.FId AStatus (Utf8PtrOrNil AMessage)) reply rfl
      rw [same] at nodup
      exact shares.step_completes nodup own held isOpen same calls
  | frees index object _ own held completed server calls =>
      have stays : Shares (trace ++ [(action, none)]) host :=
        shares.step_apart none (by simp) (.inr rfl) (by simp) rfl
      exact stays.frees held true calls

end Shares

theorem shares_of_run (run : RunWhere condition objectStep .start trace host) :
    Shares trace host :=
  run.invariant Shares .start fun earlier shares met taken =>
    shares.step (acceptedIds_nodup (library_run (.next earlier met taken)))
      (objectStep_change taken)

/-! ## Calls that are over -/

/-- A completion of a call that is still live has a message that is UTF-8 up to its first
NUL. -/
def PassesText (host : ObjectHost) : ObjectAction → Prop
  | .Complete index _ AMessage => ∀ object, host.object? index = some object →
      object.FCompleted = false → host.server.queue.live.find? object.FId ≠ none →
      ∃ msg, Server.status_message (Utf8PtrOrNil AMessage) = .ok msg
  | _ => True

theorem known_of_accepted {FId : Nat}
    (run : RunWhere (fun _ action => TakesId action) serverStep .start trace state)
    (accepted : FId ∈ acceptedIds trace) : Known FId state := by
  rcases ((lined_of_run run).accepted FId accepted).2 with ⟨index, ms, queued⟩
  rcases Option.map_eq_some_iff.mp queued with ⟨rpc, known, arrival⟩
  refine ⟨⟨trace, run.mono fun _ _ _ => trivial⟩, index, ms, ?_⟩
  rw [Server.enteredAt, known, Option.bind_some, arrival]
  rfl

/-- No object says so of a call that is still live. -/
def CompletedOver (host : ObjectHost) : Prop :=
  ∀ (index : Nat) (held : OwnedCall), host.calls[index]? = some held → held.object.FCompleted = true →
    host.server.queue.live.find? held.object.FId = none

theorem completedOver_step {host next : ObjectHost} (shares : Shares trace host)
    (run : RunWhere (fun _ action => TakesId action) serverStep .start (libraryTrace trace)
      host.server)
    (isOver : CompletedOver host) (passes : PassesText host action)
    (change : ObjectChange host action event next) : CompletedOver next := by
  have stays : ∀ (step : Action) (reply : Reply) (index : Nat) (held : OwnedCall),
      serverStep host.server step = some (next.server, reply) →
      host.calls[index]? = some held → held.object.FCompleted = true →
      next.server.queue.live.find? held.object.FId = none := by
    intro step reply index held taken known completed
    have inRun := known_of_accepted run (shares.accepted known)
    exact absent_next inRun (isOver index held known completed) taken
  intro index held known completed
  cases change with
  | quiet _ server calls =>
      rw [calls] at known
      rw [server]
      exact isOver index held known completed
  | elsewhere _ _ _ _ _ _ _ taken calls =>
      rw [calls] at known
      exact stays _ _ index held taken known completed
  | accepts _ _ _ object _ _ isOpen taken calls =>
      rw [calls] at known
      rcases Nat.lt_or_ge index host.calls.length with inside | outside
      · rw [List.getElem?_append_left inside] at known
        exact stays _ _ index held taken known completed
      · rw [List.getElem?_append_right outside] at known
        cases List.mem_singleton.mp (List.mem_of_getElem? known)
        rw [isOpen] at completed
        cases completed
  | uses _ _ _ _ _ _ _ _ _ taken calls =>
      rw [calls] at known
      exact stays _ _ index held taken known completed
  | completes ended object _ AStatus AMessage _ _ how isHeld isOpen taken calls =>
      rw [calls] at known
      rcases Shares.known_of_set isHeld known with ⟨rfl, rfl⟩ | ⟨_, before⟩
      · have found : host.object? ended = some object := by
          rw [ObjectHost.object?, isHeld]
          rfl
        have decodes : host.server.queue.live.find? object.FId ≠ none →
            ∃ msg, Server.status_message (Utf8PtrOrNil AMessage) = .ok msg := by
          intro live
          rcases how with rfl | ⟨_, rfl⟩
          · exact passes object found isOpen live
          · exact status_message_backstop
        have isKnown := known_of_accepted run (shares.accepted isHeld)
        have gone := (absent_after_complete_iff isKnown AStatus (Utf8PtrOrNil AMessage)).mpr decodes
        rw [call_complete_eq_serverStep] at taken
        have same : (host.server.call_complete object.FId AStatus (Utf8PtrOrNil AMessage)).1 =
            next.server := congrArg Prod.fst (Option.some.inj taken)
        rw [← same]
        exact gone
      · exact stays _ _ index held taken before completed
  | frees freed object _ _ isHeld isCompleted server calls =>
      rw [calls] at known
      rw [server]
      rcases Shares.known_of_set isHeld known with ⟨rfl, rfl⟩ | ⟨_, before⟩
      · exact isOver freed ⟨object, false⟩ isHeld isCompleted
      · exact isOver index held before completed

theorem completedOver_of_run (run : RunWhere PassesText objectStep .start trace host) :
    CompletedOver host := by
  apply run.invariant fun _ host => CompletedOver host
  · intro index held known
    cases known
  · intro _ _ _ _ _ earlier isOver passes taken
    exact completedOver_step (shares_of_run earlier) (library_run earlier) isOver passes
      (objectStep_change taken)

/-! ## What the objects stand for -/

/-- What the host has done with a call is what it has done with the object of that call; and
the client is shown what was written through the object, and then how its completion or the
library has ended the call. -/
structure StandsFor (trace : List ObjectEvent) (host : ObjectHost) (index FId : Nat) : Prop where
  alone : aboutCall FId (libraryTrace trace) = callsOf index trace
  completesOnce : ((callsOf index trace).countP fun event => isCompletion event.1) ≤ 1
  ending : ∀ outcome ∈ removals FId (libraryTrace trace),
    outcome ∈ completions FId (callsOf index trace) ∨
      outcome = Server.reaperStatus ∨ outcome = Server.freeStatus
  shown : ∀ rpc, host.server.idAt rpc = some FId → ∃ polls, frames rpc (libraryTrace trace) <+:
    expectedFrames (writes FId (callsOf index trace)) (removals FId (libraryTrace trace)) polls

theorem Shares.standsFor {held : OwnedCall} (shares : Shares trace host)
    (run : RunWhere condition objectStep .start trace host)
    (known : host.calls[index]? = some held) :
    StandsFor trace host index held.object.FId where
  alone := shares.own index held known
  completesOnce := by
    rw [shares.completed index held known]
    split <;> decide
  ending outcome removed := by
    rw [← shares.own index held known, completions_aboutCall]
    exact removals_cases removed
  shown rpc drawn := by
    rcases (explained_of_run (library_run run)).history_of_drawn drawn with ⟨_, _, history⟩
    rw [← shares.own index held known, writes_aboutCall]
    exact history.isPrefix

/-- Freed objects are completed. -/
theorem completed_of_freed (run : RunWhere condition objectStep .start trace host) :
    ∀ held ∈ host.calls, held.freed = true → held.object.FCompleted = true := by
  apply run.stateInvariant fun host : ObjectHost =>
    ∀ held ∈ host.calls, held.freed = true → held.object.FCompleted = true
  · intro held member
    cases member
  · intro host action next event all _ taken held member freed
    cases objectStep_change taken with
    | quiet _ _ calls =>
        rw [calls] at member
        exact all held member freed
    | elsewhere _ _ _ _ _ _ _ _ calls =>
        rw [calls] at member
        exact all held member freed
    | uses _ _ _ _ _ _ _ _ _ _ calls =>
        rw [calls] at member
        exact all held member freed
    | accepts _ _ _ _ _ _ _ _ calls =>
        rw [calls] at member
        rcases List.mem_append.mp member with before | last
        · exact all held before freed
        · cases List.mem_singleton.mp last
          cases freed
    | completes _ _ _ _ _ _ _ _ _ _ _ calls =>
        rw [calls] at member
        rcases List.mem_or_eq_of_mem_set member with before | rfl
        · exact all held before freed
        · rfl
    | frees _ _ _ _ _ completed _ calls =>
        rw [calls] at member
        rcases List.mem_or_eq_of_mem_set member with before | rfl
        · exact all held before freed
        · exact completed

/-- The host has an object for a call, has not freed it, and has not completed the call. -/
def HasOpen (host : ObjectHost) (FId : Nat) : Prop :=
  ∃ (index : Nat) (object : TZprGrpcCall), host.object? index = some object ∧
    object.FId = FId ∧ object.FCompleted = false

theorem hasOpen_of_live {FId : Nat} (run : RunWhere PassesText objectStep .start trace host)
    (live : host.server.queue.live.find? FId = some call)
    (accepted : FId ∈ acceptedIds (libraryTrace trace)) : HasOpen host FId := by
  rw [← (shares_of_run run).ids] at accepted
  rcases List.mem_map.mp accepted with ⟨held, member, rfl⟩
  rcases List.getElem?_of_mem member with ⟨index, known⟩
  have isOpen : held.object.FCompleted = false := by
    apply eq_false_of_ne_true
    intro completed
    rw [completedOver_of_run run index held known completed] at live
    cases live
  have kept : held.freed = false := by
    apply eq_false_of_ne_true
    intro freed
    rw [completed_of_freed run held member freed] at isOpen
    cases isOpen
  refine ⟨index, held.object, ?_, rfl, isOpen⟩
  rw [ObjectHost.object?, known, Option.bind_some, kept, if_neg (by decide)]

/-- However clients, tasks and threads of the host go about it: the objects that `Accept` has
returned stand for the accepted calls, each for one of its own. If no completion is lost
with a message that is no UTF-8, a live call waits to be accepted or has an open object,
so that a host that completes or frees every object leaves no call behind. And memory is
misused in exactly those runs in which some step is not careful. -/
theorem objects_stand_for_their_calls (run : Run objectStep .start trace host) :
    (host.calls.map fun held => held.object.FId) = acceptedIds (libraryTrace trace) ∧
      (acceptedIds (libraryTrace trace)).Nodup ∧
      (∀ (index : Nat) (held : OwnedCall), host.calls[index]? = some held →
        StandsFor trace host index held.object.FId) ∧
      (RunWhere PassesText objectStep .start trace host →
        ∀ FId call, host.server.queue.live.find? FId = some call →
          host.server.Waiting FId ∨ HasOpen host FId) ∧
      (host.memory = .misused ↔ ¬ RunWhere Careful objectStep .start trace host) := by
  have shares := shares_of_run run
  have library := library_run run
  refine ⟨shares.ids, acceptedIds_nodup library, fun index held known => shares.standsFor run known,
    fun passes FId call live => ?_, ?_⟩
  · exact (waiting_or_accepted library live).imp_right (hasOpen_of_live passes live)
  · rw [← careful_run_iff run, not_not]

/-- A host accepts a call, reads from it, writes to it, and frees its object. -/
theorem objects_stand_for_one_call : ∃ trace host,
    Run objectStep .start trace host ∧ StandsFor trace host 0 1 ∧
      writes 1 (callsOf 0 trace) = [[7, 8]] ∧ host.memory = .freed ∧
      RunWhere Careful objectStep .start trace host := by
  have replayed : ∃ trace host, replay objectStep .start
      [.background (.arrive "/a" ⟨[.data [0, 0, 0, 0, 1, 5]], false⟩),
        .background (.handle_queued 0), .background (.handle_queued 0),
        .background (.handle_queued 0), .background (.handle_queued 0),
        .background (.handle_queued 0), .Accept ⟨0, [0, 0, 0, 0], 0⟩ [0], .Read 0 [0, 0],
        .Write 0 [7, 8], .Destroy 0, .background (.advance 1), .background (.advance 1),
        .background (.advance 1), .StopServer, .FreeQueue] = some (trace, host) ∧
      (host.calls[0]?).map (fun held => held.object.FId) = some 1 ∧
      writes 1 (callsOf 0 trace) = [[7, 8]] ∧ host.memory = .freed :=
    ⟨_, _, rfl, rfl, rfl, rfl⟩
  rcases replayed with ⟨trace, host, replayed, known, wrote, freed⟩
  have run := run_of_replay replayed
  rcases Option.map_eq_some_iff.mp known with ⟨held, isHeld, same⟩
  rcases objects_stand_for_their_calls run with ⟨_, _, stands, _, misused⟩
  have standsFor := stands 0 held isHeld
  rw [same] at standsFor
  refine ⟨trace, host, run, standsFor, wrote, freed, ?_⟩
  by_contra careless
  rw [misused.mpr careless] at freed
  cases freed

end Zpr.Pascal
