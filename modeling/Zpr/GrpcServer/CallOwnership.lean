import Zpr.GrpcServer.QueuedServerStep

namespace Zpr.GrpcServer

/-! # Who holds a call

A call belongs to one RPC. From the moment it goes into `live` it is either
there, or with whoever took it out, or dropped. Most steps leave that alone;
`serverStep_calls` says what the others do. -/

namespace Server

/-- The id that an RPC has drawn. -/
def idAt (state : Server) (index : Nat) : Option Nat :=
  (state.rpcs[index]?).bind fun rpc => rpc.arrival.id?

/-- The id under which an RPC has been put into `live`, and its deadline. -/
def enteredAt (state : Server) (index : Nat) : Option (Nat × Nat) :=
  (state.rpcs[index]?).bind fun rpc => rpc.arrival.entered?

end Server

/-- What a call keeps as long as it is in `live`. -/
def LiveCall.handles (call : LiveCall) : Nat × Nat × Option Nat × Nat :=
  (call.inbound_rx, call.outbound_tx, call.status_tx, call.expires_at)

theorem LiveCall.read_into_handles (call : LiveCall) (inbound : Channel Bytes)
    (buffer : Ffi.Buffer) : (call.read_into inbound buffer).1.handles = call.handles := by
  unfold LiveCall.read_into
  dsimp only
  split <;> repeat' split
  all_goals rfl

/-- No RPC draws an id, and no call goes into `live` or changes hands. -/
structure SameCalls (state next : Server) : Prop where
  idAt : ∀ index, next.idAt index = state.idAt index
  enteredAt : ∀ index, next.enteredAt index = state.enteredAt index
  next_id : next.queue.next_id = state.queue.next_id
  live : ∀ id, (next.queue.live.find? id).map LiveCall.handles =
    (state.queue.live.find? id).map LiveCall.handles
  removed : next.removed = state.removed

/-- The RPCs that have arrived, and how far `handle_queued` has got with them. -/
def Server.arrivals (state : Server) : List (String × Arrival) :=
  state.rpcs.map fun rpc => (rpc.path, rpc.arrival)

namespace Server

theorem arrivals_update (state : Server) (index : Nat) (change : Rpc → Rpc)
    (same : ∀ rpc, (change rpc).path = rpc.path ∧ (change rpc).arrival = rpc.arrival) :
    (state.update index change).arrivals = state.arrivals := by
  apply List.ext_getElem?
  intro other
  simp only [arrivals, List.getElem?_map, update_rpcs]
  split
  · cases state.rpcs[other]? <;> simp [same]
  · rfl

theorem idAt_eq (state : Server) (index : Nat) :
    state.idAt index = (state.arrivals[index]?).bind fun arrival => arrival.2.id? := by
  rw [idAt, arrivals, List.getElem?_map, Option.bind_map]
  rfl

theorem enteredAt_eq (state : Server) (index : Nat) :
    state.enteredAt index = (state.arrivals[index]?).bind fun arrival => arrival.2.entered? := by
  rw [enteredAt, arrivals, List.getElem?_map, Option.bind_map]
  rfl

end Server

/-- Not even `handle_queued` gets on. -/
structure SameArrivals (state next : Server) : Prop where
  arrivals : next.arrivals = state.arrivals
  next_id : next.queue.next_id = state.queue.next_id
  live : ∀ id, (next.queue.live.find? id).map LiveCall.handles =
    (state.queue.live.find? id).map LiveCall.handles
  removed : next.removed = state.removed

namespace SameArrivals

theorem refl (state : Server) : SameArrivals state state :=
  ⟨rfl, rfl, fun _ => rfl, rfl⟩

theorem of_rpcs {state next : Server} (rpcs : next.rpcs = state.rpcs)
    (next_id : next.queue.next_id = state.queue.next_id)
    (live : next.queue.live = state.queue.live) (removed : next.removed = state.removed) :
    SameArrivals state next where
  arrivals := by rw [Server.arrivals, Server.arrivals, rpcs]
  next_id := next_id
  live id := by rw [live]
  removed := removed

theorem update (earlier : SameArrivals state middle)
    (same : ∀ rpc, (change rpc).path = rpc.path ∧ (change rpc).arrival = rpc.arrival) :
    SameArrivals state (middle.update index change) where
  arrivals := (middle.arrivals_update index change same).trans earlier.arrivals
  next_id := earlier.next_id
  live := earlier.live
  removed := earlier.removed

theorem sameCalls (unchanged : SameArrivals state next) : SameCalls state next where
  idAt index := by rw [Server.idAt_eq, Server.idAt_eq, unchanged.arrivals]
  enteredAt index := by rw [Server.enteredAt_eq, Server.enteredAt_eq, unchanged.arrivals]
  next_id := unchanged.next_id
  live := unchanged.live
  removed := unchanged.removed

end SameArrivals

/-- `handle_queued` gets on with an RPC, but neither draws it an id nor enters it
into `live`. -/
theorem SameCalls.update (earlier : SameArrivals state middle)
    (same : ∀ rpc, middle.rpcs[index]? = some rpc →
      (change rpc).arrival.id? = rpc.arrival.id? ∧
        (change rpc).arrival.entered? = rpc.arrival.entered?) :
    SameCalls state (middle.update index change) where
  idAt other := (middle.update_rpcs_bind index change _ (fun rpc known => (same rpc known).1)
    other).trans (earlier.sameCalls.idAt other)
  enteredAt other := (middle.update_rpcs_bind index change _
    (fun rpc known => (same rpc known).2) other).trans (earlier.sameCalls.enteredAt other)
  next_id := earlier.next_id
  live := earlier.live
  removed := earlier.removed

/-! ## The steps that do change it -/

/-- The outcome, if any, of a `zpr_grpc_call_complete` on call `id` that returns
`ZPR_OK`. -/
def completionsOf (id : Nat) : Action × Reply → List (Int × String)
  | (.complete call_id grpc_status message, .returned rc _) =>
      match Server.status_message message with
      | .ok msg => if call_id = id ∧ rc = Ffi.ZPR_OK then [(grpc_status, msg)] else []
      | .error _ => []
  | _ => []

/-- The outcome, if any, with which an event takes call `id` out of `live`. -/
def removalsOf (id : Nat) : Action × Reply → List (Int × String)
  | (.reap_loop, .removed ids) => if id ∈ ids then [Server.reaperStatus] else []
  | (.queue_free, .removed ids) => if id ∈ ids then [Server.freeStatus] else []
  | event => completionsOf id event

/-- What the next step of its remover leaves of a call. -/
def Removed.next? (removal : Removed) : Option Removed :=
  match removal.stage with
  | .taken => some { removal with
      call := { removal.call with status_tx := none }, stage := .answered }
  | .answered => some { removal with stage := .counted }
  | .counted => none

structure DrawsId (state next : Server) (index : Nat) : Prop where
  undrawn : state.idAt index = none
  idAt : ∀ other, next.idAt other =
    if other = index then some state.queue.next_id else state.idAt other
  enteredAt : ∀ other, next.enteredAt other = state.enteredAt other
  next_id : next.queue.next_id = state.queue.next_id + 1
  live : next.queue.live = state.queue.live
  removed : next.removed = state.removed

structure EntersLive (state next : Server) (index ms id : Nat) : Prop where
  drawn : state.idAt index = some id
  outside : state.enteredAt index = none
  idAt : ∀ other, next.idAt other = state.idAt other
  enteredAt : ∀ other, next.enteredAt other =
    if other = index then some (id, ms) else state.enteredAt other
  next_id : next.queue.next_id = state.queue.next_id
  live : next.queue.live = state.queue.live.insert id (.admitted index (state.expires_at ms))
  removed : next.removed = state.removed

structure LeavesLive (state next : Server) (remover : Remover) (outcome : Int × String)
    (ids : List Nat) : Prop where
  idAt : ∀ other, next.idAt other = state.idAt other
  enteredAt : ∀ other, next.enteredAt other = state.enteredAt other
  next_id : next.queue.next_id = state.queue.next_id
  held : ∀ id ∈ ids, ∃ call, state.queue.live.find? id = some call
  live : ∀ id, next.queue.live.find? id =
    if id ∈ ids then none else state.queue.live.find? id
  removed : ∀ id, next.removed.find? id =
    if id ∈ ids then
      ((state.queue.live.find? id).map fun call =>
        Removed.mk call outcome remover .taken).or (state.removed.find? id)
    else state.removed.find? id

structure RemoverGoesOn (state next : Server) (id : Nat) (removal : Removed) : Prop where
  idAt : ∀ other, next.idAt other = state.idAt other
  enteredAt : ∀ other, next.enteredAt other = state.enteredAt other
  next_id : next.queue.next_id = state.queue.next_id
  live : next.queue.live = state.queue.live
  held : state.removed.find? id = some removal
  removed : ∀ other, next.removed.find? other =
    if other = id then removal.next? else state.removed.find? other

/-- Everything that one step can do to the calls. -/
inductive CallChange (state next : Server) (event : Action × Reply) : Prop
  | same (unchanged : SameCalls state next) (quiet : ∀ id, removalsOf id event = [])
  | draws (index : Nat) (drawn : DrawsId state next index)
      (quiet : ∀ id, removalsOf id event = [])
  | enters (index ms id : Nat) (entered : EntersLive state next index ms id)
      (quiet : ∀ id, removalsOf id event = [])
  | leaves (remover : Remover) (outcome : Int × String) (ids : List Nat)
      (left : LeavesLive state next remover outcome ids)
      (named : ∀ id, removalsOf id event = if id ∈ ids then [outcome] else [])
  | goesOn (id : Nat) (removal : Removed) (moved : RemoverGoesOn state next id removal)
      (advancing : event.1 = .advance id) (quiet : ∀ id, removalsOf id event = [])

namespace CallChange

theorem next_id_le (change : CallChange state next event) :
    state.queue.next_id ≤ next.queue.next_id := by
  cases change with
  | same unchanged => exact Nat.le_of_eq unchanged.next_id.symm
  | draws index drawn =>
      rw [drawn.next_id]
      exact Nat.le_succ _
  | enters index ms id entered => exact Nat.le_of_eq entered.next_id.symm
  | leaves remover outcome ids left => exact Nat.le_of_eq left.next_id.symm
  | goesOn id removal moved => exact Nat.le_of_eq moved.next_id.symm

/-- An id once drawn stays, and a new one has never been in use. -/
theorem idAt_cases (change : CallChange state next event) (index : Nat) :
    next.idAt index = state.idAt index ∨
      state.idAt index = none ∧ next.idAt index = some state.queue.next_id := by
  cases change with
  | same unchanged => exact .inl (unchanged.idAt index)
  | draws drawing drawn =>
      rw [drawn.idAt]
      split
      · rename_i own
        rw [own]
        exact .inr ⟨drawn.undrawn, rfl⟩
      · exact .inl rfl
  | enters entering ms id entered => exact .inl (entered.idAt index)
  | leaves remover outcome ids left => exact .inl (left.idAt index)
  | goesOn id removal moved => exact .inl (moved.idAt index)

theorem entered_stays {entry : Nat × Nat} (change : CallChange state next event)
    (entered : state.enteredAt index = some entry) : next.enteredAt index = some entry := by
  cases change with
  | same unchanged => rw [unchanged.enteredAt, entered]
  | draws drawing drawn => rw [drawn.enteredAt, entered]
  | enters entering ms id enters =>
      rw [enters.enteredAt]
      split
      · rename_i own
        rw [own, enters.outside] at entered
        cases entered
      · exact entered
  | leaves remover outcome ids left => rw [left.enteredAt, entered]
  | goesOn id removal moved => rw [moved.enteredAt, entered]

/-- Only a call in `live` can be taken out of it. -/
theorem removalsOf_of_absent {id : Nat} (change : CallChange state next event)
    (absent : state.queue.live.find? id = none) : removalsOf id event = [] := by
  cases change with
  | same _ quiet | draws _ _ quiet | enters _ _ _ _ quiet | goesOn _ _ _ _ quiet =>
      exact quiet id
  | leaves remover outcome ids left named =>
      rw [named, if_neg]
      intro member
      rcases left.held id member with ⟨call, held⟩
      rw [absent] at held
      cases held

end CallChange

namespace Server

theorem idAt_of_rpc {state : Server} (known : state.rpcs[index]? = some rpc) :
    state.idAt index = rpc.arrival.id? := by
  simp [idAt, known]

theorem enteredAt_of_rpc {state : Server} (known : state.rpcs[index]? = some rpc) :
    state.enteredAt index = rpc.arrival.entered? := by
  simp [enteredAt, known]

theorem idAt_update {state : Server} (known : state.rpcs[index]? = some rpc) (change : Rpc → Rpc)
    (other : Nat) : (state.update index change).idAt other =
      if other = index then (change rpc).arrival.id? else state.idAt other := by
  simp only [idAt, update_rpcs, eq_comm (a := index)]
  split
  · rename_i equal
    simp [equal, known]
  · rfl

theorem enteredAt_update {state : Server} (known : state.rpcs[index]? = some rpc)
    (change : Rpc → Rpc) (other : Nat) : (state.update index change).enteredAt other =
      if other = index then (change rpc).arrival.entered? else state.enteredAt other := by
  simp only [enteredAt, update_rpcs, eq_comm (a := index)]
  split
  · rename_i equal
    simp [equal, known]
  · rfl

theorem entersLive_of_inserts {state : Server} {rpc : Rpc} {id : Nat}
    (known : state.rpcs[index]? = some rpc) (arrival : rpc.arrival = .numbered ms id) :
    EntersLive state ({ state with queue := { state.queue with
        live := state.queue.live.insert id (.admitted index (state.expires_at ms)) } }.update index
      fun _ => { rpc with arrival := .inserted ms id }) index ms id where
  drawn := by
    rw [idAt_of_rpc known, arrival]
    rfl
  outside := by
    rw [enteredAt_of_rpc known, arrival]
    rfl
  idAt other := by
    rw [idAt_update (by exact known)]
    split
    · rename_i equal
      rw [equal, idAt_of_rpc known, arrival]
      rfl
    · rfl
  enteredAt other := by
    rw [enteredAt_update (by exact known)]
    rfl
  next_id := rfl
  live := rfl
  removed := rfl

theorem handle_queued_calls {state : Server}
    (taken : state.handle_queued index = some (next, reply)) :
    CallChange state next (.handle_queued index, reply) := by
  rcases handle_queued_cases taken with ⟨rpc, after, queue, known, handled, rfl, rfl⟩
  have ids := idAt_of_rpc known
  have entries := enteredAt_of_rpc known
  have knownAlike : { state with queue := queue }.rpcs[index]? = some rpc := known
  cases handled with
  | refuses arrival | admits arrival | stamps arrival =>
      refine .same (.update (.of_rpcs rfl rfl rfl rfl) ?_) fun _ => rfl
      intro other found
      cases known.symm.trans found
      simp [arrival, Arrival.id?, Arrival.entered?]
  | pushes ms id arrival =>
      refine .same (.update (.of_rpcs rfl rfl rfl rfl) ?_) fun _ => rfl
      intro other found
      cases known.symm.trans found
      simp [arrival, Arrival.id?, Arrival.entered?]
  | draws ms arrival =>
      refine .draws index ⟨?_, fun other => ?_, fun other => ?_, rfl, rfl, rfl⟩ fun _ => rfl
      · rw [ids, arrival]
        rfl
      · rw [idAt_update knownAlike]
        rfl
      · rw [enteredAt_update knownAlike]
        split
        · rename_i equal
          rw [equal, entries, arrival]
          rfl
        · rfl
  | inserts ms id arrival =>
      exact .enters index ms id (entersLive_of_inserts known arrival) fun _ => rfl

theorem pump_inbound_calls {state : Server}
    (taken : state.pump_inbound index = some (next, reply)) : SameArrivals state next := by
  rcases pump_inbound_cases taken with ⟨rpc, pump, inbound, _, _, _, _, rfl⟩
  exact .update (.refl state) fun _ => ⟨rfl, rfl⟩

theorem poll_frame_calls {state : Server}
    (taken : state.poll_frame index = some (next, reply)) : SameArrivals state next := by
  rcases poll_frame_cases taken with ⟨rpc, _, _, _, ⟨_, _, _, _, rfl⟩ | ⟨_, _, rfl⟩⟩
  · exact .update (.refl state) fun _ => ⟨rfl, rfl⟩
  · exact .update (.refl state) fun _ => ⟨rfl, rfl⟩

theorem hang_up_calls {state : Server}
    (taken : state.hang_up index = some (next, reply)) : SameArrivals state next := by
  rcases hang_up_cases taken with ⟨rpc, _, _, _, rfl⟩
  exact .update (.refl state) fun _ => ⟨rfl, rfl⟩

theorem call_read_into_calls {state : Server}
    (taken : state.call_read_into call_id buffer = some (next, reply)) :
    SameArrivals state next := by
  rcases call_read_into_cases taken with
    ⟨_, rfl, _⟩ | ⟨call, rpc, read, inbound, answer, held, _, answered, _, rfl⟩
  · exact .refl _
  · have handles := call.read_into_handles rpc.inbound buffer
    rw [answered] at handles
    apply SameArrivals.update
    · refine ⟨rfl, rfl, fun id => ?_, rfl⟩
      simp only [IdMap.find?_insert]
      split
      · rename_i equal
        simp only [equal, held, Option.map_some, handles]
      · rfl
    · intro _
      exact ⟨rfl, rfl⟩

theorem call_write_calls {state : Server}
    (taken : state.call_write call_id data bytes = some (next, reply)) :
    SameArrivals state next := by
  rcases call_write_cases taken with ⟨_, _, _, _, rfl⟩ | ⟨call, target, _, _, _, _, rfl⟩
  · exact .refl _
  · exact .update (.refl state) fun _ => ⟨rfl, rfl⟩

theorem take_leavesLive (state : Server) (remover : Remover) (outcome : Int × String)
    {ids : List Nat} (held : ∀ id ∈ ids, ∃ call, state.queue.live.find? id = some call) :
    LeavesLive state (state.take remover outcome ids) remover outcome ids where
  idAt _ := rfl
  enteredAt _ := rfl
  next_id := rfl
  held := held
  live := IdMap.find?_transfer_source _ ids _ _
  removed := IdMap.find?_transfer_target _ ids _ _

theorem call_complete_calls {state : Server}
    (taken : state.call_complete call_id grpc_status message = (next, reply)) :
    CallChange state next (.complete call_id grpc_status message, reply) := by
  rcases call_complete_cases taken with
    ⟨error, rfl, rfl, _⟩ | ⟨msg, call, parsed, held, rfl, rfl⟩
  · refine .same (SameArrivals.sameCalls (.refl _)) fun id => ?_
    simp only [removalsOf, completionsOf]
    split
    · exact if_neg fun completed => absurd completed.2 (by decide)
    · rfl
  · refine .leaves .complete (grpc_status, msg) [call_id]
      (take_leavesLive state _ _ ?_) fun id => ?_
    · intro id member
      cases List.mem_singleton.mp member
      exact ⟨call, held⟩
    · simp [removalsOf, completionsOf, parsed, eq_comm]

theorem send_status_calls (earlier : SameArrivals state middle) (status_tx : Option Nat)
    (outcome : Int × String) : SameArrivals state (middle.send_status status_tx outcome) := by
  cases status_tx with
  | none => exact earlier
  | some index => exact .update earlier fun _ => ⟨rfl, rfl⟩

theorem drop_call_calls (earlier : SameArrivals state middle) (call : LiveCall) :
    SameArrivals state (middle.drop_call call) := by
  have received : SameArrivals state (middle.update call.inbound_rx fun rpc =>
      { rpc with inbound := rpc.inbound.dropReceiver }) :=
    .update earlier fun _ => ⟨rfl, rfl⟩
  have dropped : SameArrivals state ((middle.update call.inbound_rx fun rpc =>
      { rpc with inbound := rpc.inbound.dropReceiver }).update call.outbound_tx fun rpc =>
      { rpc with body := { rpc.body with rx := rpc.body.rx.dropSender } }) :=
    .update received fun _ => ⟨rfl, rfl⟩
  unfold drop_call
  cases status : call.status_tx with
  | none => exact dropped
  | some index => exact .update dropped fun _ => ⟨rfl, rfl⟩

theorem advance_goesOn {state : Server} (taken : state.advance call_id = some (next, reply)) :
    reply = .silent ∧ next.arrivals = state.arrivals ∧
      ∃ removal, RemoverGoesOn state next call_id removal := by
  rcases advance_cases taken with
    ⟨removal, held, rfl, ⟨stage, rfl⟩ | ⟨stage, rfl⟩ | ⟨stage, rfl⟩⟩
  · have unchanged := send_status_calls (.refl { state with
      removed := state.removed.insert call_id { removal with
        call := { removal.call with status_tx := none }, stage := .answered } })
      removal.call.status_tx removal.outcome
    refine ⟨rfl, unchanged.arrivals, removal, unchanged.sameCalls.idAt,
      unchanged.sameCalls.enteredAt, unchanged.next_id, ?_, held, fun other => ?_⟩
    · rcases send_status_eq _ removal.call.status_tx removal.outcome with ⟨rpcs, answered⟩
      rw [answered]
    · rw [unchanged.removed, IdMap.find?_insert, Removed.next?, stage]
  · refine ⟨rfl, rfl, removal, fun _ => rfl, fun _ => rfl, ?_, ?_, held, fun other => ?_⟩
    · cases removal.remover <;> rfl
    · cases removal.remover <;> rfl
    · rw [IdMap.find?_insert, Removed.next?, stage]
  · have unchanged := drop_call_calls
      (.refl { state with removed := state.removed.erase call_id }) removal.call
    refine ⟨rfl, unchanged.arrivals, removal, unchanged.sameCalls.idAt,
      unchanged.sameCalls.enteredAt, unchanged.next_id, ?_, held, fun other => ?_⟩
    · rcases drop_call_eq _ removal.call with ⟨rpcs, dropped⟩
      rw [dropped]
    · rw [unchanged.removed, IdMap.find?_erase, Removed.next?, stage]

theorem advance_calls {state : Server} (taken : state.advance call_id = some (next, reply)) :
    CallChange state next (.advance call_id, reply) := by
  rcases advance_goesOn taken with ⟨rfl, _, removal, moved⟩
  exact .goesOn call_id removal moved rfl fun _ => rfl

theorem mem_expired {state : Server} {id now : Nat} : id ∈ state.expired now ↔
    ∃ call, state.queue.live.find? id = some call ∧ call.expires_at ≤ now := by
  simp only [expired, IdMap.mem_select, decide_eq_true_eq]

theorem reap_loop_calls {state : Server} (taken : state.reap_loop = some (next, reply)) :
    CallChange state next (.reap_loop, reply) := by
  rcases reap_loop_cases taken with ⟨rfl, rfl | rfl | rfl⟩ | ⟨now, _, rfl, rfl⟩
  · exact .same (SameArrivals.sameCalls (.refl _)) fun _ => rfl
  · exact .same (SameArrivals.sameCalls (.of_rpcs rfl rfl rfl rfl)) fun _ => rfl
  · exact .same (SameArrivals.sameCalls (.of_rpcs rfl rfl rfl rfl)) fun _ => rfl
  · refine .leaves .reaper reaperStatus (state.expired now)
      { take_leavesLive { state with reaper := .waiting } .reaper reaperStatus ?_ with }
      fun _ => rfl
    intro id member
    rcases mem_expired.mp member with ⟨call, held, _⟩
    exact ⟨call, held⟩

theorem reap_loop_rpcs {state : Server} (taken : state.reap_loop = some (next, reply)) :
    next.rpcs = state.rpcs := by
  rcases reap_loop_cases taken with ⟨_, rfl | rfl | rfl⟩ | ⟨now, _, _, rfl⟩ <;> rfl

theorem call_complete_rpcs {state : Server}
    (taken : state.call_complete call_id grpc_status message = (next, reply)) :
    next.rpcs = state.rpcs := by
  rcases call_complete_cases taken with ⟨_, _, rfl, _⟩ | ⟨msg, call, _, _, _, rfl⟩ <;> rfl

theorem queue_free_calls (state : Server) :
    CallChange state state.queue_free.1 (.queue_free, state.queue_free.2) :=
  .leaves .free freeStatus state.queue.live.keys
    (take_leavesLive state .free freeStatus fun _ member => IdMap.mem_keys.mp member)
    fun _ => rfl

theorem server_stop_calls {state : Server} (taken : state.server_stop = some (next, reply)) :
    SameArrivals state next := by
  rcases server_stop_cases taken with ⟨_, _, _, _, _, rfl⟩
  refine ⟨?_, rfl, fun _ => rfl, rfl⟩
  simp [arrivals, Function.comp_def, Rpc.shutDown, Rpc.hangUp]

theorem accept_calls
    (taken : serverStep state (.accept out_call_id out_method) = some (next, reply)) :
    SameArrivals state next := by
  rcases serverStep_accept_cases taken with ⟨rfl, _⟩ | ⟨_, _, _, _, _, rfl, _⟩
  · exact .refl _
  · exact .of_rpcs rfl rfl rfl rfl

theorem queue_configure_calls {state : Server}
    (taken : state.queue_configure max_pending deadline_ms = (next, reply)) :
    SameArrivals state next := by
  rcases queue_configure_cases taken with ⟨_, rfl, _⟩ | ⟨_, _, rfl⟩
  · exact .refl _
  · exact .of_rpcs rfl rfl rfl rfl

theorem store_deadline_calls {state : Server}
    (taken : state.store_deadline index = some (next, reply)) : SameArrivals state next := by
  rcases store_deadline_cases taken with ⟨deadline_ms, _, _, rfl⟩
  exact .of_rpcs rfl rfl rfl rfl

theorem arrive_calls (state : Server) (path : String) (body : RequestBody) :
    SameCalls state { state with rpcs := state.rpcs ++ [.arrive path body] } := by
  have unseen : ∀ {Value} (look : Rpc → Option Value), look (.arrive path body) = none →
      ∀ index : Nat, ((state.rpcs ++ [.arrive path body])[index]?).bind look =
        (state.rpcs[index]?).bind look := by
    intro Value look nothing index
    rw [List.getElem?_append]
    split
    · rfl
    · rename_i outside
      rw [List.getElem?_eq_none (Nat.le_of_not_lt outside), List.getElem?_singleton]
      split <;> simp [nothing]
  exact ⟨unseen _ rfl, unseen _ rfl, rfl, fun _ => rfl, rfl⟩

end Server

/-- The actions that move a call, or draw it an id. -/
def Action.movesCalls : Action → Bool
  | .handle_queued _ | .complete _ _ _ | .advance _ | .reap_loop | .queue_free => true
  | _ => false

theorem serverStep_sameCalls (taken : serverStep state action = some (next, reply))
    (elsewhere : action.movesCalls = false) : SameCalls state next := by
  cases action with
  | handle_queued | complete | advance | reap_loop | queue_free => cases elsewhere
  | tick elapsed =>
      cases taken
      exact SameArrivals.sameCalls (.of_rpcs rfl rfl rfl rfl)
  | arrive path body =>
      rcases serverStep_arrive_cases taken with ⟨_, rfl, _⟩
      exact state.arrive_calls path body
  | pump_inbound index => exact (Server.pump_inbound_calls taken).sameCalls
  | poll_frame index => exact (Server.poll_frame_calls taken).sameCalls
  | hang_up index => exact (Server.hang_up_calls taken).sameCalls
  | accept out_call_id out_method => exact (Server.accept_calls taken).sameCalls
  | read_into call_id buffer => exact (Server.call_read_into_calls taken).sameCalls
  | write call_id data bytes => exact (Server.call_write_calls taken).sameCalls
  | configure max_pending deadline_ms =>
      exact (Server.queue_configure_calls (Option.some.inj taken)).sameCalls
  | store_deadline index => exact (Server.store_deadline_calls taken).sameCalls
  | server_stop => exact (Server.server_stop_calls taken).sameCalls

/-- What a step does to the calls, for every action. -/
theorem serverStep_calls (taken : serverStep state action = some (next, reply)) :
    CallChange state next (action, reply) := by
  cases action with
  | handle_queued rpc => exact Server.handle_queued_calls taken
  | complete call_id grpc_status message =>
      exact Server.call_complete_calls (Option.some.inj taken)
  | advance call_id => exact Server.advance_calls taken
  | reap_loop => exact Server.reap_loop_calls taken
  | queue_free =>
      cases taken
      exact Server.queue_free_calls state
  | _ => exact .same (serverStep_sameCalls taken rfl) fun _ => rfl

/-- The actions that change which RPCs there are, or how far `handle_queued` has got
with one. -/
def Action.arrives : Action → Bool
  | .arrive _ _ | .handle_queued _ => true
  | _ => false

theorem serverStep_arrivals (taken : serverStep state action = some (next, reply))
    (elsewhere : action.arrives = false) : next.arrivals = state.arrivals := by
  cases action with
  | arrive | handle_queued => cases elsewhere
  | tick elapsed =>
      cases taken
      rfl
  | pump_inbound index => exact (Server.pump_inbound_calls taken).arrivals
  | poll_frame index => exact (Server.poll_frame_calls taken).arrivals
  | hang_up index => exact (Server.hang_up_calls taken).arrivals
  | accept out_call_id out_method => exact (Server.accept_calls taken).arrivals
  | read_into call_id buffer => exact (Server.call_read_into_calls taken).arrivals
  | write call_id data bytes => exact (Server.call_write_calls taken).arrivals
  | complete call_id grpc_status message =>
      rw [Server.arrivals, Server.arrivals, Server.call_complete_rpcs (Option.some.inj taken)]
  | advance call_id => exact (Server.advance_goesOn taken).2.1
  | configure max_pending deadline_ms =>
      exact (Server.queue_configure_calls (Option.some.inj taken)).arrivals
  | store_deadline index => exact (Server.store_deadline_calls taken).arrivals
  | reap_loop => rw [Server.arrivals, Server.arrivals, Server.reap_loop_rpcs taken]
  | queue_free =>
      cases taken
      rfl
  | server_stop => exact (Server.server_stop_calls taken).arrivals

theorem Server.rpc_of_arrivals {state next : Server} (same : next.arrivals = state.arrivals)
    (index : Nat) : (next.rpcs[index]?).map (fun rpc => (rpc.path, rpc.arrival)) =
      (state.rpcs[index]?).map fun rpc => (rpc.path, rpc.arrival) := by
  have equal := congrArg (fun arrivals => arrivals[index]?) same
  simpa only [Server.arrivals, List.getElem?_map] using equal

/-- RPCs stay where they are, and only `handle_queued` gets on with one. -/
theorem serverStep_keeps_rpc {index : Nat} {rpc : Rpc}
    (taken : serverStep state action = some (next, reply))
    (known : state.rpcs[index]? = some rpc) : ∃ after, next.rpcs[index]? = some after ∧
      after.path = rpc.path ∧ (after.arrival = rpc.arrival ∨
        action = .handle_queued index ∧ rpc.arrival ≠ .refused) := by
  have of_arrivals : next.arrivals = state.arrivals → ∃ after, next.rpcs[index]? = some after ∧
      after.path = rpc.path ∧ (after.arrival = rpc.arrival ∨
        action = .handle_queued index ∧ rpc.arrival ≠ .refused) := by
    intro same
    have look := Server.rpc_of_arrivals same index
    rw [known, Option.map_some, Option.map_eq_some_iff] at look
    rcases look with ⟨after, found, equal⟩
    rw [Prod.mk.injEq] at equal
    exact ⟨after, found, equal.1, .inl equal.2⟩
  cases action with
  | arrive path body =>
      rcases serverStep_arrive_cases taken with ⟨_, rfl, _⟩
      have inside : index < state.rpcs.length := (List.getElem?_eq_some_iff.mp known).1
      refine ⟨rpc, ?_, rfl, .inl rfl⟩
      rw [← known]
      exact List.getElem?_append_left inside
  | handle_queued target =>
      rcases Server.handle_queued_cases taken with
        ⟨handling, after, queue, targetKnown, handled, rfl, rfl⟩
      rw [Server.update_rpcs, known]
      split
      · rename_i own
        subst own
        cases known.symm.trans targetKnown
        exact ⟨after, rfl, handled.path, .inr ⟨rfl, handled.not_refused⟩⟩
      · exact ⟨rpc, rfl, rfl, .inl rfl⟩
  | _ => exact of_arrivals (serverStep_arrivals taken rfl)

/-- An RPC that is refused stays refused. -/
theorem serverStep_notRefused {index : Nat} {rpc after : Rpc}
    (taken : serverStep state action = some (next, reply)) (known : state.rpcs[index]? = some rpc)
    (found : next.rpcs[index]? = some after) (notRefused : after.arrival ≠ .refused) :
    rpc.arrival ≠ .refused := by
  rcases serverStep_keeps_rpc taken known with ⟨same, foundSame, _, stays⟩
  cases found.symm.trans foundSame
  rcases stays with equal | ⟨_, admitted⟩
  · rw [← equal]
    exact notRefused
  · exact admitted

theorem serverStep_unknown {index : Nat} (taken : serverStep state action = some (next, reply))
    (unknown : next.rpcs[index]? = none) : state.rpcs[index]? = none := by
  cases known : state.rpcs[index]? with
  | none => rfl
  | some rpc =>
      rcases serverStep_keeps_rpc taken known with ⟨after, found, _⟩
      rw [unknown] at found
      cases found

/-- An RPC that has drawn an id has not been refused. -/
theorem Server.rpc_of_drawn {index id : Nat} {state : Server}
    (drawn : state.idAt index = some id) :
    ∃ rpc, state.rpcs[index]? = some rpc ∧ rpc.arrival ≠ .refused := by
  rcases Option.bind_eq_some_iff.mp drawn with ⟨rpc, known, idOf⟩
  refine ⟨rpc, known, ?_⟩
  intro refused
  rw [refused] at idOf
  cases idOf

/-- A new RPC comes from an arrival. -/
theorem serverStep_new_rpc {index : Nat} {after : Rpc}
    (taken : serverStep state action = some (next, reply))
    (unknown : state.rpcs[index]? = none) (found : next.rpcs[index]? = some after) :
    ∃ path body, action = .arrive path body ∧ after = .arrive path body := by
  have of_arrivals : next.arrivals ≠ state.arrivals := by
    intro same
    have look := Server.rpc_of_arrivals same index
    rw [unknown, found] at look
    cases look
  cases action with
  | arrive path body =>
      rcases serverStep_arrive_cases taken with ⟨_, rfl, _⟩
      have outside : state.rpcs.length ≤ index := List.getElem?_eq_none_iff.mp unknown
      rw [List.getElem?_append_right outside, List.getElem?_singleton] at found
      split at found
      · cases found
        exact ⟨path, body, rfl, rfl⟩
      · cases found
  | handle_queued target =>
      rcases Server.handle_queued_cases taken with ⟨_, _, _, _, _, rfl, rfl⟩
      rw [Server.update_rpcs, unknown] at found
      split at found <;> cases found
  | _ => exact absurd (serverStep_arrivals taken rfl) of_arrivals

end Zpr.GrpcServer
