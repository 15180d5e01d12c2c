import Zpr.EndToEnd.Download

namespace Zpr.EndToEnd

open Ffi GrpcServer

/-! # The messages of a response that the client has buffered

The client's host reads off the wire at first and then out of a ring, which a pump fills
and which has room for a bounded number of messages. -/

/-- What the pump has put into the ring comes off the wire that it was given. -/
def Fed (wire : List Grpc.Incoming) (trace : List (Grpc.Action × Grpc.Reply)) : Grpc.Pump → Prop
  | .unspawned => False
  | .receiving inner | .checking inner =>
      Grpc.messagesOf (wire ++ Grpc.arrived trace) =
        Grpc.received trace ++ Grpc.messagesOf inner.answers
  | .returned => Grpc.received trace <+: Grpc.messagesOf (wire ++ Grpc.arrived trace)

theorem Fed.isPrefix {pump : Grpc.Pump} (fed : Fed wire trace pump) :
    Grpc.received trace <+: Grpc.messagesOf (wire ++ Grpc.arrived trace) := by
  cases pump with
  | unspawned => exact fed.elim
  | receiving inner | checking inner => exact ⟨_, fed.symm⟩
  | returned => exact fed

/-- An event that brings nothing to the wire or the ring. -/
theorem Fed.still {pump : Grpc.Pump} {event : Grpc.Action × Grpc.Reply}
    (fed : Fed wire trace pump) (noArrival : Grpc.arrivedOf event = [])
    (noReceipt : Grpc.receivedOf event = []) : Fed wire (trace ++ [event]) pump := by
  unfold Fed at fed ⊢
  rw [Grpc.arrived_next, Grpc.received_next, noArrival, noReceipt, List.append_nil,
    List.append_nil]
  exact fed

theorem Fed.arrive {pump : Grpc.Pump} {g : Grpc.RingInner} (fed : Fed wire trace pump)
    (arrives : Grpc.ClientCall.arrive ⟨some ⟨.Ring g, pending⟩, pump⟩ incoming = some next) :
    Fed wire (trace ++ [(.arrive incoming, .silent)]) next.pump := by
  have adds : ∀ inner : Grpc.Streaming,
      Grpc.messagesOf (wire ++ Grpc.arrived trace) =
        Grpc.received trace ++ Grpc.messagesOf inner.answers →
      Grpc.messagesOf (wire ++ Grpc.arrived (trace ++ [(.arrive incoming, .silent)])) =
        Grpc.received (trace ++ [(.arrive incoming, .silent)]) ++
          Grpc.messagesOf (inner.arrive incoming).answers := by
    intro inner before
    rw [Grpc.Streaming.arrive, Grpc.arrived_next, Grpc.received_next, ← List.append_assoc,
      Grpc.messagesOf_append, before, Grpc.messagesOf_append, List.append_assoc]
    simp [Grpc.arrivedOf, Grpc.receivedOf]
  cases pump with
  | unspawned | returned => cases arrives
  | receiving inner | checking inner =>
      cases arrives
      exact adds inner fed

theorem Fed.pump {pump : Grpc.Pump} {g : Grpc.RingInner} (fed : Fed wire trace pump)
    (pumped : Grpc.ClientCall.runPump ⟨some ⟨.Ring g, pending⟩, pump⟩ = some (next, reply)) :
    Fed wire (trace ++ [(.pump, reply)]) next.pump := by
  cases pump with
  | unspawned | returned => cases pumped
  | checking inner =>
      cases pumped
      exact fed.still rfl rfl
  | receiving inner =>
      rcases Option.map_eq_some_iff.mp pumped with ⟨⟨after, incoming⟩, answered, equal⟩
      cases incoming with
      | message msg =>
          cases equal
          rcases Grpc.Streaming.message_takes answered with ⟨off, split, same⟩
          have before : Grpc.messagesOf (wire ++ Grpc.arrived trace) =
              (Grpc.received trace ++ [msg]) ++ Grpc.messagesOf after.answers := by
            have taken : [msg] = Grpc.messagesOf off := same
            rw [taken, List.append_assoc, ← Grpc.messagesOf_append, ← split]
            exact fed
          show Grpc.messagesOf (wire ++ Grpc.arrived _) = _
          rw [Grpc.arrived_next, Grpc.received_next]
          simpa [Grpc.arrivedOf, Grpc.receivedOf] using before
      | finished | failed =>
          cases equal
          have before : Fed wire trace .returned := fed.isPrefix
          exact before.still rfl rfl

theorem Fed.step {pump : Grpc.Pump} {g : Grpc.RingInner} (fed : Fed wire trace pump)
    (reads : Grpc.Reads ⟨some ⟨.Ring g, pending⟩, pump⟩ action)
    (taken : Grpc.clientStep ⟨some ⟨.Ring g, pending⟩, pump⟩ action = some (next, reply)) :
    Fed wire (trace ++ [(action, reply)]) next.pump := by
  have others := Grpc.hostRead_of_step ⟨some ⟨.Ring g, pending⟩, pump⟩ ⟨.Ring g, pending⟩ rfl
    reads taken
  cases action with
  | arrive incoming =>
      rcases Option.map_eq_some_iff.mp taken with ⟨call, arrives, equal⟩
      cases equal
      exact fed.arrive arrives
  | pump => exact fed.pump taken
  | buffer stream capacity =>
      cases stream with
      | null =>
          cases taken
          exact fed.still rfl rfl
      | valid =>
          simp only [Grpc.clientStep, Grpc.ClientCall.onHandle, Option.bind_some,
            Grpc.ClientCall.zpr_grpc_client_stream_buffer] at taken
          split at taken <;> cases taken <;> exact fed.still rfl rfl
  | _ =>
      rcases others (by simp) (by simp) (by simp) with ⟨after, off, rfl, read⟩
      exact fed.still read.arrived read.received

/-- What the client has taken off the wire, before and after it buffered the stream. -/
structure Buffered (looked : List Bytes) (earlier later : List (Grpc.Action × Grpc.Reply))
    (g : Grpc.RingInner) (pending : Option Bytes) : Prop where
  /-- what the host was given, and what it holds, is in the order of the messages -/
  in_order : (Grpc.delivered earlier ++ Grpc.delivered later ++ pending.toList).Sublist looked
  /-- the newest wait in the ring -/
  newest : g.q <:+ looked
  /-- what is missing is what the ring says that it has dropped -/
  balance : looked.length = (Grpc.delivered earlier).length + (Grpc.delivered later).length +
    pending.toList.length + g.dropped + g.q.length

theorem buffered_of_run {call : Grpc.ClientCall}
    (reading : RunWhere Grpc.ReadsUnbuffered Grpc.clientStep .opened earlier call)
    (buffered : Grpc.clientStep call (.buffer .valid capacity) =
      some (switched, .returned ZPR_OK none))
    (rest : RunWhere Grpc.Reads Grpc.clientStep switched later final) :
    ∃ g pending pump looked, final = ⟨some ⟨.Ring g, pending⟩, pump⟩ ∧
      Buffered looked earlier later g pending ∧
      looked <+: Grpc.messagesOf (Grpc.arrived earlier ++ Grpc.arrived later) ∧
      ∀ inner, pump = .receiving inner ∨ pump = .checking inner →
        Grpc.messagesOf (Grpc.arrived earlier ++ Grpc.arrived later) =
          looked ++ Grpc.messagesOf inner.answers := by
  rcases Grpc.pulled_of_run reading with ⟨wire, held, consumed, rfl, arrivals, deliveries⟩
  have positive := (Grpc.accounted_of_run rfl buffered rest).1
  have switching : switched = ⟨some ⟨.Ring (.new capacity), held⟩, .receiving wire⟩ := by
    simp only [Grpc.clientStep, Grpc.ClientCall.onHandle, Option.bind_some,
      Grpc.ClientCall.zpr_grpc_client_stream_buffer, if_neg (Nat.ne_of_gt positive)] at buffered
    cases buffered
    rfl
  have known : Grpc.Accounted held capacity later final ∧ Fed wire.answers later final.pump := by
    apply rest.invariant fun trace call =>
      Grpc.Accounted held capacity trace call ∧ Fed wire.answers trace call.pump
    · refine ⟨(Grpc.accounted_of_run rfl buffered .start).2, ?_⟩
      rw [switching]
      simp [Fed, Grpc.arrived, Grpc.received]
    · intro trace call action next reply _ known reads taken
      refine ⟨known.1.step positive reads taken, ?_⟩
      rcases known.1 with ⟨g, pending, pump, _, rfl, _⟩
      exact known.2.step reads taken
  rcases known with ⟨⟨g, pending, pump, history, rfl, shows, receipts, losses, given⟩, fed⟩
  have whole : Grpc.messagesOf (Grpc.arrived earlier ++ Grpc.arrived later) =
      Grpc.messagesOf consumed ++ Grpc.messagesOf (wire.answers ++ Grpc.arrived later) := by
    rw [arrivals, List.append_assoc, Grpc.messagesOf_append]
  have hosts : Grpc.delivered earlier ++ Grpc.delivered later ++ pending.toList =
      Grpc.messagesOf consumed ++ history.taken := by
    rw [List.append_assoc, given, ← List.append_assoc, deliveries]
  refine ⟨g, pending, pump, Grpc.messagesOf consumed ++ Grpc.received later, rfl, ⟨?_, ?_, ?_⟩, ?_,
    ?_⟩
  · rw [hosts, ← receipts]
    exact (List.Sublist.refl _).append history.taken_sublist
  · rw [shows.q, ← receipts]
    exact history.queue_suffix.trans (List.suffix_append _ _)
  · have lengths := congrArg List.length hosts
    have balance := history.length_received
    rw [receipts] at balance
    simp only [List.length_append] at lengths ⊢
    rw [shows.dropped, shows.q]
    omega
  · rw [whole]
    exact (List.prefix_append_right_inj _).mpr fed.isPrefix
  · intro inner alive
    have exactly : Grpc.messagesOf (wire.answers ++ Grpc.arrived later) =
        Grpc.received later ++ Grpc.messagesOf inner.answers := by
      rcases alive with rfl | rfl
      · exact fed
      · exact fed
    rw [whole, exactly, List.append_assoc]

/-- However the two hosts, the pump, the two transports and the network go about it, what
the client's host reads of a stream that it has buffered is a selection of what the server's
host has written, in order. Up to the point that the pump has reached, the messages that are
missing are as many as the ring reports to have dropped. -/
theorem buffered_downloads_lose_what_is_counted {tonic : Tonic}
    (documented : tonic.Documented limit)
    (serving : Run serverStep .start trace server) (drawn : server.idAt index = some call_id)
    (short : ∀ msg ∈ writes call_id trace, msg.length < 2 ^ 32) {call : Grpc.ClientCall}
    (reading : RunWhere Grpc.ReadsUnbuffered Grpc.clientStep .opened earlier call)
    (buffered : Grpc.clientStep call (.buffer .valid capacity) =
      some (switched, .returned ZPR_OK none))
    (rest : RunWhere Grpc.Reads Grpc.clientStep switched later client)
    (part : brought <+: (dataFrames (frames index trace)).flatten)
    (carried : Grpc.messagesOf (Grpc.arrived earlier ++ Grpc.arrived later) <+:
      tonic.response_messages brought) :
    ∃ rpc g pending pump looked cut waiting, server.rpcs[index]? = some rpc ∧
      client = ⟨some ⟨.Ring g, pending⟩, pump⟩ ∧ Buffered looked earlier later g pending ∧
      (looked <+: writes call_id trace) ∧
      Brought tonic limit (writes call_id trace) (frames index trace) brought rpc
        (Grpc.messagesOf (Grpc.arrived earlier ++ Grpc.arrived later)) cut waiting ∧
      (∀ inner, pump = .receiving inner ∨ pump = .checking inner →
        Grpc.messagesOf (Grpc.arrived earlier ++ Grpc.arrived later) =
          looked ++ Grpc.messagesOf inner.answers) ∧
      Grpc.zpr_grpc_client_stream_stats ⟨.Ring g, pending⟩ .valid .valid =
        .stats ZPR_OK (some g.q.length) (some g.dropped) none := by
  rcases brought_of_run documented serving drawn short part carried with
    ⟨rpc, cut, waiting, known, isBrought⟩
  rcases buffered_of_run reading buffered rest with
    ⟨g, pending, pump, looked, rfl, isBuffered, isPrefix, exactly⟩
  refine ⟨rpc, g, pending, pump, looked, cut, waiting, known, rfl, isBuffered, ?_, isBrought,
    exactly, rfl⟩
  apply isPrefix.trans
  rw [isBrought.split, List.append_assoc]
  exact List.prefix_append _ _

/-- A ring with room for one message, and two of them before the host reads. -/
theorem buffered_downloads_lose_what_is_counted_for_two_writes :
    ∃ trace server later, ∃ client : Grpc.ClientCall, ∃ rpc g pending pump looked cut waiting,
      Run serverStep .start trace server ∧ server.rpcs[0]? = some rpc ∧
      client = ⟨some ⟨.Ring g, pending⟩, pump⟩ ∧ Grpc.delivered later = [[8, 9]] ∧
      Buffered looked [] later g pending ∧ (looked <+: writes 1 trace) ∧
      Brought (Tonic.withLimit 4194304) 4194304 (writes 1 trace) (frames 0 trace)
        (uncompressed.encodeAll [[7], [8, 9]]) rpc
        (Grpc.messagesOf (Grpc.arrived [] ++ Grpc.arrived later)) cut waiting := by
  have client : ∃ switched later client,
      Grpc.clientStep .opened (.buffer .valid 1) = some (switched, .returned ZPR_OK none) ∧
      replay Grpc.clientStep switched
        [.arrive (.message [7]), .pump, .arrive (.message [8, 9]), .pump, .pump,
          .read .valid .valid] = some (later, client) ∧
      Grpc.delivered later = [[8, 9]] ∧
      Grpc.messagesOf (Grpc.arrived [] ++ Grpc.arrived later) = [[7], [8, 9]] :=
    ⟨_, _, _, rfl, rfl, rfl, rfl⟩
  rcases client with ⟨switched, later, client, buffered, replayed, given, arrivals⟩
  rcases exists_run_of_two_writes with ⟨trace, server, serving, drawn, written, polled⟩
  have documented : (Tonic.withLimit 4194304).Documented 4194304 :=
    Tonic.withLimit_documented (by decide)
  have short : ∀ msg ∈ writes 1 trace, msg.length < 2 ^ 32 := by
    rw [written]
    decide
  have rest : RunWhere Grpc.Reads Grpc.clientStep switched later client := by
    apply runWhere_of_replay replayed
    simp [Grpc.Reads]
  have part : uncompressed.encodeAll [[7], [8, 9]] <+: (dataFrames (frames 0 trace)).flatten := by
    rw [polled]
    exact List.prefix_rfl
  have carried : Grpc.messagesOf (Grpc.arrived [] ++ Grpc.arrived later) <+:
      (Tonic.withLimit 4194304).response_messages (uncompressed.encodeAll [[7], [8, 9]]) := by
    rw [response_messages_of_two_writes, arrivals]
  rcases buffered_downloads_lose_what_is_counted documented serving drawn short .start buffered
    rest part carried with ⟨rpc, g, pending, pump, looked, cut, waiting, known, same, isBuffered,
      isPrefix, isBrought, _⟩
  exact ⟨trace, server, later, client, rpc, g, pending, pump, looked, cut, waiting, serving, known,
    same, given, isBuffered, isPrefix, isBrought⟩

end Zpr.EndToEnd
