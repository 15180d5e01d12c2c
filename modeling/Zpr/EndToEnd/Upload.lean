import Zpr.EndToEnd.Wire
import Zpr.Grpc.RequestHalf
import Zpr.GrpcServer.QueuedReads

namespace Zpr.EndToEnd

open Ffi GrpcServer

/-! # The messages of a request, from host to host

A host sends on a bidirectional call, tonic polls `ReqStream` and puts what it gets on the
wire, and `pump_inbound` takes the messages out again for the host of the server. Both
programs make their steps at any time; what the wire brings is a part of what has gone out. -/

/-! ## The sending end -/

/-- Once the request stream has ended, everything accepted is polled, and nothing more is
accepted. -/
structure Ended (uploads : List (Grpc.Bidi.RequestAction × Grpc.Bidi.RequestReply))
    (client : Grpc.Bidi.BidiCall) : Prop where
  shut : client.rx.senderAlive = false → client.tx ≠ some true
  ended : (.poll_next, .ready none) ∈ uploads → client.rx.senderAlive = false ∧
    Grpc.Bidi.polled uploads = Grpc.Bidi.accepted uploads

theorem Ended.opened (made : Grpc.Bidi.requestChannel send_capacity = some rx) :
    Ended [] (.opened rx) := by
  rcases Grpc.Bidi.requestChannel_eq made with ⟨alive, _⟩
  constructor
  · intro dead
    cases alive.symm.trans dead
  · intro member
    cases member

/-- An event that is not the end, and neither accepts nor yields a message. -/
theorem Ended.still {event : Grpc.Bidi.RequestAction × Grpc.Bidi.RequestReply}
    (ended : Ended uploads client) (noEnd : event ≠ (.poll_next, .ready none))
    (unaccepted : Grpc.Bidi.acceptedOf event = []) (unpolled : Grpc.Bidi.polledOf event = [])
    (sender : client.rx.senderAlive = false → next.rx.senderAlive = false)
    (shut : next.rx.senderAlive = false → next.tx ≠ some true) :
    Ended (uploads ++ [event]) next := by
  constructor
  · exact shut
  · intro member
    rcases List.mem_append.mp member with before | last
    · rcases ended.ended before with ⟨dead, all⟩
      refine ⟨sender dead, ?_⟩
      rw [Grpc.Bidi.polled_next, Grpc.Bidi.accepted_next, unaccepted, unpolled, all]
    · exact absurd (List.mem_singleton.mp last).symm noEnd

theorem Ended.step (ended : Ended uploads client)
    (conserved : Grpc.Bidi.Conserved capacity uploads client)
    (taken : Grpc.Bidi.requestStep client action = some (next, reply)) :
    Ended (uploads ++ [(action, reply)]) next := by
  have orderly := conserved.orderly taken
  cases Grpc.Bidi.requestStep_cases taken with
  | elsewhere action reply noSend noClose rx tx =>
      apply ended.still (by simp) ?_ rfl (by rw [rx]; exact fun dead => dead)
      · rw [rx, tx]
        exact ended.shut
      · unfold Grpc.Bidi.acceptedOf
        split
        · rename_i same
          simp only [Prod.mk.injEq, Grpc.Bidi.RequestAction.call.injEq] at same
          exact absurd same.1 (noSend _ _ _)
        · rfl
  | accepts data bytes s held opened alive room sent =>
      subst sent
      have tx : client.tx = some true := by
        rw [Grpc.Bidi.BidiCall.tx, held, Option.map_some, opened]
      constructor
      · intro dead
        exact absurd tx (ended.shut dead)
      · intro member
        rcases List.mem_append.mp member with before | last
        · exact absurd tx (ended.shut (ended.ended before).1)
        · cases List.mem_singleton.mp last
  | refuses stream data bytes rc last_error code same =>
      subst same
      apply ended.still (by simp) ?_ rfl (fun dead => dead) ended.shut
      rcases code with rfl | rfl <;> cases stream <;> rfl
  | ignores stream reply null same =>
      subst null same
      exact ended.still (by simp) rfl rfl (fun dead => dead) ended.shut
  | closes reply s held closed =>
      subst closed
      apply ended.still (by simp) rfl rfl (fun _ => rfl)
      simp [Grpc.Bidi.BidiCall.tx]
  | cancels reply freed =>
      subst freed
      apply ended.still (by simp) rfl rfl (fun _ => rfl)
      simp [Grpc.Bidi.BidiCall.tx]
  | yields bytes buffer alive held rest =>
      subst rest
      constructor
      · exact ended.shut
      · intro member
        rcases List.mem_append.mp member with before | last
        · -- nothing is left in the channel after the end
          rcases conserved.conserved with ⟨lost, balance, _, _⟩
          rw [held, (ended.ended before).2] at balance
          have none := List.append_right_eq_self.mp balance.symm
          cases none
        · cases List.mem_singleton.mp last
  | waits same =>
      subst same
      exact ended.still (by simp) rfl rfl (fun dead => dead) ended.shut
  | ends alive empty gone same =>
      subst same
      refine ⟨ended.shut, fun _ => ⟨gone, ?_⟩⟩
      rw [Grpc.Bidi.polled_next, Grpc.Bidi.accepted_next, (orderly.ended rfl).2]
      rfl
  | hangsUp dropped =>
      subst dropped
      exact ended.still (by simp) rfl rfl (fun dead => dead) ended.shut

/-- What the sending end has accepted: what went out, what waits, and what the end of the
transport has thrown away. -/
theorem sending_of_run (made : Grpc.Bidi.requestChannel send_capacity = some rx)
    (sending : Run Grpc.Bidi.requestStep (.opened rx) uploads client) :
    Grpc.Bidi.Conserved (if send_capacity = 0 then 8 else send_capacity) uploads client ∧
      Ended uploads client := by
  apply sending.invariant fun uploads client =>
    Grpc.Bidi.Conserved (if send_capacity = 0 then 8 else send_capacity) uploads client ∧
      Ended uploads client
  · exact ⟨.opened made, .opened made⟩
  · intro uploads client action next reply _ known _ taken
    exact ⟨known.1.step taken, known.2.step known.1 taken⟩

/-! ## The receiving end -/

/-- A body that brings a part of a stream of messages brings the messages at its
beginning. -/
theorem messages_of_part {body : RequestBody} {messages : List Bytes}
    (short : ∀ msg ∈ messages, msg.length < 2 ^ 32)
    (part : received body.frames <+: uncompressed.encodeAll messages) :
    ∃ cut, messages = body.messages ++ cut ∧
      (received body.frames = uncompressed.encodeAll messages → cut = []) := by
  have part' : received body.frames <+: uncompressed.encodeAll messages ++ [] := by
    rw [List.append_nil]
    exact part
  have nothing : [] <+: encode_grpc_frame [] := List.nil_prefix
  have decoded := pump_inbound_eq_decode short uncompressed.next_nil nothing part'
  have whole : uncompressed.decode (uncompressed.encodeAll messages) = (messages, []) := by
    have all := uncompressed.decode_encodeAll_append short []
    rw [uncompressed.decode_of_next_eq_none uncompressed.next_nil, List.append_nil,
      List.append_nil] at all
    exact all
  rcases part with ⟨more, equal⟩
  have split := uncompressed.decode_append (received body.frames) more
  rw [equal, whole] at split
  have first : messages = body.messages ++
      (uncompressed.decode ((uncompressed.decode (received body.frames)).2 ++ more)).1 := by
    rw [RequestBody.messages, decoded.1]
    exact congrArg Prod.fst split
  refine ⟨_, first, fun all => ?_⟩
  have same : body.messages = messages := by
    rw [RequestBody.messages, decoded.1, all, whole]
  rw [same] at first
  exact List.append_right_eq_self.mp first.symm

/-! ## Both ends -/

/-- Where the messages are that the client's host has sent, for a call that the server's
host holds. -/
structure Underway (uploads : List (Grpc.Bidi.RequestAction × Grpc.Bidi.RequestReply))
    (client : Grpc.Bidi.BidiCall) (delivered : List Bytes) (call : LiveCall) (rpc : Rpc)
    (cut lost : List Bytes) : Prop where
  /-- read by the server's host, held for a larger buffer, in the server's channel, in its
  pump or on the way there, cut off by the network, in the client's channel, or thrown away
  with it -/
  places : Grpc.Bidi.accepted uploads = delivered ++ call.pending_msg.toList ++
    rpc.inbound.buffer ++ rpc.pump.toSend ++ cut ++ client.rx.buffer ++ lost
  /-- nothing is thrown away before the server has hung up on the request -/
  kept : client.rx.receiverAlive = true → lost = []

/-- However the two hosts, the two transports and the network go about it, what the
server's host reads is the beginning of what the client's host has sent, in order. While
its call is live, everything that was sent is at one place on the way. When the network has
brought everything and the server's host is told that the client is done, it has read it
all. -/
theorem uploads_are_delivered_in_order {tonic : Tonic}
    (documented : tonic.Documented limit)
    (made : Grpc.Bidi.requestChannel send_capacity = some rx)
    (sending : Run Grpc.Bidi.requestStep (.opened rx) uploads client)
    (short : ∀ msg ∈ Grpc.Bidi.polled uploads, msg.length < 2 ^ 32)
    (serving : Run serverStep .start trace server) (drawn : server.idAt index = some call_id)
    (brought : (bodies trace)[index]? = some body)
    (part : received body.frames <+: tonic.request_body (Grpc.Bidi.polled uploads)) :
    delivered call_id trace <+: Grpc.Bidi.accepted uploads ∧
      ∀ call rpc, server.queue.live.find? call_id = some call → server.rpcs[index]? = some rpc →
        server.running = true →
        (∃ cut lost, Underway uploads client (delivered call_id trace) call rpc cut lost ∧
          (received body.frames = tonic.request_body (Grpc.Bidi.polled uploads) → cut = [])) ∧
        ∀ buffer next reply,
          serverStep server (.read_into call_id buffer) = some (next, .read reply) →
          reply.rc = ZPR_CALL_CLIENT_DONE →
          received body.frames = tonic.request_body (Grpc.Bidi.polled uploads) →
          (.poll_next, .ready none) ∈ uploads →
          delivered call_id trace = Grpc.Bidi.accepted uploads := by
  rcases sending_of_run made sending with ⟨conserved, ended⟩
  rcases conserved.conserved with ⟨lost, balance, _, kept⟩
  have sameBytes := documented.request_body_eq short
  rw [sameBytes] at part
  rcases messages_of_part short part with ⟨cut, messages, uncut⟩
  have lossless := lossless_of_run serving
  rcases lossless.history_of_drawn drawn with ⟨rpc, _, known, sameBody, history⟩
  cases brought.symm.trans sameBody
  constructor
  · rw [balance, messages, List.append_assoc]
    exact (history.returned_prefix.trans history.isPrefix).trans (List.prefix_append _ _)
  · intro call other held knownOther running
    cases known.symm.trans knownOther
    have reading : (server.request index rpc).reading = .live call :=
      Server.reading_of_live lossless.consistent drawn held
    have accounts := history.accounts
    rw [reading] at accounts
    have attended := history.attended (by simp [reading])
    have pumped := history.pumped attended running
    have sentHere := accounts.1
    simp only [Server.request] at pumped sentHere
    constructor
    · refine ⟨cut, lost, ⟨?_, kept⟩, fun all => uncut (all.trans sameBytes)⟩
      rw [balance, messages, ← pumped, sentHere]
      simp only [List.append_assoc]
    · intro buffer next reply taken told all finished
      rcases read_into_done lossless drawn held taken told known with ⟨_, nothing, atEnd⟩
      have whole := (lossless.all_of_done drawn held known brought nothing atEnd).2.2 running
      rw [whole, ← (ended.ended finished).2, messages, uncut (all.trans sameBytes),
        List.append_nil]

/-- Two messages, the second of them in two pieces, read to the end. -/
theorem upload_of_two_messages_is_delivered : ∃ uploads client trace server call rpc next reply,
    Run Grpc.Bidi.requestStep (.opened (.create 1)) uploads client ∧
      Run serverStep .start trace server ∧
      server.queue.live.find? 1 = some call ∧ server.rpcs[0]? = some rpc ∧
      serverStep server (.read_into 1 ⟨.valid, 8, .valid⟩) = some (next, .read reply) ∧
      reply.rc = ZPR_CALL_CLIENT_DONE ∧ Grpc.Bidi.accepted uploads = [[1], [2]] ∧
      delivered 1 trace = Grpc.Bidi.accepted uploads := by
  have client : ∃ uploads client, replay Grpc.Bidi.requestStep (.opened (.create 1))
        [.call (.send .valid .valid [1]), .poll_next, .call (.send .valid .valid [2]),
          .call (.close_send .valid), .poll_next, .poll_next] = some (uploads, client) ∧
      Grpc.Bidi.polled uploads = [[1], [2]] ∧ Grpc.Bidi.accepted uploads = [[1], [2]] ∧
      (.poll_next, .ready none) ∈ uploads := by
    refine ⟨_, _, rfl, rfl, rfl, ?_⟩
    decide
  have server : ∃ trace server call rpc next reply, replay serverStep .start
        [.arrive "/a" ⟨[.data [0, 0, 0, 0, 1, 1, 0, 0], .data [0, 0, 1, 2]], false⟩,
          .handle_queued 0, .handle_queued 0, .handle_queued 0, .handle_queued 0,
          .handle_queued 0, .pump_inbound 0, .pump_inbound 0, .pump_inbound 0, .pump_inbound 0,
          .read_into 1 ⟨.valid, 1, .valid⟩, .read_into 1 ⟨.valid, 1, .valid⟩,
          .pump_inbound 0] = some (trace, server) ∧
      server.idAt 0 = some 1 ∧ server.running = true ∧
      (bodies trace)[0]? =
        some ⟨[.data [0, 0, 0, 0, 1, 1, 0, 0], .data [0, 0, 1, 2]], false⟩ ∧
      server.queue.live.find? 1 = some call ∧ server.rpcs[0]? = some rpc ∧
      serverStep server (.read_into 1 ⟨.valid, 8, .valid⟩) = some (next, .read reply) ∧
      reply.rc = ZPR_CALL_CLIENT_DONE :=
    ⟨_, _, _, _, _, _, rfl, rfl, rfl, rfl, rfl, rfl, rfl, rfl⟩
  rcases client with ⟨uploads, client, sending, isPolled, isAccepted, finished⟩
  rcases server with ⟨trace, server, call, rpc, next, reply, serving, drawn, running, brought,
    held, known, taken, told⟩
  have documented : (Tonic.withLimit 4194304).Documented 4194304 :=
    Tonic.withLimit_documented (by decide)
  have short : ∀ msg ∈ Grpc.Bidi.polled uploads, msg.length < 2 ^ 32 := by
    rw [isPolled]
    decide
  have whole : received [.data [0, 0, 0, 0, 1, 1, 0, 0], .data [0, 0, 1, 2]] =
      (Tonic.withLimit 4194304).request_body (Grpc.Bidi.polled uploads) := by
    rw [isPolled]
    decide
  have made : Grpc.Bidi.requestChannel 1 = some (.create 1) := by decide
  have result := uploads_are_delivered_in_order documented made (run_of_replay sending) short
    (run_of_replay serving) drawn brought ⟨[], by rw [List.append_nil, whole]⟩
  have all := (result.2 call rpc held known running).2 _ next reply taken told whole finished
  exact ⟨uploads, client, trace, server, call, rpc, next, reply, run_of_replay sending,
    run_of_replay serving, held, known, taken, told, isAccepted, all⟩

end Zpr.EndToEnd
