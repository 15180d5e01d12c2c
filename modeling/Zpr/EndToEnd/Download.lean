import Zpr.EndToEnd.Wire
import Zpr.Grpc.PullMode
import Zpr.Grpc.RingMode
import Zpr.GrpcServer.FramedMessages

namespace Zpr.EndToEnd

open Ffi GrpcServer

/-! # The messages of a response, from host to host

The server's host writes, hyper polls the response body, and tonic hands the messages to
the host of the client, who reads them off the wire or out of a ring. What the wire brings
is a part of what has gone out, and what the client's host is shown is a part of that. -/

/-! ## The sending end -/

/-- The frame of a message ends with the message. -/
theorem drop_encode_grpc_frame (msg : Bytes) : (encode_grpc_frame msg).drop 5 = msg := rfl

theorem encode_grpc_frame_injective : Function.Injective encode_grpc_frame := by
  intro left right same
  rw [← drop_encode_grpc_frame left, same, drop_encode_grpc_frame]

/-- The messages written, by whether the client has been shown their frames. -/
structure Outgoing (written : List Bytes) (frames : List (Option Frame)) (rpc : Rpc)
    (gone waiting : List Bytes) : Prop where
  split : written = gone ++ waiting
  data : dataFrames frames = gone.map encode_grpc_frame
  buffered : rpc.connected = true → rpc.body.state = .streaming → waiting = rpc.body.rx.buffer
  closed : ∀ trailers, some (.trailers trailers) ∈ frames → waiting = []

theorem dataFrames_isPrefix {written : List Bytes} {removals : List (Int × String)} {polls : Nat}
    {frames : List (Option Frame)} (isPrefix : frames <+: expectedFrames written removals polls) :
    dataFrames frames <+: written.map encode_grpc_frame := by
  rcases isPrefix with ⟨later, equal⟩
  rw [← dataFrames_expectedFrames written removals polls, ← equal, dataFrames_append]
  exact List.prefix_append _ _

/-- Trailers come after all the messages. -/
theorem all_shown_of_trailers {written : List Bytes} {removals : List (Int × String)}
    {polls : Nat} {frames : List (Option Frame)} {trailers : List (String × String)}
    (isPrefix : frames <+: expectedFrames written removals polls)
    (ended : some (.trailers trailers) ∈ frames) :
    dataFrames frames = written.map encode_grpc_frame := by
  have all : written.map shown <+: frames := by
    by_cases long : (written.map shown).length ≤ frames.length
    · exact List.prefix_of_prefix_length_le (List.prefix_append _ _) isPrefix long
    · have inside : frames <+: written.map shown :=
        List.prefix_of_prefix_length_le isPrefix (List.prefix_append _ _) (by omega)
      exact absurd (inside.subset ended) (trailers_not_mem_shown written trailers)
  rcases all with ⟨later, rfl⟩
  have notMore := dataFrames_isPrefix isPrefix
  rw [dataFrames_append, dataFrames_shown] at notMore ⊢
  exact notMore.eq_of_length (Nat.le_antisymm notMore.length_le (by simp))

theorem outgoing_of_run (serving : Run serverStep .start trace server)
    (drawn : server.idAt index = some call_id) :
    ∃ rpc gone waiting, server.rpcs[index]? = some rpc ∧
      Outgoing (writes call_id trace) (frames index trace) rpc gone waiting := by
  rcases (explained_of_run serving).history_of_drawn drawn with ⟨rpc, known, history⟩
  rcases history.isPrefix with ⟨polls, isPrefix⟩
  rcases dataFrames_isPrefix isPrefix with ⟨rest, equal⟩
  rcases List.map_eq_append_iff.mp equal.symm with ⟨gone, waiting, split, data, others⟩
  refine ⟨rpc, gone, waiting, known, split, data.symm, ?_, ?_⟩
  · intro connected streaming
    have shownSoFar := history.delivered connected
    simp only [Delivered, Server.response, streaming] at shownSoFar
    have frameBytes := congrArg dataFrames shownSoFar
    rw [dataFrames_append, dataFrames_shown, dataFrames_shown, ← data, split, List.map_append,
      List.append_cancel_left_eq] at frameBytes
    exact (List.map_injective_iff.mpr encode_grpc_frame_injective frameBytes).symm
  · intro trailers ended
    have all := all_shown_of_trailers isPrefix ended
    rw [← data, split, List.map_append] at all
    have none := List.append_right_eq_self.mp all.symm
    exact List.map_eq_nil_iff.mp none

/-! ## The wire -/

/-- The messages that the client has been brought, and those that it has not. -/
theorem carried_of_part {tonic : Tonic} {gone : List Bytes} {polled : List (Option Frame)}
    (documented : tonic.Documented limit) (data : dataFrames polled = gone.map encode_grpc_frame)
    (short : ∀ msg ∈ gone, msg.length < 2 ^ 32) (part : brought <+: (dataFrames polled).flatten)
    (carried : messages <+: tonic.response_messages brought) :
    ∃ cut, gone = messages ++ cut ∧
      (messages = tonic.response_messages brought → brought = (dataFrames polled).flatten →
        (∀ msg ∈ gone, msg.length ≤ limit) → cut = []) := by
  have whole : (dataFrames polled).flatten = uncompressed.encodeAll gone := by
    rw [data, ← List.flatMap_def]
    rfl
  rw [whole] at part
  rcases carried.trans (documented.response_messages_prefix short part) with ⟨cut, split⟩
  refine ⟨cut, split.symm, fun all everything allowed => ?_⟩
  rw [all, everything, whole, documented.response_messages_all allowed] at split
  exact List.append_right_eq_self.mp split

/-- The messages that have been written, against those that have reached the client. -/
structure Brought (tonic : Tonic) (limit : Nat) (written : List Bytes)
    (polled : List (Option Frame)) (brought : Bytes) (rpc : Rpc) (reached cut waiting : List Bytes) :
    Prop where
  split : written = reached ++ cut ++ waiting
  /-- what has not been polled waits in the channel, and nothing waits behind the trailers -/
  buffered : rpc.connected = true → rpc.body.state = .streaming → waiting = rpc.body.rx.buffer
  closed : ∀ trailers, some (.trailers trailers) ∈ polled → waiting = []
  /-- nothing is cut off that the network has brought and that is not too large -/
  uncut : brought = (dataFrames polled).flatten → reached = tonic.response_messages brought →
    (∀ msg ∈ written, msg.length ≤ limit) → cut = []

theorem brought_of_run {tonic : Tonic} (documented : tonic.Documented limit)
    (serving : Run serverStep .start trace server) (drawn : server.idAt index = some call_id)
    (short : ∀ msg ∈ writes call_id trace, msg.length < 2 ^ 32)
    (part : brought <+: (dataFrames (frames index trace)).flatten)
    (carried : reached <+: tonic.response_messages brought) :
    ∃ rpc cut waiting, server.rpcs[index]? = some rpc ∧
      Brought tonic limit (writes call_id trace) (frames index trace) brought rpc reached cut
        waiting := by
  rcases outgoing_of_run serving drawn with ⟨rpc, gone, waiting, known, outgoing⟩
  have among : ∀ msg ∈ gone, msg ∈ writes call_id trace := by
    intro msg member
    rw [outgoing.split]
    exact List.mem_append_left _ member
  have shortGone : ∀ msg ∈ gone, msg.length < 2 ^ 32 :=
    fun msg member => short msg (among msg member)
  rcases carried_of_part documented outgoing.data shortGone part carried with ⟨cut, split, uncut⟩
  refine ⟨rpc, cut, waiting, known, ?_, outgoing.buffered, outgoing.closed, ?_⟩
  · rw [outgoing.split, split]
  · intro everything all allowed
    exact uncut all everything fun msg member => allowed msg (among msg member)

/-! ## Reading off the wire -/

/-- However the two hosts, the two transports and the network go about it, what the
client's host reads off the wire is the beginning of what the server's host has written, in
order; what comes after it is held for a larger buffer, has come in, is cut off on the way
or waits to be polled. -/
theorem downloads_are_delivered_in_order {tonic : Tonic} (documented : tonic.Documented limit)
    (serving : Run serverStep .start trace server) (drawn : server.idAt index = some call_id)
    (short : ∀ msg ∈ writes call_id trace, msg.length < 2 ^ 32)
    (reading : RunWhere Grpc.ReadsUnbuffered Grpc.clientStep .opened downloads client)
    (part : brought <+: (dataFrames (frames index trace)).flatten)
    (carried : Grpc.messagesOf (Grpc.arrived downloads) <+: tonic.response_messages brought) :
    ∃ rpc inner pending cut waiting, server.rpcs[index]? = some rpc ∧
      client = ⟨some ⟨.Pull inner, pending⟩, .unspawned⟩ ∧
      Brought tonic limit (writes call_id trace) (frames index trace) brought rpc
        (Grpc.delivered downloads ++ pending.toList ++ Grpc.messagesOf inner.answers) cut waiting := by
  rcases Grpc.pulled_of_run reading with ⟨inner, pending, consumed, rfl, arrivals, deliveries⟩
  have reached : Grpc.messagesOf (Grpc.arrived downloads) =
      Grpc.delivered downloads ++ pending.toList ++ Grpc.messagesOf inner.answers := by
    rw [arrivals, Grpc.messagesOf_append, deliveries]
  rw [reached] at carried
  rcases brought_of_run documented serving drawn short part carried with
    ⟨rpc, cut, waiting, known, isBrought⟩
  exact ⟨rpc, inner, pending, cut, waiting, known, rfl, isBrought⟩

/-- A server's host that writes two messages and completes the call. -/
theorem exists_run_of_two_writes : ∃ trace server, Run serverStep .start trace server ∧
    server.idAt 0 = some 1 ∧ writes 1 trace = [[7], [8, 9]] ∧
    frames 0 trace = [shown [7], shown [8, 9], some (.trailers [("grpc-status", "0")])] := by
  have replayed : ∃ trace server, replay serverStep .start
      [.arrive "/a" ⟨[], false⟩, .handle_queued 0, .handle_queued 0, .handle_queued 0,
        .handle_queued 0, .handle_queued 0, .write 1 .valid [7], .poll_frame 0,
        .write 1 .valid [8, 9], .complete 1 0 none, .poll_frame 0, .advance 1, .advance 1,
        .advance 1, .poll_frame 0] = some (trace, server) ∧
      server.idAt 0 = some 1 ∧ writes 1 trace = [[7], [8, 9]] ∧
      frames 0 trace = [shown [7], shown [8, 9], some (.trailers [("grpc-status", "0")])] :=
    ⟨_, _, rfl, rfl, rfl, rfl⟩
  rcases replayed with ⟨trace, server, replayed, known⟩
  exact ⟨trace, server, run_of_replay replayed, known⟩

/-- What the wire brings of these messages. -/
theorem response_messages_of_two_writes :
    (Tonic.withLimit 4194304).response_messages (uncompressed.encodeAll [[7], [8, 9]]) =
      [[7], [8, 9]] := by
  have documented : (Tonic.withLimit 4194304).Documented 4194304 :=
    Tonic.withLimit_documented (by decide)
  exact documented.response_messages_all (by decide)

theorem downloads_are_delivered_for_two_writes : ∃ trace server downloads client rpc cut waiting,
    Run serverStep .start trace server ∧
      RunWhere Grpc.ReadsUnbuffered Grpc.clientStep .opened downloads client ∧
      client = ⟨some ⟨.Pull .opened, some [8, 9]⟩, .unspawned⟩ ∧ Grpc.delivered downloads = [[7]] ∧
      Brought (Tonic.withLimit 4194304) 4194304 (writes 1 trace) (frames 0 trace)
        (uncompressed.encodeAll [[7], [8, 9]]) rpc ([[7]] ++ [[8, 9]] ++ Grpc.messagesOf []) cut
        waiting := by
  have client : ∃ downloads, replay Grpc.clientStep .opened
        [.arrive (.message [7]), .read .valid .valid, .arrive (.message [8, 9]),
          .read_into .valid ⟨.valid, 1, .valid⟩] =
          some (downloads, ⟨some ⟨.Pull .opened, some [8, 9]⟩, .unspawned⟩) ∧
      Grpc.delivered downloads = [[7]] ∧
      Grpc.messagesOf (Grpc.arrived downloads) = [[7], [8, 9]] := ⟨_, rfl, rfl, rfl⟩
  rcases client with ⟨downloads, replayed, given, arrivals⟩
  rcases exists_run_of_two_writes with ⟨trace, server, serving, drawn, written, polled⟩
  have documented : (Tonic.withLimit 4194304).Documented 4194304 :=
    Tonic.withLimit_documented (by decide)
  have short : ∀ msg ∈ writes 1 trace, msg.length < 2 ^ 32 := by
    rw [written]
    decide
  have reading : RunWhere Grpc.ReadsUnbuffered Grpc.clientStep .opened downloads
      ⟨some ⟨.Pull .opened, some [8, 9]⟩, .unspawned⟩ := by
    apply runWhere_of_replay replayed
    simp [Grpc.ReadsUnbuffered, Grpc.Reads]
  have part : uncompressed.encodeAll [[7], [8, 9]] <+: (dataFrames (frames 0 trace)).flatten := by
    rw [polled]
    exact List.prefix_rfl
  have carried : Grpc.messagesOf (Grpc.arrived downloads) <+:
      (Tonic.withLimit 4194304).response_messages (uncompressed.encodeAll [[7], [8, 9]]) := by
    rw [response_messages_of_two_writes, arrivals]
  rcases downloads_are_delivered_in_order documented serving drawn short reading part carried with
    ⟨rpc, inner, pending, cut, waiting, _, same, isBrought⟩
  cases same
  rw [given] at isBrought
  exact ⟨trace, server, downloads, _, rpc, cut, waiting, serving, reading, rfl, given, isBrought⟩

end Zpr.EndToEnd
