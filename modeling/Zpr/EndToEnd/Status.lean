import Mathlib
import Zpr.EndToEnd.Download
import Zpr.Grpc.EndsTold
import Zpr.GrpcServer.StatusMessage

namespace Zpr.EndToEnd

open Ffi GrpcServer

/-! # The status of a call, from host to host

The server's host completes a call with a status and a message, which go out as trailers
behind the messages. From the trailers tonic makes the answer that ends the stream of the
client. -/

@[ext] structure Status where
  code : Nat
  message : String
  deriving DecidableEq, Repr

/-- The codes that have a meaning; every other number stands for `Code::Unknown`. -/
def code_from_i32 (status : Int) : Nat :=
  if 0 ≤ status ∧ status ≤ 16 then status.toNat else 2

theorem code_from_i32_eq_zero : code_from_i32 status = 0 ↔ status = 0 := by
  rw [code_from_i32]
  split <;> omega

/-- What tonic makes of the trailers of a response. -/
structure TonicStatus where
  from_header_map : HeaderMap → Status

structure TonicStatus.Documented (tonic : TonicStatus) : Prop where
  code : ∀ (map : HeaderMap) (status : Int),
    map.lookup "grpc-status" = some (toString status) →
    (tonic.from_header_map map).code = code_from_i32 status
  message : ∀ (map : HeaderMap) (value text : String), map.lookup "grpc-message" = some value →
    PercentCoding.decode (as_bytes value) = as_bytes text →
    (tonic.from_header_map map).message = text
  noMessage : ∀ map : HeaderMap, map.lookup "grpc-message" = none →
    (tonic.from_header_map map).message = ""

/-! ## The trailers -/

/-- What the server's host says is what tonic understands. -/
theorem TonicStatus.Documented.from_trailers {tonic : TonicStatus} (documented : tonic.Documented)
    (status : Int) (message : String) :
    tonic.from_header_map (trailers status message) = ⟨code_from_i32 status, message⟩ := by
  have code := documented.code _ status (lookup_grpc_status status message)
  have text : (tonic.from_header_map (trailers status message)).message = message := by
    by_cases empty : message = ""
    · rw [trailers, trailersBy, if_pos empty, empty]
      exact documented.noMessage _ rfl
    · rw [trailers_message status empty]
      exact documented.message _ _ message rfl (decode_percent_encode_grpc_message message)
  exact Status.ext code text

/-! ## The wire -/

/-- How a response ends for the client: not yet, with a failure of the connection or of
tonic, or with trailers. -/
inductive WireEnd
  | unfinished
  | broken (error : String)
  | trailers (map : HeaderMap)
  deriving DecidableEq, Repr

def Status.incoming (status : Status) : Grpc.Incoming :=
  if status.code = 0 then .finished else .failed status.message

/-- The answer of `message` that is none. -/
def WireEnd.answers (tonic : TonicStatus) : WireEnd → List Grpc.Incoming
  | .unfinished => []
  | .broken error => [.failed error]
  | .trailers map => [(tonic.from_header_map map).incoming]

/-- What comes in is what has gone out: some of the bytes, and trailers only behind all of
them. -/
structure Conveyed (polled : List (Option Frame)) (brought : Bytes) (wireEnd : WireEnd) :
    Prop where
  part : brought <+: (dataFrames polled).flatten
  sent : ∀ map, wireEnd = .trailers map →
    some (.trailers map) ∈ polled ∧ brought = (dataFrames polled).flatten

/-- What tonic makes of it for `message`. -/
def Answers (tonic : Tonic) (statuses : TonicStatus) (brought : Bytes) (wireEnd : WireEnd)
    (arrived : List Grpc.Incoming) : Prop :=
  arrived <+: (tonic.response_messages brought).map .message ++ wireEnd.answers statuses

theorem end?_incoming (status : Status) :
    status.incoming.end? = some (if status.code = 0 then none else some status.message) := by
  rw [Status.incoming]
  split <;> rfl

/-- Trailers that have come in are those of the one completion of the call, and everything
that the server's host has written has come in before them. -/
theorem Conveyed.completed {tonic : Tonic} {map : HeaderMap} (documented : tonic.Documented limit)
    (serving : Run serverStep .start trace server) (drawn : server.idAt index = some call_id)
    (allowed : ∀ msg ∈ writes call_id trace, msg.length ≤ limit)
    (conveyed : Conveyed (frames index trace) brought (.trailers map)) :
    ∃ status message, removals call_id trace = [(status, message)] ∧
      map = trailers status message ∧ tonic.response_messages brought = writes call_id trace := by
  rcases conveyed.sent map rfl with ⟨sent, everything⟩
  rcases (explained_of_run serving).history_of_drawn drawn with ⟨rpc, _, history⟩
  rcases history.isPrefix with ⟨polls, isPrefix⟩
  rcases trailers_of_mem (isPrefix.subset sent) with ⟨⟨status, message⟩, removed, rfl⟩
  refine ⟨status, message, ?_, rfl, ?_⟩
  · have atMostOne := history.removals_length_le
    rcases List.mem_iff_append.mp removed with ⟨before, after, split⟩
    rw [split, List.length_append, List.length_cons] at atMostOne
    have first : before = [] := List.length_eq_zero_iff.mp (by omega)
    have last : after = [] := List.length_eq_zero_iff.mp (by omega)
    rw [split, first, last]
    rfl
  · rw [everything, all_shown_of_trailers isPrefix sent]
    exact documented.response_messages_all allowed

/-- However the two hosts, the two transports and the network go about it, the first end
that the client's host is told of is a failure of the connection, or comes from the one
completion of the call: a clean end if its status was 0, or else a failure with its
message. In the latter case the client's host has been given every message that the
server's host has written. -/
theorem clients_are_told_how_the_host_ended {tonic : Tonic} {statuses : TonicStatus}
    (documented : tonic.Documented limit) (understood : statuses.Documented)
    (serving : Run serverStep .start trace server) (drawn : server.idAt index = some call_id)
    (allowed : ∀ msg ∈ writes call_id trace, msg.length ≤ limit)
    (reading : RunWhere Grpc.ReadsOffWire Grpc.clientStep .opened downloads client)
    (conveyed : Conveyed (frames index trace) brought wireEnd)
    (answers : Answers tonic statuses brought wireEnd (Grpc.arrived downloads))
    (isTold : (Grpc.told downloads).head? = some ending) :
    (∃ error, wireEnd = .broken error ∧ ending = some error) ∨
      ∃ status message, removals call_id trace = [(status, message)] ∧
        Grpc.delivered downloads = writes call_id trace ∧
        ending = if status = 0 then none else some message := by
  rcases Grpc.accounts_of_run reading with ⟨inner, pending, consumed, rfl, accounts⟩
  unfold Answers at answers
  cases wireEnd with
  | unfinished =>
      rw [WireEnd.answers, List.append_nil] at answers
      rw [accounts.none_told answers] at isTold
      cases isTold
  | broken error =>
      have isEnd : (Grpc.Incoming.failed error).end? = some (some error) := rfl
      rcases accounts.complete answers isEnd isTold with ⟨same, _⟩
      exact .inl ⟨error, rfl, same⟩
  | trailers map =>
      rcases conveyed.completed documented serving drawn allowed with
        ⟨status, message, once, rfl, whole⟩
      rw [whole, WireEnd.answers, understood.from_trailers] at answers
      have isEnd := end?_incoming ⟨code_from_i32 status, message⟩
      rcases accounts.complete answers isEnd isTold with ⟨same, all⟩
      refine .inr ⟨status, message, once, all, ?_⟩
      rw [same]
      simp only [code_from_i32_eq_zero]

/-- tonic's reading of trailers, for as far as it is documented. -/
def TonicStatus.reading : TonicStatus where
  from_header_map map :=
    { code := ((map.lookup "grpc-status").bind String.toInt?).elim 2 code_from_i32
      message := (map.lookup "grpc-message").elim "" fun value =>
        (String.fromUTF8? ⟨(PercentCoding.decode (as_bytes value)).toArray⟩).getD "" }

theorem TonicStatus.reading_documented : TonicStatus.reading.Documented := by
  constructor
  · intro map status found
    have number : (toString status).toInt? = some status := Int.toInt?_repr status
    simp only [reading, found, Option.bind_some, number, Option.elim_some]
  · intro map value text found decoded
    have valid := fromUTF8_cstr text
    rw [← as_bytes_eq_cstr, ← decoded] at valid
    simp only [reading, found, Option.elim_some, valid, Option.getD_some]
  · intro map absent
    simp only [reading, absent, Option.elim_none]

/-- All of the response has come in. -/
theorem conveyed_of_two_writes {polled : List (Option Frame)}
    (isPolled : polled =
      [shown [7], shown [8, 9], some (.trailers [("grpc-status", "0")])]) :
    Conveyed polled (uncompressed.encodeAll [[7], [8, 9]]) (.trailers (trailers 0 "")) := by
  rw [isPolled]
  constructor
  · exact List.prefix_rfl
  · intro map same
    cases same
    exact ⟨by decide, rfl⟩

theorem clients_are_told_how_the_host_ended_for_two_writes : ∃ trace server downloads client,
    Run serverStep .start trace server ∧
      RunWhere Grpc.ReadsOffWire Grpc.clientStep .opened downloads client ∧
      Grpc.told downloads = [none] ∧
      ∃ status message, removals 1 trace = [(status, message)] ∧
        Grpc.delivered downloads = writes 1 trace ∧
        none = if status = 0 then none else some message := by
  have client : ∃ downloads client, replay Grpc.clientStep .opened
        [.arrive (.message [7]), .read .valid .valid, .arrive (.message [8, 9]),
          .arrive .finished, .read_into .valid ⟨.valid, 1, .valid⟩, .read .valid .valid,
          .read .valid .valid] = some (downloads, client) ∧
      Grpc.told downloads = [none] ∧
      Grpc.arrived downloads = [.message [7], .message [8, 9], .finished] :=
    ⟨_, _, rfl, rfl, rfl⟩
  rcases client with ⟨downloads, client, replayed, isTold, arrivals⟩
  rcases exists_run_of_two_writes with ⟨trace, server, serving, drawn, written, polled⟩
  have documented : (Tonic.withLimit 4194304).Documented 4194304 :=
    Tonic.withLimit_documented (by decide)
  have allowed : ∀ msg ∈ writes 1 trace, msg.length ≤ 4194304 := by
    rw [written]
    decide
  have reading : RunWhere Grpc.ReadsOffWire Grpc.clientStep .opened downloads client := by
    apply runWhere_of_replay replayed
    simp [Grpc.ReadsOffWire, Grpc.ReadsUnbuffered, Grpc.Reads]
  have status := TonicStatus.reading_documented.from_trailers 0 ""
  have conveyed := conveyed_of_two_writes polled
  have answers : Answers (Tonic.withLimit 4194304) .reading (uncompressed.encodeAll [[7], [8, 9]])
      (.trailers (trailers 0 "")) (Grpc.arrived downloads) := by
    rw [Answers, response_messages_of_two_writes, WireEnd.answers, status, arrivals]
    exact List.prefix_rfl
  rcases clients_are_told_how_the_host_ended documented TonicStatus.reading_documented serving drawn
    allowed reading conveyed answers (by rw [isTold]; rfl) with ⟨_, same, _⟩ | known
  · cases same
  · exact ⟨trace, server, downloads, client, serving, reading, isTold, known⟩

end Zpr.EndToEnd
