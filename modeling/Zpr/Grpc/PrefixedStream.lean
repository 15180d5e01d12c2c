import Zpr.Ffi

namespace Zpr.Grpc.Proxy

open Ffi

/-! # A stream with bytes in front of it

`PrefixedStream` reads what was read past the head of a response before it goes on with the
socket. -/

/-- One answer of `read` on a TCP stream: no bytes mean that the other side has closed. -/
inductive Chunk
  | bytes (chunk : Bytes)
  | failed (error : String)
  deriving DecidableEq, Repr

/-- How a TCP stream goes on behind its bytes. -/
inductive Ending
  | pending
  | closed
  | failed (error : String)
  deriving DecidableEq, Repr

/-- The answer of `poll_read`: the bytes put into the buffer, none at the end. -/
inductive ReadPoll
  | pending
  | ready (bytes : Bytes)
  | failed (error : String)
  deriving DecidableEq, Repr

def ReadPoll.bytes : ReadPoll → Bytes
  | .ready bytes => bytes
  | .pending | .failed _ => []

def Ending.poll : Ending → ReadPoll
  | .pending => .pending
  | .closed => .ready []
  | .failed error => .failed error

structure TcpStream where
  unread : Bytes
  ending : Ending
  deriving DecidableEq, Repr

namespace TcpStream

/-- The stream that is read as `chunks`. -/
def of : List Chunk → TcpStream
  | [] => { unread := [], ending := .pending }
  | .failed error :: _ => { unread := [], ending := .failed error }
  | .bytes chunk :: chunks =>
      if chunk = [] then { unread := [], ending := .closed }
      else { of chunks with unread := chunk ++ (of chunks).unread }

/-- One poll with `room` bytes left in the buffer, when `arrived` bytes are there or the end
is known. -/
def poll_read (stream : TcpStream) (arrived room : Nat) : TcpStream × ReadPoll :=
  if arrived = 0 then (stream, .pending)
  else if stream.unread = [] then (stream, stream.ending.poll)
  else
    let n := min arrived room
    ({ stream with unread := stream.unread.drop n }, .ready (stream.unread.take n))

end TcpStream

/-- A stream to a proxy, with the bytes that were read past the head of its response. -/
structure PrefixedStream where
  host : String
  port : Nat
  leftover : Bytes
  /-- how much of the leftover has been read -/
  prefix_pos : Nat
  inner : TcpStream
  bounded : prefix_pos ≤ leftover.length
  deriving Repr

namespace PrefixedStream

def poll_read (stream : PrefixedStream) (arrived room : Nat) : PrefixedStream × ReadPoll :=
  if stream.prefix_pos < stream.leftover.length then
    let remaining := stream.leftover.drop stream.prefix_pos
    let n := min remaining.length room
    ({ stream with
        prefix_pos := stream.prefix_pos + n
        bounded := by
          have within := stream.bounded
          have length : remaining.length = stream.leftover.length - stream.prefix_pos :=
            List.length_drop
          omega },
      .ready (remaining.take n))
  else
    let polled := stream.inner.poll_read arrived room
    ({ stream with inner := polled.1 }, polled.2)

/-- What is still to be read. -/
def unread (stream : PrefixedStream) : Bytes :=
  stream.leftover.drop stream.prefix_pos ++ stream.inner.unread

/-- A sequence of polls, each with what has arrived and the room there is. -/
def poll_reads (stream : PrefixedStream) : List (Nat × Nat) → PrefixedStream × List ReadPoll
  | [] => (stream, [])
  | (arrived, room) :: polls =>
      let polled := stream.poll_read arrived room
      let later := poll_reads polled.1 polls
      (later.1, polled.2 :: later.2)

end PrefixedStream

/-- The bytes that a sequence of polls has delivered. -/
def received (answers : List ReadPoll) : Bytes :=
  answers.flatMap ReadPoll.bytes

/-! ## Reading -/

namespace TcpStream

theorem poll_read_conserves (stream : TcpStream) (arrived room : Nat) :
    (stream.poll_read arrived room).2.bytes ++ (stream.poll_read arrived room).1.unread =
      stream.unread := by
  rw [poll_read]
  split_ifs with silent ended
  · rfl
  · cases ending : stream.ending <;> rfl
  · exact List.take_append_drop _ _

theorem poll_read_delivers {stream : TcpStream} {arrived room : Nat} (there : 0 < arrived)
    (space : 0 < room) (more : stream.unread ≠ []) :
    (stream.poll_read arrived room).2.bytes ≠ [] := by
  rw [poll_read, if_neg (Nat.ne_of_gt there), if_neg more]
  intro nothing
  rcases List.take_eq_nil_iff.mp nothing with none_taken | empty
  · omega
  · exact more empty

end TcpStream

namespace PrefixedStream

theorem poll_read_conserves (stream : PrefixedStream) (arrived room : Nat) :
    (stream.poll_read arrived room).2.bytes ++ (stream.poll_read arrived room).1.unread =
      stream.unread := by
  rw [poll_read]
  by_cases ahead : stream.prefix_pos < stream.leftover.length
  · rw [if_pos ahead]
    simp only [ReadPoll.bytes, unread]
    rw [← List.append_assoc, ← List.drop_drop, List.take_append_drop]
  · rw [if_neg ahead]
    have used : stream.leftover.drop stream.prefix_pos = [] :=
      List.drop_eq_nil_of_le (Nat.le_of_not_lt ahead)
    simp only [unread, used, List.nil_append]
    exact stream.inner.poll_read_conserves arrived room

theorem poll_read_delivers {stream : PrefixedStream} {arrived room : Nat} (there : 0 < arrived)
    (space : 0 < room) (more : stream.unread ≠ []) :
    (stream.poll_read arrived room).2.bytes ≠ [] := by
  rw [poll_read]
  by_cases ahead : stream.prefix_pos < stream.leftover.length
  · rw [if_pos ahead]
    intro nothing
    have length := congrArg List.length nothing
    simp only [ReadPoll.bytes, List.length_take, List.length_drop, List.length_nil] at length
    omega
  · rw [if_neg ahead]
    have used : stream.leftover.drop stream.prefix_pos = [] :=
      List.drop_eq_nil_of_le (Nat.le_of_not_lt ahead)
    rw [unread, used, List.nil_append] at more
    exact TcpStream.poll_read_delivers there space more

/-- A poll that found room and answered no bytes has found the end. -/
theorem unread_of_poll_read_nil {stream : PrefixedStream} {arrived room : Nat} (space : 0 < room)
    (ended : (stream.poll_read arrived room).2 = .ready []) : stream.unread = [] := by
  have there : 0 < arrived ∨ stream.unread = [] := by
    rw [poll_read] at ended
    by_cases ahead : stream.prefix_pos < stream.leftover.length
    · rw [if_pos ahead, ReadPoll.ready.injEq] at ended
      have length := congrArg List.length ended
      simp only [List.length_take, List.length_drop, List.length_nil] at length
      omega
    · rw [if_neg ahead] at ended
      left
      apply Nat.pos_of_ne_zero
      intro silent
      simp only [TcpStream.poll_read, silent, if_true] at ended
      cases ended
  rcases there with there | empty
  · apply Classical.byContradiction
    intro more
    have delivered := poll_read_delivers there space more
    rw [ended] at delivered
    exact delivered rfl
  · exact empty

theorem poll_reads_conserve (stream : PrefixedStream) (polls : List (Nat × Nat)) :
    received (stream.poll_reads polls).2 ++ (stream.poll_reads polls).1.unread =
      stream.unread := by
  induction polls generalizing stream with
  | nil => rfl
  | cons poll polls induction =>
      have step := stream.poll_read_conserves poll.1 poll.2
      have later := induction (stream.poll_read poll.1 poll.2).1
      rw [← step, ← later, ← List.append_assoc]
      rfl

/-- A poll for each of the bytes is enough where each of them is answered. -/
theorem poll_reads_complete (stream : PrefixedStream) (polls : List (Nat × Nat))
    (answered : ∀ poll ∈ polls, 0 < poll.1 ∧ 0 < poll.2)
    (enough : stream.unread.length ≤ polls.length) : (stream.poll_reads polls).1.unread = [] := by
  induction polls generalizing stream with
  | nil => exact List.eq_nil_of_length_eq_zero (Nat.le_zero.mp enough)
  | cons poll polls induction =>
      rcases answered poll List.mem_cons_self with ⟨there, space⟩
      apply induction
      · exact fun later member => answered later (List.mem_cons_of_mem _ member)
      · have step := congrArg List.length (stream.poll_read_conserves poll.1 poll.2)
        rw [List.length_append] at step
        rw [List.length_cons] at enough
        by_cases ended : stream.unread = []
        · rw [ended, List.length_nil] at step
          omega
        · have some_read := List.length_pos_of_ne_nil (poll_read_delivers there space ended)
          omega

/-- The reads of a stream come to `bytes`, whatever the sizes of the buffers and however the
bytes arrive. -/
structure Delivers (stream : PrefixedStream) (bytes : Bytes) : Prop where
  in_order : ∀ polls,
    received (stream.poll_reads polls).2 ++ (stream.poll_reads polls).1.unread = bytes
  complete : ∀ polls, (∀ poll ∈ polls, 0 < poll.1 ∧ 0 < poll.2) → bytes.length ≤ polls.length →
    received (stream.poll_reads polls).2 = bytes
  at_end : ∀ polls arrived room, 0 < room →
    ((stream.poll_reads polls).1.poll_read arrived room).2 = .ready [] →
      received (stream.poll_reads polls).2 = bytes

theorem delivers_unread (stream : PrefixedStream) : stream.Delivers stream.unread where
  in_order := stream.poll_reads_conserve
  complete := by
    intro polls answered enough
    have whole := stream.poll_reads_conserve polls
    rw [stream.poll_reads_complete polls answered enough, List.append_nil] at whole
    exact whole
  at_end := by
    intro polls arrived room space ended
    have whole := stream.poll_reads_conserve polls
    rw [unread_of_poll_read_nil space ended, List.append_nil] at whole
    exact whole

end PrefixedStream

end Zpr.Grpc.Proxy
