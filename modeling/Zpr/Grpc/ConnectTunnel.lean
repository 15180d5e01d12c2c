import Zpr.Foundation.Delimiter
import Zpr.Grpc.Proxy

namespace Zpr.Grpc.Proxy

open Ffi Delimiter

/-! # The tunnel

`connect_via_http_proxy` reads the head of the proxy's response in pieces and hands the
stream over with what it has read too much. -/

/-! ## The head of the response -/

/-- What ends the head: `\r\n\r\n`. -/
def blankLine : Bytes := [13, 10, 13, 10]

theorem headEnd_eq (buf : Bytes) : headEnd buf = find blankLine buf := rfl

theorem headEnd_eq_some_iff {buf : Bytes} {pos : Nat} :
    headEnd buf = some pos ↔ EndsAt blankLine buf (pos + 4) := by
  rw [headEnd_eq]
  exact find_eq_some_iff

theorem headEnd_eq_none_iff {buf : Bytes} :
    headEnd buf = none ↔ ∀ stop, ¬ EndsAt blankLine buf stop := by
  rw [headEnd_eq]
  exact find_eq_none_iff

/-- However the stream is cut into reads, the loop stops behind the read that completes the
head, and nothing of the stream is lost. -/
theorem readHead_of_endsAt {chunks : List Chunk} {buf : Bytes} {stop : Nat}
    (head : EndsAt blankLine (buf ++ (TcpStream.of chunks).unread) stop)
    (small : stop ≤ 16 * 1024) (short : buf.length < stop) :
    ∃ read rest, readHead buf chunks = some (.ok (buf ++ read, stop, rest)) ∧
      stop ≤ (buf ++ read).length ∧
      (TcpStream.of chunks).unread = read ++ (TcpStream.of rest).unread := by
  induction chunks generalizing buf with
  | nil =>
      have within := head.within
      simp only [TcpStream.of, List.append_nil] at within
      omega
  | cons chunk chunks induction =>
      cases chunk with
      | failed e =>
          have within := head.within
          simp only [TcpStream.of, List.append_nil] at within
          omega
      | bytes chunk =>
          rw [readHead]
          by_cases closed : chunk = []
          · have within := head.within
            simp only [TcpStream.of, closed, if_true, List.append_nil] at within
            omega
          · have whole : (TcpStream.of (.bytes chunk :: chunks)).unread =
                chunk ++ (TcpStream.of chunks).unread := by
              rw [TcpStream.of, if_neg closed]
            rw [whole, ← List.append_assoc] at head
            rw [if_neg closed, whole]
            cases found : headEnd (buf ++ chunk) with
            | some pos =>
                have here := headEnd_eq_some_iff.mp found
                have same : pos + 4 = stop := here.append.unique head
                exact ⟨chunk, chunks, by simp only [same], same ▸ here.within, rfl⟩
            | none =>
                have later : (buf ++ chunk).length < stop := by
                  apply Nat.lt_of_not_le
                  intro reached
                  exact headEnd_eq_none_iff.mp found stop (head.of_append reached)
                have continues : ¬ (buf ++ chunk).length > 16 * 1024 := by omega
                rcases induction head later with ⟨read, rest, loop, reached, unread⟩
                simp only [if_neg continues]
                refine ⟨chunk ++ read, rest, ?_, ?_, ?_⟩
                · rw [loop, List.append_assoc]
                · rw [← List.append_assoc]
                  exact reached
                · rw [unread, List.append_assoc]

/-- A stream that ends before there is a blank line opens no tunnel. -/
theorem readHead_of_ended {chunks : List Chunk} {buf : Bytes}
    (unmarked : ∀ stop, ¬ EndsAt blankLine (buf ++ (TcpStream.of chunks).unread) stop)
    (ended : (TcpStream.of chunks).ending ≠ .pending) :
    ∃ e, readHead buf chunks = some (.error e) := by
  induction chunks generalizing buf with
  | nil => exact absurd rfl ended
  | cons chunk chunks induction =>
      cases chunk with
      | failed e => exact ⟨e, rfl⟩
      | bytes chunk =>
          rw [readHead]
          by_cases closed : chunk = []
          · rw [if_pos closed]
            exact ⟨_, rfl⟩
          · rw [TcpStream.of, if_neg closed] at ended
            rw [TcpStream.of, if_neg closed, ← List.append_assoc] at unmarked
            rw [if_neg closed]
            have missing : headEnd (buf ++ chunk) = none :=
              headEnd_eq_none_iff.mpr fun stop here => unmarked stop here.append
            rw [missing]
            by_cases large : (buf ++ chunk).length > 16 * 1024
            · simp only [large, if_true]
              exact ⟨_, rfl⟩
            · simp only [large, if_false]
              exact induction unmarked ended

/-! ## The first line

A line break is one byte, and no byte of a longer character. -/

theorem followers_high {first : UInt8} {ranges : List (Nat × Nat)}
    (found : followers first = some ranges) : ∀ range ∈ ranges, 128 ≤ range.1 := by
  rw [followers] at found
  split_ifs at found <;> cases found <;> decide

theorem following_newline {ranges : List (Nat × Nat)} (high : ∀ range ∈ ranges, 128 ≤ range.1)
    (rest later : Bytes) : following ranges (rest ++ 10 :: later) = following ranges rest := by
  induction ranges generalizing rest with
  | nil => rfl
  | cons range ranges induction =>
      cases rest with
      | nil =>
          have low : ¬ (range.1 ≤ (10 : UInt8).toNat ∧ (10 : UInt8).toNat ≤ range.2) := by
            rintro ⟨reached, _⟩
            have above := high range List.mem_cons_self
            exact absurd (Nat.le_trans above reached) (by decide)
          exact if_neg low
      | cons byte rest =>
          have rests := induction (fun range member => high range (List.mem_cons_of_mem _ member)) rest
          change (if range.1 ≤ byte.toNat ∧ byte.toNat ≤ range.2 then
            following ranges (rest ++ 10 :: later) + 1 else 0) = _
          rw [rests]
          rfl

theorem following_le (ranges : List (Nat × Nat)) (rest : Bytes) :
    following ranges rest ≤ rest.length := by
  induction ranges generalizing rest with
  | nil => exact Nat.zero_le _
  | cons range ranges induction =>
      cases rest with
      | nil => exact Nat.zero_le _
      | cons byte rest =>
          have bound := induction rest
          rw [following, List.length_cons]
          split
          · omega
          · exact Nat.zero_le _

/-- The text in front of a line break does not depend on what follows it. -/
theorem from_utf8_lossy_newline (line later : Bytes) {skip : Nat} (within : skip ≤ line.length) :
    from_utf8_lossy skip (line ++ 10 :: later) =
      from_utf8_lossy skip line ++ '\n' :: from_utf8_lossy 0 later := by
  induction line generalizing skip with
  | nil =>
      have none_left : skip = 0 := Nat.le_zero.mp within
      rw [none_left]
      rfl
  | cons first rest induction =>
      cases skip with
      | succ skip => exact induction (Nat.le_of_succ_le_succ within)
      | zero =>
          rw [List.cons_append, from_utf8_lossy, from_utf8_lossy]
          cases found : followers first with
          | none =>
              simp only [List.cons_append]
              rw [induction (Nat.zero_le _)]
          | some ranges =>
              have same := following_newline (followers_high found) rest later
              have bound := following_le ranges rest
              simp only [same]
              split
              · rw [List.take_append_of_le_length bound, induction bound, List.cons_append]
              · rw [induction bound, List.cons_append]

theorem takeWhile_newline (line : List Char) (later : List Char) :
    (line ++ '\n' :: later).takeWhile (· ≠ '\n') = line.takeWhile (· ≠ '\n') := by
  induction line with
  | nil => rfl
  | cons c line induction =>
      rw [List.cons_append, List.takeWhile_cons, List.takeWhile_cons, induction]

/-- The first line of a head is the first line of the whole stream. -/
theorem firstLine_of_endsAt {head : Bytes} {stop : Nat} (ends : EndsAt blankLine head stop)
    (later : Bytes) :
    firstLine (from_utf8_lossy 0 (head.take stop)) =
      firstLine (from_utf8_lossy 0 (head ++ later)) := by
  rcases ends.marked with ⟨line, marked⟩
  have lines : ∀ behind, (from_utf8_lossy 0 (line ++ blankLine ++ behind)).takeWhile (· ≠ '\n') =
      (from_utf8_lossy 0 (line ++ [13])).takeWhile (· ≠ '\n') := by
    intro behind
    have split : line ++ blankLine ++ behind = (line ++ [13]) ++ 10 :: ([13, 10] ++ behind) := by
      simp [blankLine]
    rw [split, from_utf8_lossy_newline _ _ (Nat.zero_le _), takeWhile_newline]
  have whole : head ++ later = line ++ blankLine ++ (head.drop stop ++ later) := by
    rw [marked, ← List.append_assoc, List.take_append_drop]
  have short : head.take stop = line ++ blankLine ++ [] := by
    rw [marked, List.append_nil]
  simp only [firstLine, whole, short, lines]

/-! ## The whole -/

/-- The proxy is reached, and is read as `chunks` once it has the request. -/
def Answers (network : Network) (target proxy : Uri) (chunks : List Chunk) : Prop :=
  ∃ proxy_host authority, proxy.host = some proxy_host ∧
    network.tcp_connect proxy_host (proxyPort proxy) = .ok () ∧
    target.authority = some authority ∧
    network.exchange proxy_host (proxyPort proxy) (connect_request authority) = .ok chunks

section

variable {network : Network} {target proxy : Uri} {chunks : List Chunk}

/-- What the tunnel makes of the head it has read. -/
theorem connect_via_http_proxy_of_answers (answers : Answers network target proxy chunks) :
    ∃ proxy_host, (connect_via_http_proxy network target proxy).stream =
      (readHead [] chunks).map fun head => head.bind fun found =>
        if accepts (firstLine (from_utf8_lossy 0 (found.1.take found.2.1))) then
          .ok { host := proxy_host, port := proxyPort proxy
                leftover := found.1.drop found.2.1, prefix_pos := 0
                inner := .of found.2.2, bounded := Nat.zero_le _ }
        else
          .error ("proxy CONNECT failed: " ++
            String.ofList (firstLine (from_utf8_lossy 0 (found.1.take found.2.1)))) := by
  rcases answers with ⟨proxy_host, authority, host, connected, named, exchanged⟩
  apply Exists.intro proxy_host
  simp only [connect_via_http_proxy, host, connected, named, exchanged]
  rfl

/-- The tunnel is open exactly if the first line says so, and hands over what is behind the
head. -/
theorem connect_via_http_proxy_of_endsAt (answers : Answers network target proxy chunks) {stop : Nat}
    (head : EndsAt blankLine (TcpStream.of chunks).unread stop) (small : stop ≤ 16 * 1024) :
    let status_line := firstLine (from_utf8_lossy 0 (TcpStream.of chunks).unread)
    if accepts status_line then
      ∃ stream, (connect_via_http_proxy network target proxy).stream = some (.ok stream) ∧
        stream.unread = (TcpStream.of chunks).unread.drop stop
    else
      ∃ e, (connect_via_http_proxy network target proxy).stream = some (.error e) := by
  have positive : 0 < stop := Nat.lt_of_lt_of_le (by decide) head.le_stop
  have unbuffered : EndsAt blankLine ([] ++ (TcpStream.of chunks).unread) stop := head
  rcases readHead_of_endsAt unbuffered small positive with
    ⟨read, rest, loop, reached, whole⟩
  rcases connect_via_http_proxy_of_answers answers with ⟨proxy_host, opened⟩
  rw [List.nil_append] at loop reached
  have ends : EndsAt blankLine read stop := by
    rw [whole] at head
    exact head.of_append reached
  have line := firstLine_of_endsAt ends (TcpStream.of rest).unread
  rw [loop] at opened
  simp only [Option.map_some, Except.bind, line, ← whole] at opened
  intro status_line
  split
  · rename_i accepted
    rw [if_pos accepted] at opened
    refine ⟨_, opened, ?_⟩
    rw [whole, List.drop_append_of_le_length reached]
    rfl
  · rename_i refused
    rw [if_neg refused] at opened
    exact ⟨_, opened⟩

end

/-- The proxy's answer `chunks`, however it is cut into reads, is taken apart where its head
ends. -/
structure HandsOver (network : Network) (target proxy : Uri) (chunks : List Chunk) : Prop where
  succeeds_iff : ∀ stop ≤ 16 * 1024, EndsAt blankLine (TcpStream.of chunks).unread stop →
    ((∃ stream, (connect_via_http_proxy network target proxy).stream = some (.ok stream)) ↔
      (split_whitespace (firstLine (from_utf8_lossy 0 (TcpStream.of chunks).unread)))[1]? =
        some ['2', '0', '0'])
  behind_head : ∀ stop ≤ 16 * 1024, EndsAt blankLine (TcpStream.of chunks).unread stop →
    ∀ stream, (connect_via_http_proxy network target proxy).stream = some (.ok stream) →
      stream.Delivers ((TcpStream.of chunks).unread.drop stop)
  without_head : (∀ stop, ¬ EndsAt blankLine (TcpStream.of chunks).unread stop) →
    (TcpStream.of chunks).ending ≠ .pending →
      ∃ e, (connect_via_http_proxy network target proxy).stream = some (.error e)

/-- The tunnel hands over exactly what is behind the head of the response. -/
theorem connect_via_http_proxy_hands_over (network : Network) (target proxy : Uri)
    (chunks : List Chunk) (answers : Answers network target proxy chunks) :
    HandsOver network target proxy chunks := by
  constructor
  · intro stop small head
    have opened := connect_via_http_proxy_of_endsAt answers head small
    dsimp only at opened
    split at opened
    · rename_i accepted
      rcases opened with ⟨stream, found, _⟩
      exact ⟨fun _ => accepted, fun _ => ⟨stream, found⟩⟩
    · rename_i refused
      rcases opened with ⟨e, failed⟩
      constructor
      · rintro ⟨stream, found⟩
        rw [failed] at found
        cases found
      · intro accepted
        exact absurd accepted refused
  · intro stop small head stream found
    have opened := connect_via_http_proxy_of_endsAt answers head small
    dsimp only at opened
    split at opened
    · rcases opened with ⟨again, same, unread⟩
      rw [found] at same
      cases same
      rw [← unread]
      exact stream.delivers_unread
    · rcases opened with ⟨e, failed⟩
      rw [found] at failed
      cases failed
  · intro unmarked ended
    rcases connect_via_http_proxy_of_answers answers with ⟨proxy_host, opened⟩
    have unbuffered : ∀ stop, ¬ EndsAt blankLine ([] ++ (TcpStream.of chunks).unread) stop :=
      unmarked
    rcases readHead_of_ended unbuffered ended with ⟨e, loop⟩
    rw [loop] at opened
    rw [opened]
    exact ⟨e, rfl⟩

/-- A response whose head ends inside a read, with two bytes of the tunnel behind it. -/
def openedInTwoReads : List Chunk :=
  [.bytes [49, 32, 50, 48, 48, 13], .bytes [10, 13, 10, 7, 8]]

theorem hands_over_bytes_behind_head : ∃ network target proxy stream,
    (connect_via_http_proxy network target proxy).stream = some (.ok stream) ∧
      stream.Delivers [7, 8] := by
  let uri : Uri := ⟨some "http", some "localhost:50051", some "localhost", some 50051⟩
  let network : Network :=
    { from_shared := fun _ => .ok (), connect := fun _ => .ok (), tcp_connect := fun _ _ => .ok ()
      exchange := fun _ _ _ => .ok openedInTwoReads, handshake := fun _ => .ok (),
      debug := String.quote }
  have answers : Answers network uri uri openedInTwoReads :=
    ⟨"localhost", "localhost:50051", rfl, rfl, rfl, rfl⟩
  have hands_over := connect_via_http_proxy_hands_over network uri uri openedInTwoReads answers
  have head : EndsAt blankLine (TcpStream.of openedInTwoReads).unread 9 :=
    headEnd_eq_some_iff.mp (show headEnd _ = some 5 by decide)
  have accepted : (split_whitespace (firstLine
      (from_utf8_lossy 0 (TcpStream.of openedInTwoReads).unread)))[1]? =
        some ['2', '0', '0'] := by decide
  have succeeds := (hands_over.succeeds_iff 9 (by decide) head).mpr accepted
  rcases succeeds with ⟨stream, found⟩
  exact ⟨network, uri, uri, stream, found, hands_over.behind_head 9 (by decide) head stream found⟩

end Zpr.Grpc.Proxy
