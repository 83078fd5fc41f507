import GuestSupervisor.Proofs.Monitor.Pieces
import Mathlib.Algebra.Order.BigOperators.Group.List
import Mathlib.Data.Stream.Init

/-!
# A reply without end

A monitor may write and never come to a prompt.  The reader does not trust it: each piece is at most
so long, and behind each the reader asks for another one only while there is not too much.  So it
stops reading any stream, and keeps no more than the limit and one piece.  It gives up exactly if a
beginning of the stream is too long and no prompt was seen up to there; a prompt that comes with the
very piece that is too much is still accepted.

## Main Definitions

* `Awaits` — the reader asks for more behind these pieces.
* `IsRead` — what one reading from a socket gives.
* `Overruns` — the beginning of a stream for which the reader gives up.

## Main Statements

* `readUntilPrompt_of_ending` — a stream that ends.
* `readUntilPrompt_of_endless` — a stream that does not.
* `readUntilPrompt_bounded` — either, and how much is kept.
-/

namespace GuestSupervisor.Monitor

open Text

variable {read front pieces : List (List UInt8)}

/-! ## Asking for more -/

/-- **The reader asks for more behind these pieces**: it waits for a peer who has sent them and
nothing else so far. -/
def Awaits (read : List (List UInt8)) : Prop :=
  (Incoming.readUntilPrompt ⟨read, .silent⟩).1 = .waiting

theorem stopped_ne_waiting (bytes : List UInt8) : stopped bytes ≠ .waiting := by
  unfold stopped
  split <;> simp

/-- The reader asks for more if reading goes on behind each piece. -/
theorem awaits_iff : Awaits read ↔ ∀ front, front <+: read → GoesOn front.flatten := by
  constructor
  · intro awaits
    rcases Incoming.readUntilPrompt_cases ⟨read, .silent⟩ with ⟨all, -⟩ | ⟨_, _, -, -, -, ends⟩
    · exact all
    · rw [Awaits, ends] at awaits
      exact absurd awaits (stopped_ne_waiting _)
  · intro goesOn
    rw [Awaits, readUntilPrompt_silent goesOn]

/-- Where reading does not stop earlier, the reader asks for each piece. -/
theorem awaits_of_goesOn (before : ∀ front, front <+: read → front ≠ read → GoesOn front.flatten) :
    ∀ earlier, earlier <+: read → earlier ≠ read → Awaits earlier := by
  intro earlier fore other
  refine awaits_iff.mpr fun front ahead => before front (ahead.trans fore) ?_
  rintro rfl
  exact other (fore.eq_of_length_le ahead.length_le)

/-- **The reader asks for more only while there is not too much.** -/
theorem length_le_of_awaits (awaits : Awaits read) : read.flatten.length ≤ replyLimit :=
  (awaits_iff.mp awaits read List.prefix_rfl).2

/-- **What one reading from a socket gives**: at least one byte, since none is the end of the
stream, and no more than fit into a piece. -/
structure IsRead (piece : List UInt8) : Prop where
  nonempty : piece ≠ []
  short : piece.length ≤ pieceSize

/-- **There is never more than the limit and one piece**, if the reader asked for each piece. -/
theorem length_flatten_le (isRead : ∀ piece ∈ read, IsRead piece)
    (asked : ∀ earlier, earlier <+: read → earlier ≠ read → Awaits earlier) :
    read.flatten.length ≤ replyLimit + pieceSize := by
  rcases List.eq_nil_or_concat read with rfl | ⟨earlier, last, rfl⟩
  · exact Nat.zero_le _
  · rw [List.concat_eq_append] at isRead asked ⊢
    have before : earlier.flatten.length ≤ replyLimit :=
      length_le_of_awaits (asked earlier (List.prefix_append _ _) (by simp))
    have piece : last.length ≤ pieceSize := (isRead last (by simp)).short
    rw [List.flatten_append, List.length_append, List.flatten_singleton]
    exact Nat.add_le_add before piece

/-! ## Giving up -/

/-- **The beginning of a stream for which the reader gives up**: it is too long and does not end in
the prompt, and neither does any shorter beginning. -/
structure Overruns (read : List (List UInt8)) : Prop where
  long : replyLimit < read.flatten.length
  unprompted : ¬ EndsInPrompt read.flatten
  shorter : ∀ front, front <+: read → front ≠ read → ¬ EndsInPrompt front.flatten

theorem Overruns.not_awaits (overruns : Overruns read) : ¬ Awaits read := fun awaits =>
  absurd overruns.long (Nat.not_lt.mpr (length_le_of_awaits awaits))

theorem stopped_eq_failed_iff {bytes : List UInt8} :
    stopped bytes = .failed .replyTooLong ↔ ¬ EndsInPrompt bytes := by
  rw [← beforePrompt?_eq_none_iff, stopped]
  cases beforePrompt? bytes <;> simp

/-- **The reader gives up where it stops** exactly if some beginning of the stream is too long, with
no prompt up to there. -/
theorem stopped_eq_failed_iff_exists (Begins : List (List UInt8) → Prop) (begins : Begins read)
    (ordered : ∀ front, Begins front → front <+: read ∨ read <+: front)
    (stops : ¬ GoesOn read.flatten)
    (asked : ∀ earlier, earlier <+: read → earlier ≠ read → Awaits earlier) :
    stopped read.flatten = .failed .replyTooLong ↔ ∃ front, Begins front ∧ Overruns front := by
  rw [stopped_eq_failed_iff]
  constructor
  · intro unprompted
    refine ⟨read, begins, ?_, unprompted, fun front fore other => ?_⟩
    · rw [goesOn_iff] at stops
      exact Nat.not_le.mp fun short => stops ⟨unprompted, short⟩
    · exact (goesOn_iff.mp (awaits_iff.mp (asked front fore other) front List.prefix_rfl)).1
  · rintro ⟨front, begins, overruns⟩
    by_cases same : front = read
    · exact same ▸ overruns.unprompted
    · rcases ordered front begins with fore | behind
      · -- Behind less than what was read the reader asked for more.
        exact absurd (asked front fore same) overruns.not_awaits
      · exact overruns.shorter read behind (Ne.symm same)

/-! ## Streams that end -/

/-- **Reading a stream that ends.** -/
theorem readUntilPrompt_of_ending {incoming : Incoming}
    (isRead : ∀ piece ∈ incoming.pieces, IsRead piece) :
    ∃ read left result, incoming.pieces = read ++ left ∧
      incoming.readUntilPrompt = (result, ⟨left, incoming.ending⟩) ∧
      (∀ earlier, earlier <+: read → earlier ≠ read → Awaits earlier) ∧
      read.flatten.length ≤ replyLimit + pieceSize ∧
      (incoming.ending ≠ .failed .replyTooLong →
        (result = .failed .replyTooLong ↔
          ∃ front, front <+: incoming.pieces ∧ Overruns front)) := by
  rcases incoming.readUntilPrompt_cases with ⟨all, ends⟩ | ⟨read, left, split, stops, before, ends⟩
  · have asked (earlier : List (List UInt8)) (fore : earlier <+: incoming.pieces) :
        Awaits earlier := awaits_iff.mpr fun front ahead => all front (ahead.trans fore)
    refine ⟨incoming.pieces, [], _, (List.append_nil _).symm, ends, fun earlier fore _ =>
      asked earlier fore, length_flatten_le isRead fun earlier fore _ => asked earlier fore,
      fun other => ⟨fun failed => absurd ?_ other, ?_⟩⟩
    · cases ending : incoming.ending with
      | closed | silent => simp [ending, Ending.result] at failed
      | failed failure => simpa [ending, Ending.result] using failed
    · rintro ⟨front, fore, overruns⟩
      exact absurd (asked front fore) overruns.not_awaits
  · have asked := awaits_of_goesOn before
    have begins : read <+: incoming.pieces := ⟨left, split.symm⟩
    refine ⟨read, left, _, split, ends, asked, length_flatten_le (fun piece member => isRead piece
      (begins.subset member)) asked, fun _ => ?_⟩
    exact stopped_eq_failed_iff_exists (· <+: incoming.pieces) begins
      (fun front fore => List.prefix_or_prefix_of_prefix fore begins) stops asked

/-! ## Streams without end -/

variable {stream : Stream' (List UInt8)}

theorem take_prefix_take {n m : Nat} (le : n ≤ m) : stream.take n <+: stream.take m := by
  rw [← Nat.min_eq_right le, ← Stream'.take_take]
  exact List.take_prefix _ _

/-- What comes first in a beginning of a stream is a beginning of the stream. -/
theorem eq_take_of_prefix {n : Nat} (fore : front <+: stream.take n) :
    front = stream.take front.length := by
  have short : front.length ≤ n := by simpa using fore.length_le
  rw [List.prefix_iff_eq_take.mp fore, Stream'.take_take, Stream'.length_take,
    Nat.min_eq_right short]

/-- Pieces have at least as many bytes as there are pieces. -/
theorem length_le_length_flatten (isRead : ∀ piece ∈ pieces, IsRead piece) :
    pieces.length ≤ pieces.flatten.length := by
  have lengths : (pieces.map List.length).length ≤ (pieces.map List.length).sum := by
    refine List.length_le_sum_of_one_le _ fun count member => ?_
    obtain ⟨piece, inside, rfl⟩ := List.mem_map.mp member
    exact List.length_pos_iff.mpr (isRead piece inside).nonempty
  rwa [List.length_map, ← List.length_flatten] at lengths

theorem isRead_of_mem_take (isRead : ∀ n, IsRead (stream.get n)) {n : Nat} :
    ∀ piece ∈ stream.take n, IsRead piece := by
  induction n with
  | zero => simp
  | succ n ih =>
    rw [Stream'.take_succ']
    intro piece member
    rcases List.mem_append.mp member with before | last
    · exact ih piece before
    · rw [List.mem_singleton.mp last]
      exact isRead n

/-- **Reading a stream without end.**  The reader stops, whatever is still to come. -/
theorem readUntilPrompt_of_endless (isRead : ∀ n, IsRead (stream.get n)) :
    ∃ count result, (∀ earlier < count, Awaits (stream.take earlier)) ∧
      ¬ Awaits (stream.take count) ∧
      (stream.take count).flatten.length ≤ replyLimit + pieceSize ∧
      (∀ later ending, Incoming.readUntilPrompt ⟨stream.take count ++ later, ending⟩
        = (result, ⟨later, ending⟩)) ∧
      (result = .failed .replyTooLong ↔ ∃ n, Overruns (stream.take n)) := by
  have many : replyLimit < (stream.take (replyLimit + 1)).flatten.length := by
    have enough := length_le_length_flatten (isRead_of_mem_take isRead (n := replyLimit + 1))
    rwa [Stream'.length_take] at enough
  rcases Incoming.readUntilPrompt_cases ⟨stream.take (replyLimit + 1), .silent⟩ with
    ⟨all, -⟩ | ⟨read, left, split, stops, before, -⟩
  · exact absurd (all _ List.prefix_rfl).2 (Nat.not_le.mpr many)
  · have taken : read = stream.take read.length :=
      eq_take_of_prefix (n := replyLimit + 1) ⟨left, split.symm⟩
    have asked := awaits_of_goesOn before
    have begins : ∃ n, read = stream.take n := ⟨_, taken⟩
    have ordered : ∀ front, (∃ n, front = stream.take n) → front <+: read ∨ read <+: front := by
      rintro _ ⟨n, rfl⟩
      rw [taken]
      exact (Nat.le_total n read.length).imp take_prefix_take take_prefix_take
    have givesUp := stopped_eq_failed_iff_exists (fun front => ∃ n, front = stream.take n)
      begins ordered stops asked
    refine ⟨read.length, stopped read.flatten, fun earlier less => ?_, ?_, ?_, ?_, ?_⟩
    · refine asked _ ?_ fun same => ?_
      · rw [taken]
        exact take_prefix_take less.le
      · have length := congrArg List.length same
        rw [Stream'.length_take] at length
        exact absurd length less.ne
    · rw [← taken]
      exact fun awaits => stops (awaits_iff.mp awaits read List.prefix_rfl)
    · rw [← taken]
      exact length_flatten_le (taken ▸ isRead_of_mem_take isRead) asked
    · rw [← taken]
      exact readUntilPrompt_append stops before
    · rw [givesUp]
      constructor
      · rintro ⟨_, ⟨n, rfl⟩, overruns⟩
        exact ⟨n, overruns⟩
      · rintro ⟨n, overruns⟩
        exact ⟨_, ⟨n, rfl⟩, overruns⟩

/-- **Reading stops and is bounded**, on a stream that ends and on one that does not.  The reader
asks for a piece only while no more than the limit was read, so that there is never more than the
limit and one piece.  It gives up exactly if a beginning of the stream is too long and does not end
in the prompt, and neither does any shorter beginning. -/
theorem readUntilPrompt_bounded :
    (∀ read, Awaits read → read.flatten.length ≤ replyLimit) ∧
    (∀ incoming : Incoming, (∀ piece ∈ incoming.pieces, IsRead piece) →
      ∃ read left result, incoming.pieces = read ++ left ∧
        incoming.readUntilPrompt = (result, ⟨left, incoming.ending⟩) ∧
        (∀ earlier, earlier <+: read → earlier ≠ read → Awaits earlier) ∧
        read.flatten.length ≤ replyLimit + pieceSize ∧
        (incoming.ending ≠ .failed .replyTooLong →
          (result = .failed .replyTooLong ↔
            ∃ front, front <+: incoming.pieces ∧ Overruns front))) ∧
    (∀ stream : Stream' (List UInt8), (∀ n, IsRead (stream.get n)) →
      ∃ count result, (∀ earlier < count, Awaits (stream.take earlier)) ∧
        ¬ Awaits (stream.take count) ∧
        (stream.take count).flatten.length ≤ replyLimit + pieceSize ∧
        (∀ later ending, Incoming.readUntilPrompt ⟨stream.take count ++ later, ending⟩
          = (result, ⟨later, ending⟩)) ∧
        (result = .failed .replyTooLong ↔ ∃ n, Overruns (stream.take n))) :=
  ⟨fun _ => length_le_of_awaits, fun _ => readUntilPrompt_of_ending,
    fun _ => readUntilPrompt_of_endless⟩

/-- A letter is shown as often as it was sent. -/
theorem shownText_replicate (n : Nat) : shownText (List.replicate n 97) = List.replicate n 'a' := by
  have run (written : List Char) : reader.runFrom (reader.start, written) (List.replicate n 97)
      = (reader.start, List.replicate n 'a' ++ written) := by
    induction n generalizing written with
    | zero => rfl
    | succ n ih =>
      have fed : reader.feed (reader.start, written) 97 = (reader.start, 'a' :: written) := rfl
      rw [List.replicate_succ, Transducer.runFrom_cons, fed, ih, List.replicate_succ',
        List.append_assoc]
      rfl
  rw [← reader_complete, Transducer.complete, run]
  simp [reader, Utf8.decoder, Utf8.finish, Transducer.andThen, stripper]

/-- Who sends one letter over and over sends too much. -/
theorem overruns_replicate : Overruns (List.replicate (replyLimit + 1) [97]) := by
  have letters (n : Nat) : (List.replicate n [(97 : UInt8)]).flatten = List.replicate n 97 := by
    simp
  have unprompted (n : Nat) : ¬ EndsInPrompt (List.replicate n [(97 : UInt8)]).flatten := by
    rw [letters, EndsInPrompt, shownText_replicate]
    intro ends
    have blank : ' ' ∈ List.replicate n 'a' := ends.subset (by decide)
    exact absurd (List.eq_of_mem_replicate blank) (by decide)
  refine ⟨?_, unprompted _, fun front fore _ => ?_⟩
  · rw [letters, List.length_replicate]
    exact Nat.lt_succ_self _
  · rw [List.prefix_replicate_iff.mp fore |>.2]
    exact unprompted _

theorem take_const (n : Nat) : (Stream'.const [(97 : UInt8)]).take n = List.replicate n [97] := by
  induction n with
  | zero => rfl
  | succ n ih => rw [Stream'.take_succ', ih, Stream'.get_const, ← List.replicate_succ']

/-- The reader gives up on such a peer, whether it stops some day or not. -/
theorem readUntilPrompt_bounded_babbling :
    ((∀ piece ∈ List.replicate (replyLimit + 1) [97], IsRead piece) ∧
      (Incoming.readUntilPrompt ⟨List.replicate (replyLimit + 1) [97], .closed⟩).1
        = .failed .replyTooLong) ∧
    (∀ n, IsRead ((Stream'.const [97]).get n)) ∧
      ∃ count, ((Stream'.const [(97 : UInt8)]).take count).flatten.length ≤ replyLimit + pieceSize ∧
        ∀ later ending, Incoming.readUntilPrompt ⟨(Stream'.const [97]).take count ++ later, ending⟩
          = (.failed .replyTooLong, ⟨later, ending⟩) := by
  have letter : IsRead [97] := ⟨by decide, by decide⟩
  have pieces : ∀ piece ∈ List.replicate (replyLimit + 1) [97], IsRead piece := fun piece member =>
    List.eq_of_mem_replicate member ▸ letter
  obtain ⟨read, left, result, -, ends, -, -, givesUp⟩ := readUntilPrompt_bounded.2.1
    ⟨List.replicate (replyLimit + 1) [97], .closed⟩ pieces
  have failed : result = .failed .replyTooLong :=
    (givesUp (by simp)).mpr ⟨_, List.prefix_rfl, overruns_replicate⟩
  obtain ⟨count, result', -, -, short, comesTo, givesUp'⟩ := readUntilPrompt_bounded.2.2
    (Stream'.const [97]) fun _ => letter
  have failed' : result' = .failed .replyTooLong := by
    refine givesUp'.mpr ⟨replyLimit + 1, ?_⟩
    rw [take_const]
    exact overruns_replicate
  subst failed failed'
  exact ⟨⟨pieces, by rw [ends]⟩, fun _ => letter, count, short, comesTo⟩

end GuestSupervisor.Monitor
