import GuestSupervisor.Monitor.Reply
import GuestSupervisor.Proofs.Text.Blank
import GuestSupervisor.Proofs.Text.Escapes
import GuestSupervisor.Proofs.Text.Lines

/-!
# The answer in a reply

The monitor repeats the line that it was sent before it answers.  The answer is what the rest of
the reply tells, without the blanks around it.  Only the first line is ever taken for the repeated
one, so an answer that begins with the same line again keeps it, and a reply in which nothing was
repeated is kept as a whole.

## Main Definitions

* `Tells` — what a reply tells: no escape sequences, no carriage returns.
* `IsSentLine` — a line as it is sent to the monitor.

## Main Statements

* `mem_of_mem_cleanReply` — an answer holds nothing that the reply does not say.
* `cleanReply_echoed` — what the answer in a reply is.
-/

namespace GuestSupervisor.Monitor

open Text

variable {reply text sent : List Char} {c : Char}

/-! ## What a reply tells -/

/-- **What a reply tells**: what is left of it without escape sequences and carriage returns. -/
def Tells (reply text : List Char) : Prop :=
  ∃ shown, Stripped reply shown ∧ shown.filter (· != '\r') = text

theorem replaceAll_return (text : List Char) :
    replaceAll '\r' [] text = text.filter (· != '\r') := by
  induction text with
  | nil => rfl
  | cons c text ih =>
    by_cases same : c = '\r' <;> simp_all [replaceAll]

theorem tells_iff : Tells reply text ↔ replaceAll '\r' [] (stripEscapes reply) = text := by
  simp [Tells, stripped_iff, replaceAll_return]

theorem Tells.not_mem_esc (tells : Tells reply text) : esc ∉ text := by
  obtain ⟨shown, stripped, rfl⟩ := tells
  exact fun member => stripped.not_mem_esc (List.mem_filter.mp member).1

theorem Tells.not_mem_return (tells : Tells reply text) : '\r' ∉ text := by
  obtain ⟨shown, -, rfl⟩ := tells
  simp

/-! ## Lines -/

/-- **A line as it is sent to the monitor**: not empty, without blanks around it, and without a
character that would be taken out of a reply or end a line of it. -/
structure IsSentLine (sent : List Char) : Prop where
  nonempty : sent ≠ []
  trimmed : IsTrimmed sent
  noEscape : esc ∉ sent
  noReturn : '\r' ∉ sent
  noFeed : '\n' ∉ sent

/-- **A reply that repeats the line** tells the line and then what it would have said. -/
theorem IsSentLine.tells_append (line : IsSentLine sent) (tells : Tells reply text) :
    Tells (sent ++ ['\r', '\n'] ++ reply) (sent ++ '\n' :: text) := by
  obtain ⟨shown, stripped, rfl⟩ := tells
  have plain : esc ∉ sent ++ ['\r', '\n'] := by
    simp [line.noEscape, show esc ≠ '\r' by decide, show esc ≠ '\n' by decide]
  refine ⟨_, stripped.append_of_not_mem plain, ?_⟩
  have kept : sent.filter (· != '\r') = sent := by
    rw [List.filter_eq_self]
    intro c member
    rw [bne_iff_ne]
    rintro rfl
    exact line.noReturn member
  simp [kept]

/-- The lines of a reply that repeats the line. -/
theorem IsSentLine.lines_append (line : IsSentLine sent) (text : List Char) :
    lines (sent ++ '\n' :: text) = sent :: lines text :=
  Text.lines_append line.noFeed (fun last => line.noReturn (List.mem_of_getLast? last)) text

/-- Nothing but blanks is lost where a text is put together from its lines. -/
theorem trim_intercalate_lines (noReturn : '\r' ∉ text) :
    trim (['\n'].intercalate (lines text)) = trim text := by
  rcases eq_intercalate_lines noReturn with same | same
  · rw [← same]
  · nth_rewrite 2 [same]
    refine (trim_append_of_blank fun c member => ?_).symm
    obtain rfl : c = '\n' := by simpa using member
    decide

/-! ## The answer -/

theorem cleanReply_eq (tells : Tells reply text) (sent : List Char) :
    cleanReply reply sent = trim (['\n'].intercalate (dropEcho sent (lines text))) := by
  rw [cleanReply, tells_iff.mp tells]

/-- The first line is dropped if it is the one that was sent. -/
theorem dropEcho_cons_self {first : List Char} (same : trim first = sent)
    (rest : List (List Char)) :
    dropEcho sent (first :: rest) = rest :=
  if_pos same

/-- Nothing is dropped if the first line is another one, or there is none. -/
theorem dropEcho_of_ne {lines : List (List Char)}
    (other : ∀ first, lines.head? = some first → trim first ≠ sent) :
    dropEcho sent lines = lines := by
  cases lines with
  | nil => rfl
  | cons first rest => exact if_neg (other first rfl)

/-- What is left behind the first line stands at the end of the text. -/
theorem intercalate_dropEcho_suffix (sent : List Char) (lines : List (List Char)) :
    ['\n'].intercalate (dropEcho sent lines) <:+ ['\n'].intercalate lines := by
  cases lines with
  | nil => exact List.suffix_rfl
  | cons first rest =>
    simp only [dropEcho]
    split
    · cases rest with
      | nil => simp
      | cons next rest =>
        rw [List.intercalate_cons_cons]
        exact List.suffix_append _ _
    · exact List.suffix_rfl

/-- **An answer holds nothing that the reply does not say.** -/
theorem mem_of_mem_cleanReply (tells : Tells reply text) (member : c ∈ cleanReply reply sent) :
    c ∈ text := by
  rw [cleanReply_eq tells] at member
  have inLines : c ∈ ['\n'].intercalate (lines text) :=
    (intercalate_dropEcho_suffix sent _).subset (mem_of_mem_trim member)
  rcases eq_intercalate_lines tells.not_mem_return with same | same
  · rw [same]
    exact inLines
  · rw [same]
    exact List.mem_append_left _ inLines

/-- **The repeated line is taken away once, and nothing else is.**  The answer in a reply that
repeats the line and goes on with `reply` is what `reply` tells, put together from its lines,
without the blanks around it, so all that it tells stands in the answer but for blanks at its ends.
Where the first line that a reply tells is another one, even without the blanks around it, all that
the reply tells is kept like that.  No answer holds an ESC or a carriage return. -/
theorem cleanReply_echoed (line : IsSentLine sent) (tells : Tells reply text) :
    cleanReply (sent ++ ['\r', '\n'] ++ reply) sent = trim (['\n'].intercalate (lines text))
      ∧ (∃ lead tail, text = lead ++ cleanReply (sent ++ ['\r', '\n'] ++ reply) sent ++ tail ∧
          (∀ c ∈ lead, isBlank c) ∧ ∀ c ∈ tail, isBlank c)
      ∧ (∀ other, (∀ first, (lines text).head? = some first → trim first ≠ other) →
          cleanReply reply other = trim text)
      ∧ ∀ raw other, esc ∉ cleanReply raw other ∧ '\r' ∉ cleanReply raw other := by
  have whole := trim_intercalate_lines tells.not_mem_return
  have answer : cleanReply (sent ++ ['\r', '\n'] ++ reply) sent
      = trim (['\n'].intercalate (lines text)) := by
    rw [cleanReply_eq (line.tells_append tells), line.lines_append,
      dropEcho_cons_self (trim_of_isTrimmed line.trimmed)]
  refine ⟨answer, ?_, fun other apart => ?_, fun raw other => ?_⟩
  · rw [answer, whole]
    exact exists_append_trim text
  · rw [cleanReply_eq tells, dropEcho_of_ne apart, whole]
  · have tells' : Tells raw _ := tells_iff.mpr rfl
    exact ⟨fun member => tells'.not_mem_esc (mem_of_mem_cleanReply tells' member),
      fun member => tells'.not_mem_return (mem_of_mem_cleanReply tells' member)⟩

/-- An answer that begins with the same line again keeps it; an unfinished sequence goes. -/
theorem cleanReply_echoed_twice :
    IsSentLine "stop".toList
      ∧ Tells "\r\nstop\r\n\x1b[K done\n\x1b[3".toList "\nstop\n done\n".toList
      ∧ cleanReply "stop\r\n\r\nstop\r\n\x1b[K done\n\x1b[3".toList "stop".toList
          = "stop\n done".toList := by
  have line : IsSentLine "stop".toList :=
    ⟨by decide, isTrimmed_of_forall (solid_of_all (by decide)), by decide, by decide, by decide⟩
  have tells : Tells "\r\nstop\r\n\x1b[K done\n\x1b[3".toList "\nstop\n done\n".toList :=
    tells_iff.mpr (by decide)
  refine ⟨line, tells, ?_⟩
  obtain ⟨answer, -⟩ := cleanReply_echoed line tells
  exact answer.trans (by decide)

end GuestSupervisor.Monitor
