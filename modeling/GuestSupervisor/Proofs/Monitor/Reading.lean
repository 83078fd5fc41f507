import GuestSupervisor.Monitor.Incoming

/-!
# Reading up to a prompt

What was read so far is kept as the state of a machine, and it is the state that the bytes read so
far lead to.  So it depends on these bytes alone whether reading goes on behind a piece: it stops
behind the first piece after which the text ends in the prompt or is too long, and if there is no
such piece, with the stream.

## Main Definitions

* `Collected.Holds` — these bytes were read so far.
* `GoesOn` — reading goes on behind these bytes.
* `Incoming.Invites` — the peer waits for a line once these pieces were read.

## Main Statements

* `Incoming.readUntilPrompt_cases` — where reading stops, and what it comes to.
* `Incoming.exists_invites` — when there is a text, the peer waited for a line, and not before.
-/

namespace GuestSupervisor.Monitor

open Text

variable {c : Collected} {bytes : List UInt8} {pieces : List (List UInt8)}

/-! ## What was read so far -/

/-- **These bytes were read so far.** -/
structure Collected.Holds (c : Collected) (bytes : List UInt8) : Prop where
  bytes_eq : c.bytes = bytes
  count_eq : c.count = bytes.length
  run_eq : c.run = reader.runFrom (reader.start, []) bytes

theorem Collected.holds_start : start.Holds [] := ⟨rfl, rfl, rfl⟩

theorem Collected.Holds.push (holds : c.Holds bytes) (piece : List UInt8) :
    (c.push piece).Holds (bytes ++ piece) where
  bytes_eq := by
    rw [← holds.bytes_eq]
    simp [Collected.push, Collected.bytes]
  count_eq := by simp [Collected.push, holds.count_eq]
  run_eq := by rw [Collected.push, holds.run_eq, Transducer.runFrom_append]

/-- The prompt is looked for at the end of the whole text. -/
theorem Collected.Holds.beforePrompt?_eq (holds : c.Holds bytes) :
    c.beforePrompt? = Monitor.beforePrompt? bytes := by
  simp only [Collected.beforePrompt?, Monitor.beforePrompt?, Transducer.complete, holds.run_eq,
    List.reverse_append, List.reverse_reverse]

/-! ## Where reading stops -/

/-- **Reading goes on behind these bytes**: no prompt ends them, and they are not too many. -/
def GoesOn (bytes : List UInt8) : Prop :=
  beforePrompt? bytes = none ∧ bytes.length ≤ replyLimit

/-- Nothing has to be read for reading to go on. -/
theorem goesOn_nil : GoesOn [] := ⟨by decide, by decide⟩

/-- What reading comes to when it stops behind these bytes. -/
def stopped (bytes : List UInt8) : ReadResult :=
  match beforePrompt? bytes with
  | some text => .text text true
  | none => .failed .replyTooLong

/-- What reading comes to when the stream ends behind these bytes. -/
def Ending.result (bytes : List UInt8) : Ending → ReadResult
  | .closed => .text (Utf8.decodeLossy bytes) false
  | .silent => .waiting
  | .failed failure => .failed failure

/-- Reading goes on behind a piece, or it stops there. -/
theorem readPieces_cons (holds : c.Holds bytes) (piece : List UInt8)
    (pieces : List (List UInt8)) (ending : Ending) :
    (GoesOn (bytes ++ piece) ∧
        readPieces ending c (piece :: pieces) = readPieces ending (c.push piece) pieces) ∨
      (¬ GoesOn (bytes ++ piece) ∧
        readPieces ending c (piece :: pieces) = (stopped (bytes ++ piece), ⟨pieces, ending⟩)) := by
  have longer := holds.push piece
  rw [readPieces, longer.beforePrompt?_eq, longer.count_eq]
  unfold GoesOn stopped
  cases beforePrompt? (bytes ++ piece) with
  | some text => simp
  | none =>
    by_cases long : replyLimit < (bytes ++ piece).length
    · exact .inr ⟨fun goesOn => absurd goesOn.2 (Nat.not_le.mpr long), by simp only [if_pos long]⟩
    · exact .inl ⟨⟨rfl, Nat.not_lt.mp long⟩, by simp only [if_neg long]⟩

/-- **Where reading stops**, and what it comes to, after some bytes behind which it goes on. -/
theorem readPieces_cases (holds : c.Holds bytes) (goesOn : GoesOn bytes)
    (pieces : List (List UInt8)) (ending : Ending) :
    ((∀ read, read <+: pieces → GoesOn (bytes ++ read.flatten)) ∧
        readPieces ending c pieces = (ending.result (bytes ++ pieces.flatten), ⟨[], ending⟩)) ∨
      ∃ read left, pieces = read ++ left ∧ ¬ GoesOn (bytes ++ read.flatten) ∧
        (∀ earlier, earlier <+: read → earlier ≠ read → GoesOn (bytes ++ earlier.flatten)) ∧
        readPieces ending c pieces = (stopped (bytes ++ read.flatten), ⟨left, ending⟩) := by
  induction pieces generalizing c bytes with
  | nil =>
    refine .inl ⟨fun read front => ?_, ?_⟩
    · rw [List.prefix_nil.mp front]
      simpa using goesOn
    · cases ending <;> simp [readPieces, Ending.result, Collected.rawText, holds.bytes_eq]
  | cons piece pieces ih =>
    rcases readPieces_cons holds piece pieces ending with ⟨further, same⟩ | ⟨stops, same⟩
    · -- What is read up to a later place is nothing, or it begins with this piece.
      have through {read : List (List UInt8)} (front : read <+: piece :: pieces)
          (behind : ∀ rest, read = piece :: rest → GoesOn (bytes ++ piece ++ rest.flatten)) :
          GoesOn (bytes ++ read.flatten) := by
        rcases List.prefix_cons_iff.mp front with rfl | ⟨rest, rfl, -⟩
        · simpa using goesOn
        · simpa using behind rest rfl
      rw [same]
      rcases ih (holds.push piece) further with
        ⟨all, ends⟩ | ⟨read, left, rfl, stops, earlier, ends⟩
      · refine .inl ⟨fun read front => through front ?_, by simpa using ends⟩
        rintro rest rfl
        exact all rest (List.cons_prefix_cons.mp front).2
      · refine .inr ⟨piece :: read, left, rfl, by simpa using stops, fun ahead front other => ?_,
          by simpa using ends⟩
        refine through (front.trans (List.prefix_append _ left)) ?_
        rintro rest rfl
        exact earlier rest (List.cons_prefix_cons.mp front).2 fun all => other (by rw [all])
    · refine .inr ⟨[piece], pieces, rfl, by simpa using stops, fun ahead front other => ?_,
        by simpa using same⟩
      rcases List.prefix_cons_iff.mp front with rfl | ⟨rest, rfl, none⟩
      · simpa using goesOn
      · exact absurd (by rw [List.prefix_nil.mp none]) other

/-- **Where reading stops**, and what it comes to. -/
theorem Incoming.readUntilPrompt_cases (incoming : Incoming) :
    ((∀ read, read <+: incoming.pieces → GoesOn read.flatten) ∧
        incoming.readUntilPrompt
          = (incoming.ending.result incoming.pieces.flatten, ⟨[], incoming.ending⟩)) ∨
      ∃ read left, incoming.pieces = read ++ left ∧ ¬ GoesOn read.flatten ∧
        (∀ earlier, earlier <+: read → earlier ≠ read → GoesOn earlier.flatten) ∧
        incoming.readUntilPrompt = (stopped read.flatten, ⟨left, incoming.ending⟩) := by
  simpa [readUntilPrompt] using
    readPieces_cases Collected.holds_start goesOn_nil incoming.pieces incoming.ending

/-- **Reading stops behind the first piece that makes it stop**, and what comes later stays. -/
theorem readUntilPrompt_append {read : List (List UInt8)} (stops : ¬ GoesOn read.flatten)
    (earlier : ∀ front, front <+: read → front ≠ read → GoesOn front.flatten)
    (later : List (List UInt8)) (ending : Ending) :
    Incoming.readUntilPrompt ⟨read ++ later, ending⟩ = (stopped read.flatten, ⟨later, ending⟩) := by
  rcases Incoming.readUntilPrompt_cases ⟨read ++ later, ending⟩ with
    ⟨all, -⟩ | ⟨read', left, split, stops', earlier', ends⟩
  · exact absurd (all read (List.prefix_append read later)) stops
  · -- Both stop reading and neither lets it stop earlier, so they are one.
    have fore : read' <+: read ++ later := ⟨left, split.symm⟩
    have same : read' = read := by
      refine Classical.byContradiction fun other => ?_
      rcases List.prefix_or_prefix_of_prefix (List.prefix_append read later) fore with
        front | front
      · exact stops (earlier' read front (Ne.symm other))
      · exact stops' (earlier read' front other)
    subst same
    rw [ends, List.append_cancel_left split]

/-- **Only the end of the stream ends reading** that goes on behind every piece. -/
theorem readUntilPrompt_of_goesOn (goesOn : ∀ read, read <+: pieces → GoesOn read.flatten)
    (ending : Ending) :
    Incoming.readUntilPrompt ⟨pieces, ending⟩ = (ending.result pieces.flatten, ⟨[], ending⟩) := by
  rcases Incoming.readUntilPrompt_cases ⟨pieces, ending⟩ with
    ⟨-, ends⟩ | ⟨read, left, rfl, stops, -⟩
  · exact ends
  · exact absurd (goesOn read (List.prefix_append read left)) stops

/-! ## When a peer waits for a line -/

/-- **The peer waits for a line once these pieces were read**: a prompt ends them, or they are all
that came before the stream ended. -/
def Incoming.Invites (incoming : Incoming) (read : List (List UInt8)) : Prop :=
  read <+: incoming.pieces ∧
    ((beforePrompt? read.flatten).isSome ∨ read = incoming.pieces ∧ incoming.ending = .closed)

/-- **Who has read no prompt and no end waits**, whatever was read. -/
theorem readUntilPrompt_silent (goesOn : ∀ read, read <+: pieces → GoesOn read.flatten) :
    Incoming.readUntilPrompt ⟨pieces, .silent⟩ = (.waiting, ⟨[], .silent⟩) :=
  readUntilPrompt_of_goesOn goesOn .silent

/-- **When there is a text, the peer waited for a line**, and who had read any less would still be
waiting for the peer. -/
theorem Incoming.exists_invites {incoming left : Incoming} {text : List Char} {prompted : Bool}
    (found : incoming.readUntilPrompt = (.text text prompted, left)) :
    ∃ read, incoming.Invites read ∧ ∀ earlier, earlier <+: read → earlier ≠ read →
      (Incoming.mk earlier .silent).readUntilPrompt = (.waiting, ⟨[], .silent⟩) := by
  rcases incoming.readUntilPrompt_cases with ⟨all, ends⟩ | ⟨read, behind, split, -, before, ends⟩
  · have closed : incoming.ending = .closed := by
      rw [found, Prod.mk.injEq] at ends
      cases ending : incoming.ending with
      | closed => rfl
      | silent | failed => simp [ending, Ending.result] at ends
    refine ⟨incoming.pieces, ⟨List.prefix_rfl, .inr ⟨rfl, closed⟩⟩, fun earlier front _ => ?_⟩
    exact readUntilPrompt_silent fun read ahead => all read (ahead.trans front)
  · have prompt : (beforePrompt? read.flatten).isSome := by
      rw [found, Prod.mk.injEq, stopped] at ends
      cases ended : beforePrompt? read.flatten with
      | some text => rfl
      | none => simp [ended] at ends
    refine ⟨read, ⟨split ▸ List.prefix_append read behind, .inl prompt⟩,
      fun earlier front other => ?_⟩
    refine readUntilPrompt_silent fun ahead fore => before ahead (fore.trans front) ?_
    rintro rfl
    exact other (front.eq_of_length_le fore.length_le)

end GuestSupervisor.Monitor
