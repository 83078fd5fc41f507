import GuestSupervisor.Monitor.Channel
import GuestSupervisor.Proofs.Monitor.Pieces

/-!
# Answered commands

A command is answered once a text was read behind its line, and there are two ways to come to a
text: the monitor writes its prompt, or it ends the stream.  The reader does not tell them apart,
neither before the line nor behind it, and no command is treated unlike the others.

## Main Definitions

* `Incoming.Completes`, `Incoming.BreaksOff` — the two ways to come to a text.
* `Incoming.Yields` — a stream comes to a text, either way.
* `Peer.reply` — what is read once the line was written.

## Main Statements

* `Incoming.readUntilPrompt_eq_text_iff` — when reading comes to a text.
* `send_eq_ok_iff` — when a command is answered, and with what.
-/

namespace GuestSupervisor.Monitor

open Text

variable {incoming : Incoming} {text : List Char}

/-! ## Two ways to come to a text -/

/-- **These pieces complete a text.**  The prompt ends what they show, and nothing before them made
reading stop. -/
structure Incoming.Completes (incoming : Incoming) (read : List (List UInt8)) (text : List Char) :
    Prop where
  first : read <+: incoming.pieces
  shown : shownText read.flatten = text ++ prompt
  earlier : ∀ front, front <+: read → front ≠ read → GoesOn front.flatten

theorem Incoming.Completes.endsInPrompt {read : List (List UInt8)}
    (completes : incoming.Completes read text) : EndsInPrompt read.flatten :=
  ⟨text, completes.shown.symm⟩

/-- **The stream breaks off**: it ends, and no prompt was found in it.  The text is all of it. -/
structure Incoming.BreaksOff (incoming : Incoming) (text : List Char) : Prop where
  closed : incoming.ending = .closed
  goesOn : ∀ read, read <+: incoming.pieces → GoesOn read.flatten
  text_eq : Utf8.decodeLossy incoming.pieces.flatten = text

/-- A stream that breaks off has shown no prompt. -/
theorem Incoming.BreaksOff.not_endsInPrompt {read : List (List UInt8)}
    (breaksOff : incoming.BreaksOff text) (first : read <+: incoming.pieces) :
    ¬ EndsInPrompt read.flatten :=
  (goesOn_iff.mp (breaksOff.goesOn read first)).1

/-- **A stream comes to a text**, completed or broken off. -/
def Incoming.Yields (incoming : Incoming) (text : List Char) : Prop :=
  (∃ read, incoming.Completes read text) ∨ incoming.BreaksOff text

/-- A text that a stream has come to is completed by the prompt unless the stream breaks off. -/
theorem Incoming.Yields.prompted_iff (yields : incoming.Yields text) :
    (∃ read, read <+: incoming.pieces ∧ EndsInPrompt read.flatten) ↔
      ∀ raw, ¬ incoming.BreaksOff raw := by
  constructor
  · rintro ⟨read, first, prompted⟩ raw breaksOff
    exact breaksOff.not_endsInPrompt first prompted
  · intro whole
    obtain ⟨read, completes⟩ := yields.resolve_right (whole text)
    exact ⟨read, completes.first, completes.endsInPrompt⟩

/-- **When reading comes to a text**, and how. -/
theorem Incoming.readUntilPrompt_eq_text_iff {prompted : Bool} :
    (∃ left, incoming.readUntilPrompt = (.text text prompted, left)) ↔
      if prompted then ∃ read, incoming.Completes read text else incoming.BreaksOff text := by
  obtain ⟨pieces, ending⟩ := incoming
  constructor
  · rintro ⟨left, found⟩
    rcases Incoming.readUntilPrompt_cases ⟨pieces, ending⟩ with
      ⟨all, ends⟩ | ⟨read, behind, split, -, earlier, ends⟩
    · rw [found, Prod.mk.injEq] at ends
      cases ending with
      | closed =>
        obtain ⟨rfl, rfl⟩ : text = _ ∧ prompted = false := by simpa [Ending.result] using ends.1
        exact ⟨rfl, all, rfl⟩
      | silent | failed => simp [Ending.result] at ends
    · rw [found, Prod.mk.injEq, stopped] at ends
      cases ended : beforePrompt? read.flatten with
      | none => simp [ended] at ends
      | some shown =>
        obtain ⟨rfl, rfl⟩ : text = shown ∧ prompted = true := by simpa [ended] using ends.1
        exact ⟨read, ⟨behind, split.symm⟩, beforePrompt?_eq_some_iff.mp ended, earlier⟩
  · cases prompted with
    | true =>
      rintro ⟨read, ⟨later, rfl⟩, shown, earlier⟩
      have ended := beforePrompt?_eq_some_iff.mpr shown
      have stops : ¬ GoesOn read.flatten := fun goesOn => by simp [goesOn.1] at ended
      refine ⟨⟨later, ending⟩, ?_⟩
      rw [readUntilPrompt_append stops earlier, stopped, ended]
    | false =>
      rintro ⟨rfl, goesOn, rfl⟩
      exact ⟨_, readUntilPrompt_of_goesOn goesOn .closed⟩

/-- Reading comes to a text when the stream does. -/
theorem Incoming.yields_iff :
    incoming.Yields text ↔
      ∃ prompted left, incoming.readUntilPrompt = (.text text prompted, left) := by
  simp only [readUntilPrompt_eq_text_iff, Yields, Bool.exists_bool, Bool.false_eq_true, if_true,
    if_false]
  exact Or.comm

/-! ## What is read behind the line -/

/-- **What is read once the line was written**: what was left of the greeting, and the answer. -/
def Peer.reply (peer : Peer) : Incoming :=
  ⟨peer.greeting.readUntilPrompt.2.pieces ++ peer.answer.pieces, peer.answer.ending⟩

/-- **When an exchange comes to a text**: before the line and behind it. -/
theorem Peer.outcome_exchange_eq_ok_iff {peer : Peer} {limit : Milliseconds} {line : String} :
    (peer.exchange limit line).outcome = .ok text ↔
      (∃ greeting, peer.greeting.Yields greeting) ∧ peer.writing = .taken ∧
        peer.reply.Yields text := by
  simp only [Incoming.yields_iff]
  cases greeted : peer.greeting.readUntilPrompt with
  | mk greeting left =>
    have behind :
        Incoming.mk (left.pieces ++ peer.answer.pieces) peer.answer.ending = peer.reply := by
      rw [reply, greeted]
    simp only [exchange, greeted]
    cases greeting with
    | waiting | failed => simp
    | text greeting prompted =>
      simp only [behind]
      cases peer.writing with
      | refused | stalled => simp
      | taken =>
        cases peer.reply.readUntilPrompt with
        | mk answer rest => cases answer <;> simp

/-- **When a command is answered, and with what.**  It has a line, the connection is made and there
is time; the greeting comes to a text, the line is taken, and what is read behind it comes to a
text. -/
theorem send_eq_ok_iff {endpoint : String} {limit : Milliseconds} {command : ControlCommand}
    {connection : Connection} {reply : List Char} :
    (send endpoint limit command connection).outcome = .ok reply ↔
      ∃ line peer raw, command.line? = .ok line ∧ connection = .accepted peer ∧ limit.count ≠ 0 ∧
        (∃ greeting, peer.greeting.Yields greeting) ∧ peer.writing = .taken ∧
        peer.reply.Yields raw ∧ cleanReply raw line.toList = reply := by
  cases said : command.line? with
  | error e => simp [send, said]
  | ok line =>
    cases connection with
    | failed failure => simp [send, said]
    | accepted peer =>
      by_cases none : limit.count = 0
      · simp [send, said, none]
      · -- The text that was read is cleaned, and that is all that becomes of it.
        have cleaned : (send endpoint limit command (.accepted peer)).outcome = .ok reply ↔
            ∃ raw, (peer.exchange limit line).outcome = .ok raw ∧
              cleanReply raw line.toList = reply := by
          simp only [send, said, if_neg none]
          cases (peer.exchange limit line).outcome <;> simp [Except.map]
        simp only [cleaned, Peer.outcome_exchange_eq_ok_iff]
        simp [none, and_assoc]

end GuestSupervisor.Monitor
