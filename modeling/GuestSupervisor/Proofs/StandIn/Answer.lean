import GuestSupervisor.Proofs.Host.FileSystem
import GuestSupervisor.Proofs.Text.Blank
import GuestSupervisor.Proofs.Text.Lines
import GuestSupervisor.StandIn.Emulator
import GuestSupervisor.Supervisor.System

/-!
# What the stand-in makes of a command

A command is written as a line, and the stand-in tells from the first word of a line what it
is asked for.  So it halts its guest and lets it go on exactly when a command says so, whatever
the arguments of the command are, and it ends on no other command than the one to quit.

The line is written when the greeting has been read, whatever comes back.  To the commands that
have no arguments the same comes back every time, short enough to be read at once.

## Main Statements

* `StandIn.respond_of_line` — what the line of a command makes the stand-in do.
* `StandIn.written_send_peer` — a line is written to the stand-in whatever it answers.
* `StandIn.send_pause`, `StandIn.send_resume`, `StandIn.send_status` — what it answers.
-/

namespace GuestSupervisor.StandIn

open Monitor Supervisor Text

variable {verb rest line : List Char}

/-! ## The first word -/

/-- **The first word of a line** that begins with it, when the blanks around the line are taken
away. -/
theorem words_trim (solid : ∀ c ∈ verb, isBlank c = false) (nonempty : verb ≠ [])
    (apart : rest = [] ∨ ∃ argument, rest = ' ' :: argument) :
    (words (trim (verb ++ rest))).1 = verb := by
  have absent : ' ' ∉ verb := fun member => absurd (solid ' ' member) (by decide)
  have start : trimStart (verb ++ rest) = verb ++ rest := by
    obtain ⟨first, others, rfl⟩ := List.exists_cons_of_ne_nil nonempty
    exact trimStart_of_head (solid first List.mem_cons_self) _
  have cut : trim (verb ++ rest) = verb ++ trimEnd rest := by
    obtain ⟨before, last, rfl⟩ : ∃ before last, verb = before ++ [last] :=
      ⟨_, _, (List.dropLast_append_getLast nonempty).symm⟩
    rw [trim, start, List.append_assoc, List.singleton_append,
      trimEnd_append_cons (solid last (by simp)), List.append_assoc, List.singleton_append]
  -- What is left behind the word is nothing, or it begins with the same blank.
  have left : trimEnd rest = [] ∨ ∃ argument, trimEnd rest = ' ' :: argument := by
    rcases apart with rfl | ⟨argument, rfl⟩
    · exact Or.inl rfl
    · rcases List.prefix_cons_iff.mp (List.rdropWhile_prefix isBlank (' ' :: argument)) with
        empty | ⟨kept, same, -⟩
      · exact Or.inl empty
      · exact Or.inr ⟨kept, same⟩
  rw [cut]
  rcases left with empty | ⟨argument, same⟩
  · have uncut : verb.dropWhile (· != ' ') = [] := by
      rw [List.dropWhile_eq_nil_iff]
      intro c member
      rw [bne_iff_ne]
      rintro rfl
      exact absent member
    simp [empty, words, splitOnce, uncut]
  · simp [same, words, splitOnce_append absent]

/-- A line that begins with a word and an argument asks for what the word says. -/
theorem verb_of_text (word argument : String) (solid : word.toList.all fun c => !isBlank c)
    (nonempty : word.toList ≠ []) :
    String.ofList (words (trim (word ++ " " ++ argument).toList)).1 = word := by
  have begins : (word ++ " " ++ argument).toList = word.toList ++ ' ' :: argument.toList := by simp
  rw [begins, words_trim (solid_of_all solid) nonempty (Or.inr ⟨argument.toList, rfl⟩),
    String.ofList_toList]

/-! ## What a command is taken for -/

/-- **What a command is to be taken for.** -/
def Order.Renders : Order → ControlCommand → Prop
  | .quit, .quit | .reset, .reset | .stop, .pause | .continue, .resume | .status, .status => True
  | .screendump _, .screendump _ => True
  | .device, .usbAttach _ _ | .device, .usbDetach _ _ => True
  | _, _ => False

variable {command : ControlCommand} {text : String}

/-- **A command with arguments is written with its word first.** -/
theorem exists_argument (spoken : command.line? = .ok text) :
    match command with
    | .screendump _ => ∃ argument, text = "screendump" ++ " " ++ argument
    | .usbAttach _ _ => ∃ argument, text = "device_add" ++ " " ++ argument
    | .usbDetach _ _ => ∃ argument, text = "device_del" ++ " " ++ argument
    | _ => True := by
  cases command with
  | quit | reset | pause | resume | status => trivial
  | screendump path =>
    simp only [ControlCommand.line?] at spoken
    split at spoken
    · rename_i path' _
      cases spoken
      exact ⟨path', rfl⟩
    · cases spoken
  | usbAttach vendor product =>
    simp only [ControlCommand.line?, ControlCommand.checkUsbId, bind, Except.bind] at spoken
    split_ifs at spoken
    cases spoken
    refine ⟨"usb-host,vendorid=0x" ++ vendor ++ ",productid=0x" ++ product ++ ",id="
      ++ ControlCommand.usbDeviceName vendor product, ?_⟩
    simp [← String.toList_inj]
  | usbDetach vendor product =>
    simp only [ControlCommand.line?, ControlCommand.checkUsbId, bind, Except.bind] at spoken
    split_ifs at spoken
    cases spoken
    exact ⟨ControlCommand.usbDeviceName vendor product, rfl⟩

/-- **The stand-in takes the line of a command for that command**, whatever its arguments
are. -/
theorem ofLine_renders (spoken : command.line? = .ok text) :
    (Order.ofLine (trim text.toList)).Renders command := by
  have words := exists_argument spoken
  cases command with
  | quit =>
    cases spoken
    rw [show Order.ofLine (trim "quit".toList) = .quit by decide]
    trivial
  | reset =>
    cases spoken
    rw [show Order.ofLine (trim "system_reset".toList) = .reset by decide]
    trivial
  | pause =>
    cases spoken
    rw [show Order.ofLine (trim "stop".toList) = .stop by decide]
    trivial
  | resume =>
    cases spoken
    rw [show Order.ofLine (trim "cont".toList) = .continue by decide]
    trivial
  | status =>
    cases spoken
    rw [show Order.ofLine (trim "info status".toList) = .status by decide]
    trivial
  | screendump =>
    obtain ⟨argument, rfl⟩ := words
    have first := verb_of_text "screendump" argument (by decide) (by decide)
    simp only [Order.ofLine, first]
    trivial
  | usbAttach =>
    obtain ⟨argument, rfl⟩ := words
    have first := verb_of_text "device_add" argument (by decide) (by decide)
    simp only [Order.ofLine, first]
    trivial
  | usbDetach =>
    obtain ⟨argument, rfl⟩ := words
    have first := verb_of_text "device_del" argument (by decide) (by decide)
    simp only [Order.ofLine, first]
    trivial

/-! ## What a command makes of the stand-in -/

/-- **What the line of a command makes of the stand-in.**  The guest stands still as the command
wants it, the stand-in goes on unless it was told to quit, and of the files it writes one at
most. -/
theorem respond_of_line (spoken : command.line? = .ok text) (notQuit : command ≠ .quit)
    (ignoreQuit paused : Bool) (files : FileSystem) :
    (respond ignoreQuit paused files text.toList).paused = System.pausing command paused ∧
      (respond ignoreQuit paused files text.toList).quits = false ∧
      files.Retains (respond ignoreQuit paused files text.toList).files := by
  have renders := ofLine_renders spoken
  have same := (FileSystem.Keeps.refl files).retains
  unfold respond
  simp only
  cases order : Order.ofLine (trim text.toList) with
  | screendump path =>
    rw [order] at renders
    cases command with
    | screendump =>
      simp only
      split
      · exact ⟨rfl, rfl, FileSystem.retains_writeFile ‹_›⟩
      · exact ⟨rfl, rfl, same⟩
    | _ => exact renders.elim
  | quit | stop | «continue» | reset | status | device | unknown =>
    rw [order] at renders
    cases command <;> first | exact ⟨rfl, rfl, same⟩ | exact absurd rfl notQuit | exact renders.elim

/-! ## What comes back -/

/-- What fits into one piece comes in one piece. -/
theorem cutPieces_of_le {bytes : List UInt8} (nonempty : bytes ≠ [])
    (small : bytes.length ≤ pieceSize) : cutPieces bytes = [bytes] := by
  obtain ⟨first, rest, rfl⟩ := List.exists_cons_of_ne_nil nonempty
  rw [List.length_cons] at small
  have fits : rest.length ≤ pieceSize - 1 := by omega
  rw [cutPieces, List.take_of_length_le fits, List.drop_of_length_le fits, cutPieces]

/-- A short text with a prompt behind it is read as the text. -/
theorem readUntilPrompt_of_le {bytes : List UInt8} {text : List Char} (nonempty : bytes ≠ [])
    (small : bytes.length ≤ pieceSize)
    (prompted : (Collected.start.push bytes).beforePrompt? = some text) (ending : Ending) :
    Incoming.readUntilPrompt ⟨cutPieces bytes, ending⟩ = (.text text true, ⟨[], ending⟩) := by
  rw [cutPieces_of_le nonempty small, Incoming.readUntilPrompt, readPieces]
  simp only [prompted]

/-- The greeting is read. -/
theorem readUntilPrompt_greeting :
    ∃ text, Incoming.readUntilPrompt ⟨cutPieces (Utf8.encode greeting), .silent⟩
      = (.text text true, ⟨[], .silent⟩) := by
  have prompted : ((Collected.start.push (Utf8.encode greeting)).beforePrompt?).isSome := by
    decide +kernel
  obtain ⟨text, prompted⟩ := Option.isSome_iff_exists.mp prompted
  exact ⟨text, readUntilPrompt_of_le (by decide) (by decide) prompted .silent⟩

/-- **A line is written to the stand-in** whatever it answers. -/
theorem written_exchange_peer (r : Response) (limit : Milliseconds) (line : String) :
    (r.peer.exchange limit line).written = lineBytes line := by
  obtain ⟨text, greeted⟩ := readUntilPrompt_greeting
  unfold Peer.exchange
  simp only [Response.peer, greeted]
  split <;> rfl

/-- A command with a line is written to the stand-in, if there is any time for it. -/
theorem written_send_peer (endpoint : String) {limit : Milliseconds} {command : ControlCommand}
    {line : String} (spoken : command.line? = .ok line) (patient : limit.count ≠ 0) (r : Response) :
    (send endpoint limit command (.accepted r.peer)).written = lineBytes line := by
  simp only [send, spoken, if_neg patient, written_exchange_peer]

/-- What the stand-in writes for a line that it does not quit on. -/
def answerBytes (line text : List Char) : List UInt8 :=
  Utf8.encode (line ++ lineEnd ++ text ++ prompt)

/-- **A short answer is read as it is**: what comes back is what is between the echo of the line
and the prompt. -/
theorem send_of_le {line text answer : List Char}
    (small : (answerBytes line text).length ≤ pieceSize)
    (prompted : (Collected.start.push (answerBytes line text)).beforePrompt? = some answer)
    {command : ControlCommand} {sent : String} (spoken : command.line? = .ok sent)
    (paused : Bool) (files : FileSystem) (endpoint : String) {limit : Milliseconds}
    (patient : limit.count ≠ 0) :
    (send endpoint limit command
        (.accepted (Response.mk line text paused false files).peer)).outcome
      = .ok (cleanReply answer sent.toList) := by
  obtain ⟨greeting, greeted⟩ := readUntilPrompt_greeting
  have nonempty : answerBytes line text ≠ [] := by
    intro empty
    rw [empty, show (Collected.start.push []).beforePrompt? = none by decide] at prompted
    cases prompted
  have answered := readUntilPrompt_of_le nonempty small prompted .silent
  unfold answerBytes at answered
  unfold send Peer.exchange
  simp only [spoken, if_neg patient, Response.peer, greeted, Bool.false_eq_true, if_false,
    List.nil_append, answered]
  rfl

variable (ignoreQuit paused : Bool) (files : FileSystem) (endpoint : String)
  {limit : Milliseconds}

/-- **To pause is answered with nothing.** -/
theorem send_pause (patient : limit.count ≠ 0) :
    (send endpoint limit .pause
      (.accepted (respond ignoreQuit paused files "stop".toList).peer)).outcome = .ok [] := by
  have prompted : (Collected.start.push (answerBytes "stop".toList [])).beforePrompt?
      = some "stop\r\n".toList := by decide +kernel
  have sent := send_of_le (by decide) prompted
    (show ControlCommand.pause.line? = .ok "stop" from rfl) true files endpoint patient
  rw [show cleanReply "stop\r\n".toList "stop".toList = [] by decide] at sent
  exact sent

/-- **To go on is answered with nothing.** -/
theorem send_resume (patient : limit.count ≠ 0) :
    (send endpoint limit .resume
      (.accepted (respond ignoreQuit paused files "cont".toList).peer)).outcome = .ok [] := by
  have prompted : (Collected.start.push (answerBytes "cont".toList [])).beforePrompt?
      = some "cont\r\n".toList := by decide +kernel
  have sent := send_of_le (by decide) prompted
    (show ControlCommand.resume.line? = .ok "cont" from rfl) false files endpoint patient
  rw [show cleanReply "cont\r\n".toList "cont".toList = [] by decide] at sent
  exact sent

/-- What the status says about a guest. -/
def statusText (paused : Bool) : String :=
  if paused then "VM status: paused" else "VM status: running"

/-- **The status is whether the guest stands still.** -/
theorem send_status (patient : limit.count ≠ 0) :
    (send endpoint limit .status
        (.accepted (respond ignoreQuit paused files "info status".toList).peer)).outcome
      = .ok (statusText paused).toList := by
  have prompted : ∀ still : Bool, (Collected.start.push (answerBytes "info status".toList
      ("VM status: ".toList ++ (if still then "paused" else "running").toList
        ++ lineEnd))).beforePrompt?
        = some ("info status\r\n".toList ++ (statusText still).toList ++ "\r\n".toList) := by
    decide +kernel
  have small : ∀ still : Bool, (answerBytes "info status".toList
      ("VM status: ".toList ++ (if still then "paused" else "running").toList
        ++ lineEnd)).length ≤ pieceSize := by decide
  have sent := send_of_le (small paused) (prompted paused)
    (show ControlCommand.status.line? = .ok "info status" from rfl) paused files endpoint patient
  have clean : ∀ still : Bool, cleanReply ("info status\r\n".toList ++ (statusText still).toList
      ++ "\r\n".toList) "info status".toList = (statusText still).toList := by decide
  rw [clean] at sent
  exact sent

end GuestSupervisor.StandIn
