import GuestSupervisor.Proofs.Command.Building
import GuestSupervisor.Proofs.Configuration.Store
import GuestSupervisor.Proofs.Text.Blank
import GuestSupervisor.Proofs.Text.Lines
import GuestSupervisor.Proofs.Text.Words
import GuestSupervisor.Service.Basic

/-!
# The guest's screen

The display tool tells the size of the host's screen among much else, and the guest's screen is kept
within it.  Whatever stands around the size, it is found; and whatever the tool writes, the guest
gets a screen that is not empty and no larger than it was configured.

## Main Definitions

* `CommandBuilder.ShowsScreen` — a command line that keeps the guest's screen within the host's.
* `Service.probed` — what a service knows of the host's display.

## Main Statements

* `Resolution.ofSize?_current` — a size is read from its text.
* `Resolution.ofProbe?_current` — and found in the output of the tool.
* `CommandBuilder.showsScreen_of_build` — the screen in a command that was built.
* `Service.exists_build` — what a command of a service was built from.
* `Resolution.screen_spec` — the whole way from the output of the tool to the command line.
-/

namespace GuestSupervisor

open Text

namespace Resolution

/-! ## Reading the size -/

/-- A numeral with blanks around it is read as its number. -/
theorem readUInt32?_trim_decimal {lead tail : List Char} (before : ∀ c ∈ lead, isBlank c)
    (after : ∀ c ∈ tail, isBlank c) (n : UInt32) :
    readUInt32? (trim (lead ++ decimal n.toNat ++ tail)) = some n := by
  rw [trim_append before after (trim_eq_self_iff.mp (Configuration.trim_decimal _)),
    readUInt32?_decimal]

/-- **A size is read from its text**, whatever follows the comma. -/
theorem ofSize?_current (w h : UInt32) (rest : List Char) :
    ofSize? (decimal w.toNat ++ (" x ".toList ++ (decimal h.toNat ++ ',' :: rest)))
      = some ⟨w, h⟩ := by
  have none : ∀ n : UInt32, ∀ c : Char, c.isDigit = false → c ∉ decimal n.toNat := by
    intro n c other digit
    rw [isDigit_of_mem_decimal digit] at other
    cases other
  have size : (decimal w.toNat ++ (" x ".toList ++ (decimal h.toNat ++ ',' :: rest))).takeWhile
      (· != ',') = (decimal w.toNat ++ [' ']) ++ 'x' :: (' ' :: decimal h.toNat) := by
    have whole : decimal w.toNat ++ (" x ".toList ++ (decimal h.toNat ++ ',' :: rest))
        = ((decimal w.toNat ++ [' ']) ++ 'x' :: (' ' :: decimal h.toNat)) ++ ',' :: rest := by
      simp
    have noComma : ∀ c ∈ (decimal w.toNat ++ [' ']) ++ 'x' :: (' ' :: decimal h.toNat),
        (c != ',') = true := by
      intro c member
      rw [bne_iff_ne]
      rintro rfl
      simp [none w ',' (by decide), none h ',' (by decide)] at member
    rw [whole, List.takeWhile_append_of_pos noComma]
    simp
  have cut : segments 'x' ((decimal w.toNat ++ [' ']) ++ 'x' :: (' ' :: decimal h.toNat))
      = [decimal w.toNat ++ [' '], ' ' :: decimal h.toNat] := by
    rw [segments_append (by simp [none w 'x' (by decide)]),
      segments_of_not_mem (by simp [none h 'x' (by decide)])]
  have width : readUInt32? (trim (decimal w.toNat ++ [' '])) = some w :=
    readUInt32?_trim_decimal (List.forall_mem_nil _) (List.forall_mem_singleton.mpr (by decide)) w
  have height : readUInt32? (trim (' ' :: decimal h.toNat)) = some h := by
    have padded := readUInt32?_trim_decimal
      (List.forall_mem_singleton.mpr (show isBlank ' ' by decide)) (List.forall_mem_nil _) h
    rwa [List.append_nil, List.singleton_append] at padded
  unfold ofSize?
  rw [size, cut]
  simp [width, height]

/-- **The size is found in the output of the tool**, on the first line that begins with the word
for it, behind the first mention of the current size. -/
theorem ofProbe?_current (w h : UInt32) {before : List (List Char)} {front : List Char}
    (others : ∀ line ∈ before, '\n' ∉ line ∧ ¬"Screen ".toList <+: line) (oneLine : '\n' ∉ front)
    (unsaid : ¬"current ".toList <:+: front) (rest : List Char) :
    ofProbe? ((before.flatMap fun line => line ++ ['\n']) ++ ("Screen ".toList ++ (front
        ++ ("current ".toList ++ (decimal w.toNat ++ (" x ".toList
          ++ (decimal h.toNat ++ ',' :: rest)))))))
      = some ⟨w, h⟩ := by
  have noFeed : ∀ n : UInt32, '\n' ∉ decimal n.toNat := fun n member => by
    simpa using isDigit_of_mem_decimal member
  have start : '\n' ∉ "Screen ".toList ++ (front ++ ("current ".toList ++ (decimal w.toNat
      ++ (" x ".toList ++ decimal h.toNat)))) := by
    simp [oneLine, noFeed]
  obtain ⟨more, later, cut⟩ := exists_lines_append start (c := ',') (by decide) rest
  simp only [List.append_assoc] at cut
  have passed : (before.map dropReturn).find? ("Screen ".toList.isPrefixOf ·) = none := by
    refine List.find?_eq_none.mpr fun line member => ?_
    obtain ⟨written, inBefore, rfl⟩ := List.mem_map.mp member
    rw [List.isPrefixOf_iff_prefix]
    intro begins
    refine (others written inBefore).2 (begins.trans ?_)
    unfold dropReturn
    split
    · exact List.dropLast_prefix written
    · exact List.prefix_rfl
  -- The word cannot begin in the word that begins the line.
  have unsaid' : ¬"current ".toList <:+: "Screen ".toList ++ front := by
    simpa [List.infix_cons_iff] using unsaid
  have unbordered : Unbordered "current ".toList :=
    @unbordered_of_last "current".toList ' ' (by decide)
  have found := splitOnceOn_of_not_infix unbordered unsaid' (decimal w.toNat ++ (" x ".toList
    ++ (decimal h.toNat ++ ',' :: more)))
  rw [List.append_assoc] at found
  unfold ofProbe?
  rw [lines_flatMap_append before fun line member => (others line member).1, cut,
    List.find?_append, passed, Option.none_or, List.find?_cons_of_pos (by simp)]
  simp only [bind, Option.bind_some, found, ofSize?_current]

end Resolution

namespace CommandBuilder

variable {builder : CommandBuilder} {fs : FileSystem} {c : Configuration}
  {detected : Option Resolution} {command : EmulatorCommand}

/-- **A command line keeps the guest's screen within the host's**: its size is on the command line
once, it is not empty and no larger than it was configured; on either axis it is the smaller one of
the configured and the host's, if the host's is known and not empty, and otherwise the configured
one. -/
def ShowsScreen (arguments : List String) (c : Configuration) (detected : Option Resolution) :
    Prop :=
  ∃ r : Resolution,
    valuesOf "-g" arguments = [toString r.width.toNat ++ "x" ++ toString r.height.toNat ++ "x32"]
    ∧ (0 < r.width ∧ 0 < r.height)
    ∧ (r.width ≤ c.screenWidth ∧ r.height ≤ c.screenHeight)
    ∧ (∀ d, detected = some d → d.width ≠ 0 → d.height ≠ 0 →
        r = ⟨min c.screenWidth d.width, min c.screenHeight d.height⟩)
    ∧ ((∀ d, detected = some d → d.width = 0 ∨ d.height = 0) →
        r = ⟨c.screenWidth, c.screenHeight⟩)

/-- The size of the screen on a command line. -/
theorem valuesOf_screen_arguments (builder : CommandBuilder) (c : Configuration)
    (boot : BootDevice) (drives : List Drive) (r : Resolution) :
    valuesOf "-g" (builder.arguments c boot drives r) = [resolutionArgument r] := by
  rw [valuesOf, optionsIn_arguments]
  cases c.soundEnabled <;> simp [List.filter_map, Function.comp_def]

/-- **The size that is kept within the host's.** -/
theorem guestResolution_cases (c : Configuration) (detected : Option Resolution) :
    (∃ d, detected = some d ∧ d.width ≠ 0 ∧ d.height ≠ 0
        ∧ guestResolution c detected
          = ⟨min c.screenWidth d.width, min c.screenHeight d.height⟩)
      ∨ (∀ d, detected = some d → d.width = 0 ∨ d.height = 0)
        ∧ guestResolution c detected = ⟨c.screenWidth, c.screenHeight⟩ := by
  cases detected with
  | none => exact .inr ⟨by simp, rfl⟩
  | some d =>
    by_cases empty : d.width = 0 ∨ d.height = 0
    · refine .inr ⟨?_, if_pos empty⟩
      rintro _ ⟨⟩
      exact empty
    · obtain ⟨width, height⟩ := not_or.mp empty
      exact .inl ⟨d, rfl, width, height, if_neg empty⟩

/-- The smaller one of two sizes that are not empty is not empty and no larger than the first. -/
theorem min_size {a b : UInt32} (some : a ≠ 0) (some' : b ≠ 0) : 0 < min a b ∧ min a b ≤ a := by
  rw [show min a b = if a ≤ b then a else b from rfl]
  split
  · exact ⟨UInt32.pos_iff_ne_zero.mpr some, UInt32.le_refl a⟩
  · rename_i larger
    exact ⟨UInt32.pos_iff_ne_zero.mpr some', UInt32.le_of_lt (UInt32.not_le.mp larger)⟩

/-- **The screen in a command that was built.** -/
theorem showsScreen_of_build (valid : c.IsValid)
    (built : builder.build fs c detected = .ok command) :
    ShowsScreen command.arguments c detected := by
  have width : c.screenWidth ≠ 0 := valid.positive .screenWidth _ (by simp [Configuration.positives])
  have height : c.screenHeight ≠ 0 :=
    valid.positive .screenHeight _ (by simp [Configuration.positives])
  have screen : valuesOf "-g" command.arguments
      = [resolutionArgument (guestResolution c detected)] := by
    rw [build_eq] at built
    cases booted : effectiveBoot c.bootDevice (builder.attached fs c) with
    | error e =>
      rw [booted] at built
      cases built
    | ok boot =>
      rw [booted] at built
      cases built
      exact valuesOf_screen_arguments builder c boot _ _
  refine ⟨guestResolution c detected, screen, ?_⟩
  rcases guestResolution_cases c detected with ⟨d, rfl, known, known', same⟩ | ⟨unknown, same⟩
  · rw [same]
    obtain ⟨some, small⟩ := min_size width known
    obtain ⟨some', small'⟩ := min_size height known'
    refine ⟨⟨some, some'⟩, ⟨small, small'⟩, ?_, fun empty => ?_⟩
    · rintro _ ⟨⟩ - -
      rfl
    · exact absurd (empty d rfl) (not_or.mpr ⟨known, known'⟩)
  · rw [same]
    refine ⟨⟨UInt32.pos_iff_ne_zero.mpr width, UInt32.pos_iff_ne_zero.mpr height⟩,
      ⟨UInt32.le_refl _, UInt32.le_refl _⟩, fun d known some some' => ?_, fun _ => rfl⟩
    exact absurd (unknown d known) (not_or.mpr ⟨some, some'⟩)

end CommandBuilder

/-! ## Commands of a service -/

namespace Service

variable {service : Service} {host : Host} {command : EmulatorCommand} {c : Configuration}

/-- **What a service knows of the host's display**: what the tool says, if it is asked. -/
def probed (service : Service) (host : Host) : Option Resolution :=
  if service.settings.emulator.detectDisplay then (Resolution.ofHost? host).1 else none

/-- A command is built from the stored configuration and for the host's display. -/
theorem buildCommand_eq (service : Service) (host : Host) :
    ∃ files, (service.buildCommand host).1
      = (service.builder.build files (service.store.load host.files).configuration
          (service.probed host)).map (·, (service.store.load host.files).configuration) := by
  unfold buildCommand probed
  cases service.settings.emulator.detectDisplay with
  | false => exact ⟨host.files, by simp only [Bool.false_eq_true, if_false]⟩
  | true => exact ⟨(Resolution.ofHost? host).2.files, by simp only [if_true]⟩

/-- What is built comes with the configuration that it was built from. -/
theorem exists_build (built : (service.buildCommand host).1 = .ok (command, c)) :
    c = (service.store.load host.files).configuration
      ∧ ∃ files, service.builder.build files c (service.probed host) = .ok command := by
  obtain ⟨files, same⟩ := service.buildCommand_eq host
  rw [same] at built
  cases outcome : service.builder.build files (service.store.load host.files).configuration
      (service.probed host) with
  | error e =>
    rw [outcome] at built
    cases built
  | ok command' =>
    rw [outcome] at built
    cases built
    exact ⟨rfl, files, outcome⟩

end Service

/-! ## The whole way -/

/-- **The host's screen is found, and the guest's screen is kept within it.**  The size in the output
of the display tool is read whatever lines are before it, whatever else is on its line, and whatever
comes behind the comma.  Whatever the tool writes, and also if it is not there, the screen in a
command that is built for a valid configuration is not empty and no larger than configured; and every
command of a service is built for a valid configuration and for the screen that was found. -/
theorem Resolution.screen_spec :
    (∀ (w h : UInt32) (before : List (List Char)) (front rest : List Char),
      (∀ line ∈ before, '\n' ∉ line ∧ ¬"Screen ".toList <+: line) → '\n' ∉ front →
      ¬"current ".toList <:+: front →
      ofProbe? ((before.flatMap fun line => line ++ ['\n']) ++ ("Screen ".toList ++ (front
          ++ ("current ".toList ++ (decimal w.toNat ++ (" x ".toList
            ++ (decimal h.toNat ++ ',' :: rest)))))))
        = some ⟨w, h⟩)
      ∧ (∀ (builder : CommandBuilder) (fs : FileSystem) (c : Configuration)
          (output : Option (List Char)) (command : EmulatorCommand), c.validate = .ok () →
        builder.build fs c (output.bind ofProbe?) = .ok command →
        CommandBuilder.ShowsScreen command.arguments c (output.bind ofProbe?))
      ∧ ∀ (service : Service) (host : Host) (command : EmulatorCommand) (c : Configuration),
        (service.buildCommand host).1 = .ok (command, c) →
        c.validate = .ok ()
          ∧ CommandBuilder.ShowsScreen command.arguments c (service.probed host) := by
  refine ⟨fun w h before front rest others oneLine unsaid =>
    ofProbe?_current w h others oneLine unsaid rest, ?_, ?_⟩
  · intro builder fs c output command valid built
    exact CommandBuilder.showsScreen_of_build
      ((Configuration.validate_eq_ok_iff_isValid c).mp valid) built
  · intro service host command c built
    obtain ⟨rfl, files, outcome⟩ := Service.exists_build built
    have valid := (service.store.isNormal_load host.files).valid
    exact ⟨(Configuration.validate_eq_ok_iff_isValid _).mpr valid,
      CommandBuilder.showsScreen_of_build valid outcome⟩

/-- The output of a display tool: another line first, other sizes before and behind the current one,
which is far too wide and hardly high. -/
def wideProbe : List Char :=
  (["Monitors: 1".toList].flatMap fun line => line ++ ['\n']) ++ ("Screen ".toList
    ++ ("0: minimum 320 x 200, ".toList ++ ("current ".toList ++ (decimal (4294967295 : UInt32).toNat
      ++ (" x ".toList ++ (decimal (600 : UInt32).toNat
        ++ ',' :: " maximum 16384 x 16384\nScreen 1: current 1 x 1, ".toList))))))

/-- The guest gets the width that was configured and the height of the host's screen. -/
theorem Resolution.screen_spec_wide :
    ofProbe? wideProbe = some ⟨4294967295, 600⟩
      ∧ ∃ command, CommandBuilder.twoShelves.build CommandBuilder.firstMissing
          { secondaryDisk := some "b" } (some ⟨4294967295, 600⟩) = .ok command
        ∧ valuesOf "-g" command.arguments = ["1024x600x32"] := by
  obtain ⟨parsed, built, -⟩ := Resolution.screen_spec
  have read : ofProbe? wideProbe = some ⟨4294967295, 600⟩ :=
    parsed 4294967295 600 _ _ _ (by decide) (by decide) (by decide)
  have probe : (some wideProbe).bind ofProbe? = some ⟨4294967295, 600⟩ := read
  refine ⟨read, _, rfl, ?_⟩
  have shown := built CommandBuilder.twoShelves CommandBuilder.firstMissing
    { secondaryDisk := some "b" } (some wideProbe) _ rfl (by rw [probe]; rfl)
  rw [probe] at shown
  obtain ⟨r, size, -, -, same, -⟩ := shown
  rw [size, same _ rfl (by decide) (by decide)]
  decide

end GuestSupervisor
