import GuestSupervisor.Proofs.Command.OptionList
import GuestSupervisor.StandIn.Options
import Mathlib.Data.List.Infix

/-!
# The stand-in's reading of a built command line

The builder writes the path of the monitor's socket as the first field of an option list, with
its commas doubled, and the stand-in undoes that with a reader of its own.  It looks at every
argument for its switches, so nothing else that the builder writes may be taken for one: every
other argument is a word of the builder, begins with something else than a dash, or holds a comma,
but the name of the machine, which is whatever the settings say.

## Main Definitions

* `StandIn.switches` — the arguments that the stand-in knows.

## Main Statements

* `CommandBuilder.exists_arguments_eq` — where the arguments that matter stand.
* `StandIn.ofArguments?_arguments_iff` — the socket is found exactly when the machine is no switch.
* `StandIn.ofArguments?_build` — the stand-in opens the socket that the builder means.
-/

namespace GuestSupervisor

open Text

namespace StandIn

variable {argument : String} {arguments rest : List String}

/-! ## Switches -/

/-- **The arguments that the stand-in knows.** -/
def switches : List String := ["-monitor", "--ignore-quit", "--startup-delay-ms", "--exit-after-ms"]

theorem not_mem_switches_of_head (bare : argument.toList.head? ≠ some '-') :
    argument ∉ switches := by
  have dashed : ∀ switch ∈ switches, switch.toList.head? = some '-' := by decide
  exact fun member => bare (dashed argument member)

theorem not_mem_switches_of_comma (comma : ',' ∈ argument.toList) : argument ∉ switches := by
  have plain : ∀ switch ∈ switches, ',' ∉ switch.toList := by decide
  exact fun member => plain argument member comma

/-- What the stand-in does not know is passed over. -/
theorem Seen.read_cons_of_not_mem (seen : Seen) (unknown : argument ∉ switches) :
    seen.read (argument :: rest) = seen.read rest := by
  simp only [switches, List.mem_cons, List.not_mem_nil, or_false, not_or] at unknown
  obtain ⟨noMonitor, noIgnore, noDelay, noExit⟩ := unknown
  rw [Seen.read] <;> assumption

theorem Seen.read_append (seen : Seen) (unknown : ∀ a ∈ arguments, a ∉ switches) :
    seen.read (arguments ++ rest) = seen.read rest := by
  induction arguments with
  | nil => rfl
  | cons a arguments ih =>
    rw [List.forall_mem_cons] at unknown
    rw [List.cons_append, seen.read_cons_of_not_mem unknown.1, ih unknown.2]

end StandIn

namespace CommandBuilder

open StandIn

variable {builder : CommandBuilder} {fs : FileSystem} {c : Configuration}
  {detected : Option Resolution} {command : EmulatorCommand}

/-! ## What the builder writes -/

/-- The path is found in front of the option list's first single comma. -/
theorem monitorPath?_ofList (value : List Char) {tail after : List Char}
    (ends : tail = ',' :: after) (apart : after.head? ≠ some ',') :
    monitorPath? (String.ofList ("unix:".toList ++ OptionList.escape value ++ tail))
      = some (String.ofList value) := by
  rw [monitorPath?, String.toList_ofList (l := _ ++ tail), List.append_assoc,
    List.isPrefixOf?_eq_some_iff_append_eq.mpr rfl, Option.map_some, ends,
    OptionList.firstField_escape value apart]

/-- The stand-in finds the path in what the builder writes about the monitor. -/
theorem monitorPath?_monitorArgument (builder : CommandBuilder) :
    monitorPath? builder.monitorArgument = some builder.monitorSocket := by
  have ends : ",server,nowait".toList = ',' :: "server,nowait".toList := by decide
  have apart : "server,nowait".toList.head? ≠ some ',' := by decide
  have found := monitorPath?_ofList builder.monitorSocket.toList ends apart
  rw [String.ofList_toList (s := builder.monitorSocket)] at found
  exact found

/-- A numeral begins with no dash. -/
theorem head?_decimal_append (n : Nat) (rest : List Char) :
    (decimal n ++ rest).head? ≠ some '-' := by
  obtain ⟨digit, digits, written⟩ : ∃ digit digits, decimal n = digit :: digits :=
    List.exists_cons_of_ne_nil Nat.toDigits_ne_nil
  have isDigit : digit.isDigit := isDigit_of_mem_decimal (n := n) (by simp [written])
  rw [written, List.cons_append, List.head?_cons]
  rintro ⟨⟩
  simp at isDigit

/-- With its sound device a machine holds a comma. -/
theorem not_mem_switches_machineArgument (plain : builder.machine ∉ switches) :
    builder.machineArgument c ∉ switches := by
  unfold machineArgument
  split
  · exact not_mem_switches_of_comma (by simp)
  · exact plain

/-- **Where the arguments that matter stand**: the machine in front, the monitor somewhere behind
it, and nothing else that the stand-in knows. -/
theorem exists_arguments_eq (builder : CommandBuilder) (c : Configuration) (boot : BootDevice)
    (drives : List Drive) (r : Resolution) : ∃ between behind,
      builder.arguments c boot drives r
        = "-M" :: builder.machineArgument c :: "-m" :: between
          ++ "-monitor" :: builder.monitorArgument :: behind ∧
      (∀ a ∈ between, a ∉ switches) ∧ ∀ a ∈ behind, a ∉ switches := by
  refine ⟨[toString c.memoryMb.toNat, "-boot", String.ofList [boot.code], "-g",
      resolutionArgument r] ++ drives.flatMap (fun drive => ["-drive", drive.spec])
      ++ ["-vnc", ":" ++ toString c.displayIndex.toNat],
    (if c.soundEnabled then ["-audiodev", builder.audioBackend ++ ",id=" ++ soundDevice] else [])
      ++ ["-prom-env", "auto-boot?=true"], ?_, ?_, ?_⟩
  · simp [arguments]
  · have memory : toString c.memoryMb.toNat ∉ switches :=
      not_mem_switches_of_head (by simpa [Nat.repr, decimal] using head?_decimal_append _ [])
    have device : String.ofList [boot.code] ∉ switches := by
      cases boot <;> decide
    have screen : resolutionArgument r ∉ switches := by
      refine not_mem_switches_of_head ?_
      simpa [resolutionArgument, Nat.repr, decimal] using head?_decimal_append r.width.toNat
        ('x' :: (decimal r.height.toNat ++ ['x', '3', '2']))
    have drive (d : Drive) : d.spec ∉ switches := by
      refine not_mem_switches_of_head ?_
      rw [Drive.spec, String.toList_ofList]
      exact fun same => by cases same
    have display : ":" ++ toString c.displayIndex.toNat ∉ switches :=
      not_mem_switches_of_head (by simp)
    simp only [List.forall_mem_append, List.forall_mem_cons, List.mem_flatMap]
    refine ⟨⟨⟨memory, by decide, device, by decide, screen, by simp⟩, ?_⟩, by decide, display,
      by simp⟩
    rintro a ⟨d, -, member⟩
    simp only [List.mem_cons, List.not_mem_nil, or_false] at member
    rcases member with rfl | rfl
    · decide
    · exact drive d
  · rw [List.forall_mem_append]
    refine ⟨?_, by decide⟩
    have sound : builder.audioBackend ++ ",id=" ++ soundDevice ∉ switches :=
      not_mem_switches_of_comma (by simp)
    split
    · simp only [List.forall_mem_cons]
      exact ⟨by decide, sound, by simp⟩
    · simp

/-- A command that is built has the builder's arguments and its socket. -/
theorem arguments_of_build (built : builder.build fs c detected = .ok command) :
    ∃ boot, command.arguments
      = builder.arguments c boot (builder.attached fs c) (guestResolution c detected) := by
  simp only [build] at built
  cases boots : effectiveBoot c.bootDevice (builder.attached fs c) with
  | error e =>
    rw [boots] at built
    cases built
  | ok boot =>
    rw [boots] at built
    cases built
    exact ⟨boot, rfl⟩

end CommandBuilder

namespace StandIn

variable {builder : CommandBuilder} {fs : FileSystem} {c : Configuration}
  {detected : Option Resolution} {command : EmulatorCommand}

/-! ## What the stand-in makes of it -/

/-- What is behind the machine tells nothing but the socket. -/
theorem Seen.read_monitor (seen : Seen) (builder : CommandBuilder) {between behind : List String}
    (before : ∀ a ∈ between, a ∉ switches) (after : ∀ a ∈ behind, a ∉ switches) :
    seen.read (between ++ "-monitor" :: builder.monitorArgument :: behind)
      = some { seen with monitor := some builder.monitorSocket } := by
  rw [seen.read_append before, Seen.read, builder.monitorPath?_monitorArgument]
  simp only
  rw [← List.append_nil behind, Seen.read_append _ after, Seen.read]

/-- **The stand-in finds the socket and nothing else exactly when the machine is no switch.** -/
theorem ofArguments?_arguments_iff (builder : CommandBuilder) (c : Configuration)
    (boot : BootDevice) (drives : List Drive) (r : Resolution) :
    Options.ofArguments? (builder.arguments c boot drives r)
        = some ⟨builder.monitorSocket, false, 0, none⟩ ↔
      builder.machineArgument c ∉ switches := by
  obtain ⟨between, behind, written, before, after⟩ :=
    builder.exists_arguments_eq c boot drives r
  have model : ∀ seen : Seen, seen.read ("-m" :: (between
      ++ "-monitor" :: builder.monitorArgument :: behind))
        = some { seen with monitor := some builder.monitorSocket } := fun seen => by
    rw [seen.read_cons_of_not_mem (by decide), seen.read_monitor builder before after]
  rw [written]
  simp only [Options.ofArguments?, List.cons_append]
  rw [Seen.read_cons_of_not_mem _ (show "-M" ∉ switches by decide)]
  constructor
  · intro found known
    simp only [switches, List.mem_cons, List.not_mem_nil, or_false] at known
    -- A switch takes what follows it for its own argument, or it is obeyed.
    rcases known with known | known | known | known
    · rw [known, Seen.read, show monitorPath? "-m" = none by decide] at found
      cases found
    · rw [known, Seen.read, model] at found
      cases found
    · rw [known, Seen.read, show readUInt64? "-m".toList = none by decide] at found
      cases found
    · rw [known, Seen.read, show readUInt64? "-m".toList = none by decide] at found
      cases found
  · intro unknown
    rw [Seen.read_cons_of_not_mem _ unknown, model]
    rfl

/-- **The stand-in opens the socket that the builder means**, at once, for good and ready to quit:
whatever the path, the configuration, the display and the images are. -/
theorem ofArguments?_build (plain : builder.machine ∉ switches)
    (built : builder.build fs c detected = .ok command) :
    Options.ofArguments? command.arguments = some ⟨builder.monitorSocket, false, 0, none⟩ := by
  obtain ⟨boot, written⟩ := CommandBuilder.arguments_of_build built
  rw [written, ofArguments?_arguments_iff]
  exact CommandBuilder.not_mem_switches_machineArgument plain

/-- A builder whose socket's path begins and ends with a comma and holds two of them in a row. -/
def commas : CommandBuilder := ⟨"emulator", "mac99", ",a,,b,", "/disks", "/discs", "none"⟩

/-- A file system with one image. -/
def oneImage : FileSystem := ⟨[(["disks"], .directory), (["disks", "d"], .file [])], [], []⟩

/-- With the only image in place and sound, the path is found with all its commas. -/
theorem ofArguments?_build_commas :
    ∃ command,
      commas.build oneImage { primaryDisk := some "d", soundEnabled := true } none = .ok command ∧
      Options.ofArguments? command.arguments = some ⟨",a,,b,", false, 0, none⟩ := by
  obtain ⟨command, built⟩ : ∃ command, commas.build oneImage
      { primaryDisk := some "d", soundEnabled := true } none = .ok command := ⟨_, rfl⟩
  exact ⟨command, built, ofArguments?_build (by decide) built⟩

end StandIn

end GuestSupervisor
