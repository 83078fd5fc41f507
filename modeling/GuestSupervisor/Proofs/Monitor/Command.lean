import GuestSupervisor.Monitor.Command
import GuestSupervisor.Proofs.Command.OptionList
import Mathlib.Tactic.SplitIfs

/-!
# Commands are read back from their lines

A command has a line unless an argument of it could not stand there, and the line is one line.  What
the command was is read from it: the words before the arguments tell the kinds apart, a path is all
that is behind its word, and the ids are found in the name of the device since an id has four
characters.

## Main Definitions

* `IsUsbId` — four hexadecimal digits.
* `ControlCommand.Refused` — the commands that have no line.
* `ControlCommand.addedAs?`, `ControlCommand.removed?` — the device that a line names.
* `ControlCommand.ofLine?` — the command of a line.

## Main Statements

* `ControlCommand.exists_error_iff` — which commands have no line.
* `ControlCommand.oneLine_of_line?` — a line is one line.
* `ControlCommand.ofLine?_of_line?` — a command is read back from its line.
-/

namespace GuestSupervisor

open Text

/-! ## Ids -/

/-- The sixteen digits, six of them in two spellings. -/
def hexDigits : List Char := "0123456789abcdefABCDEF".toList

/-- **An id is four hexadecimal digits.** -/
def IsUsbId (id : String) : Prop := id.toList.length = 4 ∧ ∀ c ∈ id.toList, c ∈ hexDigits

theorem isHexDigit_iff {c : Char} : isHexDigit c = true ↔ c ∈ hexDigits := by
  by_cases ascii : c.toNat < 128
  · have small : ∀ n < 128, isHexDigit (Char.ofNat n) = true ↔ Char.ofNat n ∈ hexDigits := by
      decide +kernel
    simpa only [Char.ofNat_toNat] using small c.toNat ascii
  · -- Every digit is in the first half of the bytes, and so is everything below one.
    have halved : hexDigits.all (fun d => d.toNat < 128) := by decide
    have low : ∀ d ∈ hexDigits, d.toNat < 128 := by simpa only [List.all_eq_true,
      decide_eq_true_eq] using halved
    have above : ∀ d ∈ hexDigits, ¬c ≤ d := fun d member below =>
      ascii (Nat.lt_of_le_of_lt (UInt32.le_iff_toNat_le.mp below) (low d member))
    refine iff_of_false ?_ fun member => ascii (low c member)
    simp only [isHexDigit, hexValue?, above '9' (by decide), above 'f' (by decide),
      above 'F' (by decide), and_false, if_false, Option.isSome_none, Bool.false_eq_true,
      not_false_iff]

theorem isUsbId_iff {id : String} : isUsbId id.toList = true ↔ IsUsbId id := by
  simp only [isUsbId, IsUsbId, Bool.and_eq_true, beq_iff_eq, List.all_eq_true, isHexDigit_iff]

/-- What is no digit is not in an id. -/
theorem IsUsbId.not_mem {id : String} (proper : IsUsbId id) {c : Char} (other : c ∉ hexDigits) :
    c ∉ id.toList :=
  fun member => other (proper.2 c member)

namespace ControlCommand

variable {command command' : ControlCommand} {line vendor product path : String}

/-! ## Lines -/

theorem checkUsbId_eq_ok_iff {id : String} : checkUsbId id = .ok () ↔ IsUsbId id := by
  rw [← isUsbId_iff, checkUsbId]
  split <;> simp [*]

theorem line?_screendump_iff :
    (screendump (.text path)).line? = .ok line ↔
      ('\n' ∉ path.toList ∧ '\r' ∉ path.toList) ∧ line = "screendump " ++ path := by
  have broken : path.toList.any (fun c => c == '\n' || c == '\r') = true ↔
      '\n' ∈ path.toList ∨ '\r' ∈ path.toList := by
    simp only [List.any_eq_true, Bool.or_eq_true, beq_iff_eq]
    constructor
    · rintro ⟨c, member, rfl | rfl⟩
      · exact .inl member
      · exact .inr member
    · rintro (member | member)
      · exact ⟨_, member, .inl rfl⟩
      · exact ⟨_, member, .inr rfl⟩
  rw [← not_or, ← broken, line?, pathOnLine?]
  split_ifs with found <;> simp [found, eq_comm]

/-- What is written once both ids are checked is written if they are ids. -/
theorem checked_eq_ok_iff {text : String} :
    (do checkUsbId vendor; checkUsbId product; .ok text : Except ChannelError String) = .ok line ↔
      (IsUsbId vendor ∧ IsUsbId product) ∧ line = text := by
  rw [← checkUsbId_eq_ok_iff, ← checkUsbId_eq_ok_iff]
  cases checkUsbId vendor <;> cases checkUsbId product <;> simp [bind, Except.bind, eq_comm]

theorem line?_usbAttach_iff :
    (usbAttach vendor product).line? = .ok line ↔ (IsUsbId vendor ∧ IsUsbId product) ∧
      line = "device_add usb-host,vendorid=0x" ++ vendor ++ ",productid=0x" ++ product ++ ",id="
        ++ usbDeviceName vendor product :=
  checked_eq_ok_iff

theorem line?_usbDetach_iff :
    (usbDetach vendor product).line? = .ok line ↔ (IsUsbId vendor ∧ IsUsbId product) ∧
      line = "device_del " ++ usbDeviceName vendor product :=
  checked_eq_ok_iff

/-- **The commands that have no line**: the path is broken over lines or is no text, or an id is
none. -/
def Refused : ControlCommand → Prop
  | screendump (.text path) => '\n' ∈ path.toList ∨ '\r' ∈ path.toList
  | screendump (.undecodable _) => True
  | usbAttach vendor product | usbDetach vendor product => ¬IsUsbId vendor ∨ ¬IsUsbId product
  | quit | reset | pause | resume | status => False

/-- **Which commands have no line.** -/
theorem exists_error_iff : (∃ e, command.line? = .error e) ↔ command.Refused := by
  have unspoken : (∃ e, command.line? = .error e) ↔ ¬∃ line, command.line? = .ok line := by
    cases command.line? <;> simp
  rw [unspoken, not_iff_comm]
  cases command with
  | quit | reset | pause | resume | status => simp [Refused, line?]
  | screendump path =>
    cases path with
    | text path => simp [line?_screendump_iff, Refused]
    | undecodable shown => simp [Refused, line?, pathOnLine?]
  | usbAttach vendor product => simp [line?_usbAttach_iff, Refused]
  | usbDetach vendor product => simp [line?_usbDetach_iff, Refused]

/-- **A line is one line.** -/
theorem oneLine_of_line? (spoken : command.line? = .ok line) :
    '\n' ∉ line.toList ∧ '\r' ∉ line.toList := by
  have noFeed {id : String} (proper : IsUsbId id) : '\n' ∉ id.toList :=
    proper.not_mem (by decide)
  have noReturn {id : String} (proper : IsUsbId id) : '\r' ∉ id.toList :=
    proper.not_mem (by decide)
  cases command with
  | quit | reset | pause | resume | status =>
    cases spoken
    decide
  | screendump path =>
    cases path with
    | text path =>
      obtain ⟨whole, rfl⟩ := line?_screendump_iff.mp spoken
      simpa using whole
    | undecodable shown => cases spoken
  | usbAttach vendor product =>
    obtain ⟨⟨proper, proper'⟩, rfl⟩ := line?_usbAttach_iff.mp spoken
    simp [usbDeviceName, noFeed proper, noFeed proper', noReturn proper, noReturn proper']
  | usbDetach vendor product =>
    obtain ⟨⟨proper, proper'⟩, rfl⟩ := line?_usbDetach_iff.mp spoken
    simp [usbDeviceName, noFeed proper, noFeed proper', noReturn proper, noReturn proper']

/-! ## The device that a line names -/

/-- **The name that a line gives the device it adds**: the value of `id` among its options. -/
def addedAs? (line : List Char) : Option (List Char) :=
  ("device_add ".toList.isPrefixOf? line).bind fun options =>
    (OptionList.fields options).findSome? ("id=".toList.isPrefixOf? ·)

/-- **The name of the device that a line removes.** -/
def removed? (line : List Char) : Option (List Char) := "device_del ".toList.isPrefixOf? line

/-- The ids in the name of a device. -/
def idsOfName? (name : List Char) : Option (String × String) :=
  ("usbdev_".toList.isPrefixOf? name).map fun ids =>
    (String.ofList (ids.take 4), String.ofList (ids.drop 5))

/-- **The ids are found in the name** that is made of them. -/
theorem idsOfName?_usbDeviceName (proper : IsUsbId vendor) (product : String) :
    idsOfName? (usbDeviceName vendor product).toList = some (vendor, product) := by
  have whole : (usbDeviceName vendor product).toList
      = "usbdev_".toList ++ (vendor.toList ++ '_' :: product.toList) := by
    simp [usbDeviceName]
  rw [idsOfName?, whole, List.isPrefixOf?_eq_some_iff_append_eq.mpr rfl, Option.map_some,
    List.take_left' proper.1, ← List.singleton_append, ← List.append_assoc,
    List.drop_left' (by simp [proper.1]), String.ofList_toList, String.ofList_toList]

/-- **Devices with one name are one device.** -/
theorem usbDeviceName_inj {vendor' product' : String} (proper : IsUsbId vendor)
    (proper' : IsUsbId vendor') :
    usbDeviceName vendor product = usbDeviceName vendor' product' ↔
      vendor = vendor' ∧ product = product' := by
  constructor
  · intro same
    have read := idsOfName?_usbDeviceName proper product
    rw [same, idsOfName?_usbDeviceName proper'] at read
    exact (Prod.mk.inj (Option.some.inj read)).imp Eq.symm Eq.symm
  · rintro ⟨rfl, rfl⟩
    rfl

/-- The options on the line that adds a device. -/
def addOptions (vendor product : String) : List (List Char) :=
  ["usb-host".toList, "vendorid=0x".toList ++ vendor.toList,
    "productid=0x".toList ++ product.toList,
    "id=".toList ++ (usbDeviceName vendor product).toList]

theorem fields_addOptions (vendor product : String) :
    OptionList.fields (OptionList.ofValues (addOptions vendor product))
      = addOptions vendor product :=
  OptionList.fields_ofValues _ (by simp [OptionList.Opens])

/-- **A device is added under its name.** -/
theorem addedAs?_of_line? (spoken : (usbAttach vendor product).line? = .ok line) :
    addedAs? line.toList = some (usbDeviceName vendor product).toList := by
  obtain ⟨⟨proper, proper'⟩, rfl⟩ := line?_usbAttach_iff.mp spoken
  -- Ids hold no commas, so the options stand on the line as they are.
  have plain : ',' ∉ vendor.toList ∧ ',' ∉ product.toList :=
    ⟨proper.not_mem (by decide), proper'.not_mem (by decide)⟩
  have written : ("device_add usb-host,vendorid=0x" ++ vendor ++ ",productid=0x" ++ product
        ++ ",id=" ++ usbDeviceName vendor product).toList
      = "device_add ".toList ++ OptionList.ofValues (addOptions vendor product) := by
    simp [addOptions, OptionList.ofValues, OptionList.escape_of_not_mem, usbDeviceName, plain]
  rw [addedAs?, written, List.isPrefixOf?_eq_some_iff_append_eq.mpr rfl, Option.bind_some,
    fields_addOptions]
  rfl

/-- **A device is removed under its name.** -/
theorem removed?_of_line? (spoken : (usbDetach vendor product).line? = .ok line) :
    removed? line.toList = some (usbDeviceName vendor product).toList := by
  obtain ⟨-, rfl⟩ := line?_usbDetach_iff.mp spoken
  rw [removed?, String.toList_append]
  exact List.isPrefixOf?_eq_some_iff_append_eq.mpr rfl

/-! ## The command of a line -/

/-- The lines of the commands without arguments. -/
def bareLines : List (List Char × ControlCommand) :=
  [("quit".toList, .quit), ("system_reset".toList, .reset), ("stop".toList, .pause),
    ("cont".toList, .resume), ("info status".toList, .status)]

/-- **The command of a line.** -/
def ofLine? (line : List Char) : Option ControlCommand :=
  bareLines.lookup line
    <|> ("screendump ".toList.isPrefixOf? line).map (fun path => .screendump (.text (.ofList path)))
    <|> ((addedAs? line).bind idsOfName?).map (fun (vendor, product) => .usbAttach vendor product)
    <|> ((removed? line).bind idsOfName?).map (fun (vendor, product) => .usbDetach vendor product)

/-- A line about a device is not read as another command. -/
theorem ofLine?_of_device {line rest : List Char} (begins : line = "device_".toList ++ rest) :
    ofLine? line
      = (((addedAs? line).bind idsOfName?).map (fun (vendor, product) =>
          usbAttach vendor product)
        <|> ((removed? line).bind idsOfName?).map (fun (vendor, product) =>
          usbDetach vendor product)) := by
  have bare : bareLines.lookup line = none := by
    rw [begins]
    rfl
  have other : "screendump ".toList.isPrefixOf? line = none := by
    rw [begins]
    rfl
  rw [ofLine?, bare, other]
  rfl

/-- **A command is read back from its line.** -/
theorem ofLine?_of_line? (spoken : command.line? = .ok line) :
    ofLine? line.toList = some command := by
  cases command with
  | quit | reset | pause | resume | status =>
    cases spoken
    decide
  | screendump path =>
    cases path with
    | text path =>
      obtain ⟨-, rfl⟩ := line?_screendump_iff.mp spoken
      have bare : bareLines.lookup ("screendump ".toList ++ path.toList) = none := rfl
      rw [ofLine?, String.toList_append, bare, List.isPrefixOf?_eq_some_iff_append_eq.mpr rfl,
        Option.map_some, String.ofList_toList]
      rfl
    | undecodable shown => cases spoken
  | usbAttach vendor product =>
    have added := addedAs?_of_line? spoken
    obtain ⟨⟨proper, -⟩, rfl⟩ := line?_usbAttach_iff.mp spoken
    rw [ofLine?_of_device (by simp only [String.toList_append, List.append_assoc]; rfl), added,
      Option.bind_some, idsOfName?_usbDeviceName proper]
    rfl
  | usbDetach vendor product =>
    have removed := removed?_of_line? spoken
    obtain ⟨⟨proper, -⟩, rfl⟩ := line?_usbDetach_iff.mp spoken
    have added : addedAs? ("device_del " ++ usbDeviceName vendor product).toList = none := by
      rw [String.toList_append]
      rfl
    rw [ofLine?_of_device (by rw [String.toList_append]; rfl), added, removed, Option.bind_some,
      idsOfName?_usbDeviceName proper]
    rfl

/-- **Commands with one line are one command.** -/
theorem eq_of_line?_eq (spoken : command.line? = .ok line) (spoken' : command'.line? = .ok line) :
    command = command' :=
  Option.some.inj ((ofLine?_of_line? spoken).symm.trans (ofLine?_of_line? spoken'))

end ControlCommand

end GuestSupervisor
