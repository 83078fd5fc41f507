import GuestSupervisor.Proofs.Monitor.Command
import GuestSupervisor.Proofs.Text.Blank
import GuestSupervisor.Proofs.Text.Lines
import GuestSupervisor.Proofs.Text.Words

/-!
# Listed devices are read

The listing tool prints a device on a line, with words between its numbers, its ids and its name.
A name may hold the same words, and the lines in between may hold anything.  The reader cuts at the
first occurrence of each word, and in front of it there are only numbers, so the words in a name do
not mislead it; and whatever a text is, only what looks like a device is read from it.

## Main Definitions

* `UsbDevice.IsListed` — a device as the tool knows it.
* `UsbDevice.Tells`, `UsbDevice.Lists` — a line and a text that list devices.
* `UsbDevice.Shows` — a line on which a device can be seen.

## Main Statements

* `UsbDevice.ofLine?_line` — a device is read from its line.
* `UsbDevice.shows_of_ofLine?` — what is read stands on the line.
* `UsbDevice.ofListing_spec` — what is listed is read, and what is read can be sent to a monitor.
-/

namespace GuestSupervisor

open Text

/-! ## Ids in lower case -/

/-- The sixteen digits in one spelling. -/
def lowerHexDigits : List Char := "0123456789abcdef".toList

theorem mem_hexDigits_of_lower {c : Char} (lower : c ∈ lowerHexDigits) : c ∈ hexDigits := by
  have all : lowerHexDigits ⊆ hexDigits := by decide
  exact all lower

theorem toLower_mem_of_hexDigit {c : Char} (digit : c ∈ hexDigits) :
    c.toLower ∈ lowerHexDigits := by
  have all : hexDigits.map Char.toLower ⊆ lowerHexDigits := by decide
  exact all (List.mem_map_of_mem digit)

/-- **An id in lower case.** -/
def IsLowerId (id : String) : Prop := id.toList.length = 4 ∧ ∀ c ∈ id.toList, c ∈ lowerHexDigits

theorem IsLowerId.isUsbId {id : String} (lower : IsLowerId id) : IsUsbId id :=
  ⟨lower.1, fun c member => mem_hexDigits_of_lower (lower.2 c member)⟩

/-- An id that is put in lower case. -/
theorem isLowerId_of_isUsbId {id : String} (proper : IsUsbId id) :
    IsLowerId (String.ofList (asciiLower id.toList)) := by
  refine ⟨by simp [asciiLower, proper.1], fun c member => ?_⟩
  rw [String.toList_ofList] at member
  obtain ⟨d, inId, rfl⟩ := List.mem_map.mp member
  exact toLower_mem_of_hexDigit (proper.2 d inId)

namespace UsbDevice

variable {d : UsbDevice} {line text lead tail : List Char} {devices : List UsbDevice}

/-! ## What is listed -/

/-- **A device as the listing tool knows it**: numbers in digits, ids in any case and both in one
text, and a name on one line without blanks around it. -/
structure IsListed (d : UsbDevice) : Prop where
  bus : ∀ c ∈ d.bus.toList, c.isDigit
  device : ∀ c ∈ d.device.toList, c.isDigit
  vendorId : IsUsbId d.vendorId
  productId : IsUsbId d.productId
  id : d.id = d.vendorId ++ ":" ++ d.productId
  trimmed : IsTrimmed d.name.toList
  oneLine : '\n' ∉ d.name.toList

/-- The device with its ids in lower case. -/
def lowered (d : UsbDevice) : UsbDevice :=
  { d with
    vendorId := String.ofList (asciiLower d.vendorId.toList)
    productId := String.ofList (asciiLower d.productId.toList)
    id := String.ofList (asciiLower d.id.toList) }

/-- **What a line of a listing tells**: a device, with blanks around, or nothing, if the line does
not begin like that of a device. -/
inductive Tells : List Char → Option UsbDevice → Prop
  | device {d : UsbDevice} {lead tail : List Char} (listed : d.IsListed)
      (before : ∀ c ∈ lead, isBlank c ∧ c ≠ '\n') (after : ∀ c ∈ tail, isBlank c ∧ c ≠ '\n') :
      Tells (lead ++ d.line ++ tail) (some d)
  | other {line : List Char} (oneLine : '\n' ∉ line)
      (noDevice : ¬"Bus ".toList <+: trimStart line) : Tells line none

/-- **A text lists devices**, line by line; the last line may go without its end. -/
inductive Lists : List Char → List UsbDevice → Prop
  | last {line : List Char} {d : Option UsbDevice} (tells : Tells line d) : Lists line d.toList
  | cons {line rest : List Char} {d : Option UsbDevice} {devices : List UsbDevice}
      (tells : Tells line d) (others : Lists rest devices) :
      Lists (line ++ '\n' :: rest) (d.toList ++ devices)

/-! ## Reading a line -/

/-- Blanks around a line do not show. -/
theorem ofLine?_congr {line' : List Char} (same : trim line = trim line') :
    ofLine? line = ofLine? line' := by
  rw [ofLine?, ofLine?, same]

/-- The ids and the name at the end of a line. -/
def ending (d : UsbDevice) : List Char :=
  d.id.toList ++ (if d.name.isEmpty then [] else ' ' :: d.name.toList)

theorem line_eq (d : UsbDevice) :
    d.line = "Bus ".toList ++ (d.bus.toList ++ (" Device ".toList
      ++ (d.device.toList ++ (": ID ".toList ++ d.ending)))) := by
  unfold UsbDevice.line ending
  rw [List.append_assoc, List.append_assoc, List.append_assoc, List.append_assoc,
    List.append_assoc]

theorem not_mem_id {c : Char} (listed : d.IsListed) (other : c ∉ hexDigits) (notColon : c ≠ ':') :
    c ∉ d.id.toList := by
  simp [listed.id, listed.vendorId.not_mem other, listed.productId.not_mem other, notColon]

/-- **The id is cut off the name.** -/
theorem cut_ending (listed : d.IsListed) :
    (splitOnce ' ' d.ending).getD (d.ending, []) = (d.id.toList, d.name.toList) := by
  have noBlank : ' ' ∉ d.id.toList := not_mem_id listed (by decide) (by decide)
  unfold ending
  split
  · rename_i unnamed
    have none : splitOnce ' ' d.id.toList = none := by
      refine Option.eq_none_iff_forall_ne_some.mpr fun (before, after) cut => noBlank ?_
      rw [(splitOnce_eq_some_iff.mp cut).1]
      simp
    rw [List.append_nil, none, Option.getD_none, String.isEmpty_iff.mp unnamed]
    rfl
  · rw [splitOnce_append noBlank, Option.getD_some]

/-- The last character of a line is no blank. -/
theorem isTrimmed_line (listed : d.IsListed) : IsTrimmed d.line where
  head := by
    intro c first
    obtain rfl : 'B' = c := by
      rw [line_eq] at first
      simpa using first
    decide
  last := by
    intro c last
    have nonempty : d.ending ≠ [] := by simp [ending, listed.id]
    simp only [line_eq, ← List.append_assoc] at last
    rw [List.getLast?_append_of_ne_nil _ nonempty] at last
    have hex : ∀ d ∈ hexDigits, (!isBlank d) = true := List.all_eq_true.mp (by decide)
    unfold ending at last
    split at last
    · -- Without a name the line ends with the product.
      have some : d.productId.toList ≠ [] := by
        intro empty
        simpa [empty] using listed.productId.1
      rw [List.append_nil, listed.id, String.toList_append,
        List.getLast?_append_of_ne_nil _ some] at last
      simpa using hex c (listed.productId.2 c (List.mem_of_getLast? last))
    · rename_i named
      have some : d.name.toList ≠ [] := by simpa using named
      rw [List.getLast?_append_of_ne_nil _ (List.cons_ne_nil _ _),
        List.getLast?_cons_of_ne_nil some] at last
      exact listed.trimmed.last c last

/-- **A device is read from its line**, whatever its name holds. -/
theorem ofLine?_line (listed : d.IsListed) : ofLine? d.line = some d.lowered := by
  have noBlank : ' ' ∉ d.bus.toList := fun member => by simpa using listed.bus _ member
  have noColon : ':' ∉ d.device.toList := fun member => by simpa using listed.device _ member
  have noColon' : ':' ∉ d.vendorId.toList := listed.vendorId.not_mem (by decide)
  have begins : "Bus ".toList.isPrefixOf? d.line
      = some (d.bus.toList ++ (" Device ".toList
        ++ (d.device.toList ++ (": ID ".toList ++ d.ending)))) :=
    List.isPrefixOf?_eq_some_iff_append_eq.mpr (line_eq d).symm
  have first := splitOnceOn_of_not_mem noBlank "Device ".toList
    (d.device.toList ++ (": ID ".toList ++ d.ending))
  have second := splitOnceOn_of_not_mem noColon " ID ".toList d.ending
  have ids : splitOnce ':' d.id.toList = some (d.vendorId.toList, d.productId.toList) := by
    have whole : d.id.toList = d.vendorId.toList ++ ':' :: d.productId.toList := by
      simp [listed.id]
    rw [whole, splitOnce_append noColon']
  have proper := isUsbId_iff.mpr listed.vendorId
  have proper' := isUsbId_iff.mpr listed.productId
  unfold ofLine?
  rw [trim_of_isTrimmed (isTrimmed_line listed), begins]
  simp only [bind, Option.bind_some]
  rw [show " Device ".toList = ' ' :: "Device ".toList from rfl, first]
  simp only [Option.bind_some]
  rw [show ": ID ".toList = ':' :: " ID ".toList from rfl, second]
  simp only [Option.bind_some, cut_ending listed, ids, proper, proper', Bool.and_self, if_true,
    String.ofList_toList, trim_of_isTrimmed listed.trimmed, lowered]

/-! ## What is read -/

/-- **A device can be seen on a line**: its numbers between the words, its ids in any case, and
behind a blank its name, if it has one. -/
def Shows (line : List Char) (d : UsbDevice) : Prop :=
  ∃ vendor product : String, ∃ rest : List Char,
    trim line = "Bus ".toList ++ (d.bus.toList ++ (" Device ".toList ++ (d.device.toList
      ++ (": ID ".toList ++ ((vendor ++ ":" ++ product).toList ++ rest)))))
    ∧ IsUsbId vendor ∧ IsUsbId product
    ∧ asciiLower (vendor ++ ":" ++ product).toList = d.id.toList
    ∧ d.vendorId.toList = asciiLower vendor.toList ∧ d.productId.toList = asciiLower product.toList
    ∧ (rest = [] ∧ d.name = "" ∨ ∃ name, rest = ' ' :: name ∧ d.name.toList = trim name)

/-- What is cut at the first blank, if there is one. -/
theorem cut_cases (text : List Char) :
    ∃ id name tail, (splitOnce ' ' text).getD (text, []) = (id, name) ∧ text = id ++ tail
      ∧ (tail = [] ∧ name = [] ∨ tail = ' ' :: name) := by
  cases cut : splitOnce ' ' text with
  | none => exact ⟨text, [], [], rfl, by simp, .inl ⟨rfl, rfl⟩⟩
  | some pieces =>
    obtain ⟨id, name⟩ := pieces
    exact ⟨id, name, ' ' :: name, rfl, (splitOnce_eq_some_iff.mp cut).1, .inr rfl⟩

/-- **What is read from a line can be seen on it.** -/
theorem shows_of_ofLine? (read : ofLine? line = some d) : Shows line d := by
  simp only [ofLine?, bind, Option.bind_eq_some_iff] at read
  obtain ⟨rest, begins, ⟨bus, rest'⟩, first, ⟨device, rest''⟩, second, ⟨vendor, product⟩, ids,
    checked⟩ := read
  obtain ⟨id, name, tail, cut, whole, named⟩ := cut_cases rest''
  simp only [cut] at ids checked
  obtain ⟨rfl, -⟩ := splitOnce_eq_some_iff.mp ids
  have whole' : trim line = "Bus ".toList ++ (bus ++ (" Device ".toList ++ (device
      ++ (": ID ".toList ++ (vendor ++ ':' :: product ++ tail))))) := by
    have behind : rest' = device ++ (": ID ".toList ++ rest'') := append_of_splitOnceOn second
    rw [← List.isPrefixOf?_eq_some_iff_append_eq.mp begins, append_of_splitOnceOn first,
      behind, whole]
  split at checked
  · rename_i proper
    rw [Bool.and_eq_true] at proper
    cases checked
    refine ⟨String.ofList vendor, String.ofList product, tail, ?_, ?_, ?_, ?_, ?_, ?_, ?_⟩
    · rw [whole']
      simp
    · exact isUsbId_iff.mp (by simpa using proper.1)
    · exact isUsbId_iff.mp (by simpa using proper.2)
    · simp
    · simp
    · simp
    · rcases named with ⟨rfl, rfl⟩ | rfl
      · exact .inl ⟨rfl, rfl⟩
      · exact .inr ⟨name, rfl, by simp⟩
  · cases checked

/-- **What is seen on a line has ids in lower case.** -/
theorem Shows.isLowerId (shows : Shows line d) : IsLowerId d.vendorId ∧ IsLowerId d.productId := by
  obtain ⟨vendor, product, -, -, proper, proper', -, lower, lower', -⟩ := shows
  rw [← String.ofList_toList (s := d.vendorId), ← String.ofList_toList (s := d.productId), lower,
    lower']
  exact ⟨isLowerId_of_isUsbId proper, isLowerId_of_isUsbId proper'⟩

/-- What is seen on a line is known by both of its ids. -/
theorem Shows.id_eq (shows : Shows line d) : d.id = d.vendorId ++ ":" ++ d.productId := by
  obtain ⟨vendor, product, -, -, -, -, both, lower, lower', -⟩ := shows
  rw [← String.toList_inj, ← both]
  simp [lower, lower', asciiLower]

/-! ## Reading a listing -/

/-- A line feed ends a line; the carriage return before it does not show. -/
theorem ofLine?_dropReturn (line : List Char) : ofLine? (dropReturn line) = ofLine? line := by
  refine ofLine?_congr ?_
  unfold dropReturn
  split
  · rename_i ended
    obtain ⟨front, rfl⟩ := List.getLast?_eq_some_iff.mp ended
    rw [List.dropLast_concat, trim_append_of_blank (List.forall_mem_singleton.mpr (by decide))]
  · rfl

/-- **What a line tells is read from it.** -/
theorem Tells.ofLine? {d : Option UsbDevice} (tells : Tells line d) :
    ofLine? line = d.map lowered := by
  cases tells with
  | @device d lead tail listed before after =>
    have core : trim (lead ++ d.line ++ tail) = trim d.line := by
      rw [trim_append (fun c member => (before c member).1) (fun c member => (after c member).1)
        (isTrimmed_line listed), trim_of_isTrimmed (isTrimmed_line listed)]
    rw [ofLine?_congr core, ofLine?_line listed, Option.map_some]
  | other oneLine noDevice =>
    have begins : "Bus ".toList.isPrefixOf? (trim line) = none := by
      refine Option.eq_none_iff_forall_ne_some.mpr fun rest begins => noDevice ?_
      have whole := List.isPrefixOf?_eq_some_iff_append_eq.mp begins
      exact (List.prefix_append _ rest).trans (whole ▸ List.rdropWhile_prefix isBlank _)
    unfold UsbDevice.ofLine?
    rw [begins]
    rfl

theorem Tells.oneLine {d : Option UsbDevice} (tells : Tells line d) : '\n' ∉ line := by
  cases tells with
  | @device d lead tail listed before after =>
    have noFeed : '\n' ∉ d.line := by
      have bus : '\n' ∉ d.bus.toList := fun member => by simpa using listed.bus _ member
      have device : '\n' ∉ d.device.toList := fun member => by simpa using listed.device _ member
      have id : '\n' ∉ d.id.toList := not_mem_id listed (by decide) (by decide)
      unfold UsbDevice.line
      split <;> simp [bus, device, id, listed.oneLine]
    simp only [List.mem_append, not_or]
    exact ⟨⟨fun member => (before _ member).2 rfl, noFeed⟩, fun member => (after _ member).2 rfl⟩
  | other oneLine noDevice => exact oneLine

/-- **What a text lists is read from it.** -/
theorem Lists.ofListing (lists : Lists text devices) : ofListing text = devices.map lowered := by
  have one : ∀ {line : List Char} {d : Option UsbDevice} {others : List (List Char)},
      UsbDevice.ofLine? line = d.map lowered →
        (line :: others).filterMap UsbDevice.ofLine?
          = d.toList.map lowered ++ others.filterMap UsbDevice.ofLine? := by
    intro line d others read
    cases d <;> simp [read]
  induction lists with
  | @last line d tells =>
    rw [UsbDevice.ofListing, lines_of_not_mem tells.oneLine]
    split
    · rename_i empty
      have read := tells.ofLine?
      subst empty
      cases d with
      | none => rfl
      | some d => cases read
    · rw [one tells.ofLine?]
      simp
  | cons tells others ih =>
    rw [UsbDevice.ofListing, lines_append_feed tells.oneLine,
      one ((ofLine?_dropReturn _).trans tells.ofLine?), List.map_append, ← ih, UsbDevice.ofListing]

/-- **What is listed is read, and what is read can be sent to a monitor.**  Of a text that lists
devices, on lines between others, exactly these devices are read, in their order and with their ids
in lower case.  Of any text at all, what is read stands on a line of it, has ids of four digits in
lower case, is known by both of them, and both the line that hands it to the guest and the line that
takes it away are accepted. -/
theorem ofListing_spec :
    (∀ text devices, Lists text devices → ofListing text = devices.map lowered)
      ∧ ∀ text, ∀ d ∈ ofListing text,
        (∃ line ∈ lines text, Shows line d)
        ∧ IsLowerId d.vendorId ∧ IsLowerId d.productId
        ∧ d.id = d.vendorId ++ ":" ++ d.productId
        ∧ (∃ line, (ControlCommand.usbAttach d.vendorId d.productId).line? = .ok line)
        ∧ ∃ line, (ControlCommand.usbDetach d.vendorId d.productId).line? = .ok line := by
  refine ⟨fun text devices lists => lists.ofListing, fun text d member => ?_⟩
  obtain ⟨line, inText, read⟩ := List.mem_filterMap.mp member
  have shows := shows_of_ofLine? read
  obtain ⟨lower, lower'⟩ := shows.isLowerId
  exact ⟨⟨line, inText, shows⟩, lower, lower', shows.id_eq,
    ⟨_, ControlCommand.line?_usbAttach_iff.mpr ⟨⟨lower.isUsbId, lower'.isUsbId⟩, rfl⟩⟩,
    ⟨_, ControlCommand.line?_usbDetach_iff.mpr ⟨⟨lower.isUsbId, lower'.isUsbId⟩, rfl⟩⟩⟩

/-- A device whose name looks like another device, with one id in capitals. -/
def hub : UsbDevice :=
  ⟨"001", "002", "0A5C", "4500", "Hub Device 3: ID 0000:0000", "0A5C:4500"⟩

/-- A device without a name. -/
def nameless : UsbDevice := ⟨"003", "004", "05ac", "12a8", "", "05ac:12a8"⟩

/-- A listing with a heading, blanks around a line and no end of the last line. -/
def headedListing : List Char :=
  "Devices:".toList ++ '\n' ::
    ("  ".toList ++ hub.line ++ " \r".toList ++ '\n' :: ([] ++ nameless.line ++ []))

/-- Neither the name nor the heading misleads the reader, and what it reads can be sent. -/
theorem ofListing_spec_headed :
    Lists headedListing [hub, nameless]
      ∧ ofListing headedListing
        = [⟨"001", "002", "0a5c", "4500", "Hub Device 3: ID 0000:0000", "0a5c:4500"⟩, nameless]
      ∧ IsLowerId nameless.vendorId
      ∧ ∃ line, (ControlCommand.usbDetach nameless.vendorId nameless.productId).line?
        = .ok line := by
  have digits : ∀ text : String, text.toList.all Char.isDigit → ∀ c ∈ text.toList, c.isDigit :=
    fun _ => List.all_eq_true.mp
  have isUsbId : ∀ id : String, id.toList.length = 4 → id.toList ⊆ hexDigits → IsUsbId id :=
    fun _ four hex => ⟨four, fun _ member => hex member⟩
  have hubListed : hub.IsListed :=
    ⟨digits _ (by decide), digits _ (by decide), isUsbId _ (by decide) (by decide),
      isUsbId _ (by decide) (by decide), rfl, trim_eq_self_iff.mp (by decide), by decide⟩
  have namelessListed : nameless.IsListed :=
    ⟨digits _ (by decide), digits _ (by decide), isUsbId _ (by decide) (by decide),
      isUsbId _ (by decide) (by decide), rfl, trim_eq_self_iff.mp (by decide), by decide⟩
  have blank : ∀ text : List Char, text.all (fun c => isBlank c && c != '\n') →
      ∀ c ∈ text, isBlank c ∧ c ≠ '\n' := by simp
  have lists : Lists headedListing [hub, nameless] :=
    .cons (.other (by decide) (by decide))
      (.cons (.device hubListed (blank _ (by decide)) (blank _ (by decide)))
        (.last (.device namelessListed (blank _ (by decide)) (blank _ (by decide)))))
  have read := ofListing_spec.1 _ _ lists
  have sound := ofListing_spec.2 headedListing nameless (by rw [read]; decide)
  exact ⟨lists, by rw [read]; decide, sound.2.1, sound.2.2.2.2.2⟩

end UsbDevice

end GuestSupervisor
