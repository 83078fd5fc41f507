import GuestSupervisor.Proofs.Host.Aside
import GuestSupervisor.Proofs.Host.Tools
import GuestSupervisor.Proofs.Text.Lines
import GuestSupervisor.Service.Capture

/-!
# Taking pictures step by step

A raw picture comes from an emulator that may do anything, and is converted by a program that may do
anything but write files; and the host may refuse every step of replacing the picture before, and
the removal of the raw one.  What is done on a host that refuses nothing, in one go, is what is left
when these steps are over and what they returned is consumed.

## Main Definitions

* `Darkroom`, `Studio` — where pictures are converted and taken, of which nearly nothing is assumed.
* `Darkroom.convert`, `Studio.capture` — a picture, with the file that is written aside for it.
* `Darkroom.consume` — what an error holds is removed with it.
* `Screenshotter.Converted` — how a conversion may end.
* `Darkroom.ofHousing`, `Studio.ofSchedule` — those of the program.

## Main Statements

* `Darkroom.converted_convert`, `Studio.converted_captureFrom` — these are the ways it ends.
* `Darkroom.consume_convert_ofHousing` — the program converts pictures in this way.
* `Studio.consume_capture_ofSchedule` — it takes them in this way, too.
-/

namespace GuestSupervisor

open GuestSupervisor.Path FileSystem Text

/-! ## Where pictures are taken -/

/-- What a converter left behind, however it ended. -/
structure Conversion where
  success : Bool
  /-- How a message names its end. -/
  status : String
  output : List UInt8
  errors : List UInt8

/-- What a program of the host left behind. -/
def Conversion.ofCompleted (completed : Completed) : Conversion :=
  ⟨completed.success, completed.statusText, completed.output, completed.errors⟩

/-- **Where pictures are converted.**  A converter may do what it likes, or be none, but it writes
no files. -/
structure Darkroom (σ : Type) where
  files : σ → FileSystem
  withFiles : σ → FileSystem → σ
  /-- Runs a program on an input, if it can be spawned. -/
  run : String → List String → List UInt8 → σ → Except IoFailure Conversion × σ
  /-- The circumstances when a picture is about to be replaced. -/
  circumstances : σ → Circumstances
  /-- Whether the host refuses to remove a raw picture that it could remove. -/
  refusesRemoval : String → σ → Bool
  files_withFiles : ∀ s fs, files (withFiles s fs) = fs
  withFiles_withFiles : ∀ s fs fs', withFiles (withFiles s fs) fs' = withFiles s fs'
  files_run : ∀ program arguments input s, files (run program arguments input s).2 = files s

/-- **Where pictures are taken.**  While an emulator is asked for a raw picture or waited for, it
and anybody else may do anything to the files. -/
structure Studio (σ : Type) extends Darkroom σ where
  moment : σ → Timestamp
  /-- Asks the emulator to write a raw picture. -/
  ask : String → σ → Except ChannelError Unit × σ
  /-- Waits for a raw picture. -/
  wait : String → Milliseconds → σ → Bool × σ

/-- What a call returns.  An error may hold a file that was written aside. -/
structure Returned where
  value : Except ScreenshotError String
  held : Option Location := none

/-- The files when what was returned is consumed. -/
def Returned.settled (returned : Returned) (files : FileSystem) : FileSystem :=
  returned.held.elim files files.drop

namespace Screenshotter

/-- The name of the latest picture. -/
def latestName : String := "latest.png"

/-- What an error says of a picture that was not replaced. -/
def ofAside (shots : Screenshotter) : AsideFailure → ScreenshotError
  | .writing failure => .writeAside failure
  | .renaming failure => .replace shots.latestPath failure

end Screenshotter

/-- The name of a raw picture that is taken at a moment. -/
def Service.rawName (moment : Timestamp) : String := "screen-" ++ moment.compact ++ ".ppm"

namespace Darkroom

variable {σ : Type} (room : Darkroom σ) (shots : Screenshotter) (raw : String)

/-- Runs the converter on a raw picture. -/
def runConverter (s : σ) : Except ScreenshotError (List UInt8) × σ :=
  match shots.converter with
  | [] => (.error .noConverter, s)
  | program :: arguments =>
    match Screenshotter.openInput (room.files s) raw with
    | .error failure => (.error (.openInput raw failure), s)
    | .ok input =>
      match room.run program arguments input s with
      | (.error failure, s) => (.error (.spawnConverter program failure), s)
      | (.ok conversion, s) =>
        if conversion.success && !conversion.output.isEmpty then (.ok conversion.output, s)
        else
          let said := String.ofList (trim (Utf8.decodeLossy conversion.errors))
          (.error (.converterFailed program conversion.status said), s)

/-- **Makes the latest picture from a raw one**, which is written aside first. -/
def convert (s : σ) : Returned × σ :=
  match room.runConverter shots raw s with
  | (.error e, s) => (⟨.error e, none⟩, s)
  | (.ok picture, s) =>
    let r := (room.files s).replaceAside (room.circumstances s) shots.base shots.latestPath picture
    (⟨(r.result.mapError shots.ofAside).map fun _ => shots.latestPath, r.held⟩,
      room.withFiles s r.files)

/-- **Consumes what was returned**: what it holds is removed. -/
def consume (returned : Returned × σ) : Except ScreenshotError String × σ :=
  match returned with
  | (⟨value, none⟩, s) => (value, s)
  | (⟨value, some aside⟩, s) => (value, room.withFiles s ((room.files s).drop aside))

/-- Removes the raw picture, unless the host refuses to.  Nobody is told of that. -/
def remove (s : σ) : σ :=
  if room.refusesRemoval raw s then s else room.withFiles s ((room.files s).without raw)

/-- **A picture is the converter's**: the converter ran on the raw one, it succeeded, and the
picture is all of what it wrote, and not empty. -/
def Converts (s : σ) (picture : List UInt8) : Prop :=
  ∃ program arguments input conversion, shots.converter = program :: arguments
    ∧ Screenshotter.openInput (room.files s) raw = .ok input
    ∧ (room.run program arguments input s).1 = .ok conversion
    ∧ conversion.success ∧ conversion.output ≠ [] ∧ picture = conversion.output

end Darkroom

namespace Studio

variable {σ : Type} (studio : Studio σ) (shots : Screenshotter)

/-- Has a raw picture written and waits for it. -/
def attend (raw : String) (s : σ) : Except ScreenshotError Unit × σ :=
  match studio.ask raw s with
  | (.error e, s) => (.error (.screendump e), s)
  | (.ok (), s) =>
    match studio.wait raw shots.wait s with
    | (false, s) => (.error (.notWritten raw shots.wait), s)
    | (true, s) => (.ok (), s)

/-- Has a raw picture written and makes the latest one from it. -/
def captureFrom (raw : String) (s : σ) : Returned × σ :=
  match studio.attend shots raw s with
  | (.error e, s) => (⟨.error e, none⟩, s)
  | (.ok (), s) => studio.convert shots raw s

/-- **Takes a picture.**  The raw one is removed before anything is returned, whatever becomes of
it. -/
def capture (s : σ) : Returned × σ :=
  match (studio.files s).makeDirectories shots.directory with
  | (.error failure, fs) =>
    (⟨.error (.createDirectory shots.directory failure), none⟩, studio.withFiles s fs)
  | (.ok (), fs) =>
    let raw := Service.rawPicture shots (studio.moment s)
    let (returned, s) := studio.captureFrom shots raw (studio.withFiles s fs)
    (returned, studio.remove raw s)

end Studio

/-! ## Names of raw pictures -/

/-- **A name that a raw picture may have.** -/
structure IsRawName (raw : String) : Prop where
  isName : IsName raw
  clean : '\x00' ∉ raw.toList
  visible : raw.toList.head? ≠ some '.'
  other : raw ≠ Screenshotter.latestName

/-- A moment as part of a name is digits, dashes and dots. -/
theorem mem_compact {moment : Timestamp} {c : Char} (member : c ∈ moment.compact.toList) :
    c.isDigit ∨ c = '-' ∨ c = '.' := by
  have padded : ∀ {width n : Nat}, c ∈ padded width n → c.isDigit := by
    intro width n member
    rcases List.mem_append.mp member with zero | digit
    · rw [List.eq_of_mem_replicate zero]
      decide
    · exact isDigit_of_mem_decimal digit
  simp only [Timestamp.compact, String.toList_ofList, List.mem_append, List.mem_cons, or_assoc]
    at member
  rcases member with year | month | day | rfl | hour | minute | second | rfl | rest
  all_goals first
    | exact .inl (padded ‹_›)
    | simp

theorem isRawName_rawName (moment : Timestamp) : IsRawName (Service.rawName moment) := by
  have chars : ∀ c, ¬c.isDigit → c ∉ ['-', '.'] → c ∉ "screen-".toList → c ∉ ".ppm".toList →
      c ∉ (Service.rawName moment).toList := by
    intro c noDigit noMark noHead noTail member
    simp only [Service.rawName, String.toList_append, List.mem_append] at member
    rcases member with (head | middle) | tail
    · exact noHead head
    · rcases mem_compact middle with digit | mark
      · exact noDigit digit
      · exact noMark (by simpa using mark)
    · exact noTail tail
  have head : (Service.rawName moment).toList.head? = some 's' := by
    rw [Service.rawName, String.append_assoc, String.toList_append]
    rfl
  have differs : ∀ other : String, other.toList.head? ≠ some 's' →
      Service.rawName moment ≠ other := by
    rintro _ noHead rfl
    exact noHead head
  exact {
    isName := ⟨⟨differs "" (by decide), chars '/' (by decide) (by decide) (by decide) (by decide)⟩,
      differs "." (by decide), differs ".." (by decide)⟩
    clean := chars '\x00' (by decide) (by decide) (by decide) (by decide)
    visible := by rw [head]; decide
    other := differs _ (by decide) }

theorem isRawName_ne_latest {raw : String} (isRaw : IsRawName raw) (there : Location) :
    there ++ [raw] ≠ there ++ [Screenshotter.latestName] := by
  simpa using isRaw.other

/-! ## How a conversion ends -/

namespace Screenshotter

theorem isName_latestName : IsName latestName := ⟨⟨by decide, by decide⟩, by decide, by decide⟩

/-- **How a conversion may end**: nothing is done, or the new picture is handed back with an error,
or it replaces the latest one. -/
inductive Converted (shots : Screenshotter) (makes : List UInt8 → Prop) (before : FileSystem) :
    Returned → FileSystem → Prop
  | undone (e : ScreenshotError) : Converted shots makes before ⟨.error e, none⟩ before
  | held (e : ScreenshotError) {there : Location} {mark : String} {picture : List UInt8}
      (led : before.resolve shots.base true = .ok (there, some .directory))
      (absent : before.lookup (there ++ [asideName mark]) = none) :
      Converted shots makes before ⟨.error e, some (there ++ [asideName mark])⟩
        (before.put (there ++ [asideName mark]) (.file picture))
  | done {there : Location} {picture : List UInt8} (made : makes picture)
      (led : before.resolve shots.base true = .ok (there, some .directory))
      (named : before.resolve shots.latestPath false
        = .ok (there ++ [latestName], before.lookup (there ++ [latestName])))
      (notDirectory : before.lookup (there ++ [latestName]) ≠ some .directory) :
      Converted shots makes before ⟨.ok shots.latestPath, none⟩
        (before.put (there ++ [latestName]) (.file picture))

end Screenshotter

namespace Darkroom

variable {σ : Type} (room : Darkroom σ) (shots : Screenshotter) (raw : String) (s : σ)

/-- A converter changes no files, and a picture is what it wrote. -/
theorem runConverter_cases :
    room.files (room.runConverter shots raw s).2 = room.files s ∧
      ∀ picture, (room.runConverter shots raw s).1 = .ok picture →
        room.Converts shots raw s picture := by
  unfold runConverter Converts
  cases command : shots.converter with
  | nil => simp
  | cons program arguments =>
    cases opened : Screenshotter.openInput (room.files s) raw with
    | error failure => simp
    | ok input =>
      have unchanged := room.files_run program arguments input s
      cases ran : room.run program arguments input s with
      | mk outcome s' =>
        rw [ran] at unchanged
        cases outcome with
        | error failure => simpa [ran] using unchanged
        | ok conversion =>
          by_cases good : conversion.success && !conversion.output.isEmpty
          · simp only [ran, good, if_true]
            refine ⟨unchanged, fun picture same => ?_⟩
            obtain ⟨success, nonempty⟩ := Bool.and_eq_true_iff.mp good
            exact ⟨program, arguments, input, conversion, rfl, rfl, congrArg Prod.fst ran, success,
              by simpa using nonempty, (Except.ok.inj same).symm⟩
          · simpa [ran, good] using unchanged

/-- **How a conversion ends.** -/
theorem converted_convert :
    shots.Converted (room.Converts shots raw s) (room.files s) (room.convert shots raw s).1
      (room.files (room.convert shots raw s).2) := by
  obtain ⟨unchanged, converts⟩ := room.runConverter_cases shots raw s
  unfold convert
  cases ran : room.runConverter shots raw s with
  | mk outcome s' =>
    rw [ran] at unchanged converts
    simp only at unchanged
    cases outcome with
    | error e =>
      simp only [unchanged]
      exact .undone e
    | ok picture =>
      simp only [files_withFiles, unchanged]
      have replacing : Replacing (room.files s) shots.directory Screenshotter.latestName picture
          ((room.files s).replaceAside (room.circumstances s') shots.base shots.latestPath
            picture) :=
        replacing_replaceAside (room.circumstances s') Screenshotter.isName_latestName (by decide)
          (by decide)
      generalize (room.files s).replaceAside (room.circumstances s') shots.base shots.latestPath
        picture = replaced at replacing ⊢
      cases replacing with
      | undone failure => exact .undone _
      | held failure led absent => exact .held _ led absent
      | done led named notDirectory => exact .done (converts picture rfl) led named notDirectory

@[simp] theorem consume_fst (returned : Returned) :
    (room.consume (returned, s)).1 = returned.value := by
  obtain ⟨value, held⟩ := returned
  cases held <;> rfl

@[simp] theorem files_consume (returned : Returned) :
    room.files (room.consume (returned, s)).2 = returned.settled (room.files s) := by
  obtain ⟨value, held⟩ := returned
  cases held with
  | none => rfl
  | some aside => exact room.files_withFiles _ _

/-- **What is left of a conversion** when what it returned is consumed. -/
theorem consume_convert :
    room.consume (room.convert shots raw s) =
      match room.runConverter shots raw s with
      | (.error e, s) => (.error e, s)
      | (.ok picture, s) =>
        let r := (room.files s).replaceAside (room.circumstances s) shots.base shots.latestPath
          picture
        ((r.result.mapError shots.ofAside).map fun _ => shots.latestPath,
          room.withFiles s r.settled) := by
  unfold convert
  split
  · rfl
  · rename_i picture s' ran
    simp only [Replaced.settled]
    cases held : ((room.files s').replaceAside (room.circumstances s') shots.base shots.latestPath
        picture).held with
    | none => rfl
    | some aside => simp [consume, room.files_withFiles, room.withFiles_withFiles]

end Darkroom

namespace Studio

variable {σ : Type} (studio : Studio σ) (shots : Screenshotter) (raw : String) (s : σ)

/-- **How taking a picture ends**, from when nobody else is asked or waited for any more. -/
theorem converted_captureFrom :
    shots.Converted (studio.Converts shots raw (studio.attend shots raw s).2)
      (studio.files (studio.attend shots raw s).2) (studio.captureFrom shots raw s).1
      (studio.files (studio.captureFrom shots raw s).2) := by
  unfold captureFrom
  cases studio.attend shots raw s with
  | mk attended s' =>
    cases attended with
    | error e => exact .undone e
    | ok => exact studio.converted_convert shots raw s'

variable {fs : FileSystem}

theorem capture_of_error {failure : IoFailure}
    (outcome : (studio.files s).makeDirectories shots.directory = (.error failure, fs)) :
    studio.capture shots s =
      (⟨.error (.createDirectory shots.directory failure), none⟩, studio.withFiles s fs) := by
  rw [capture, outcome]

/-- Where the directory can be made, a picture is taken and the raw one is removed. -/
theorem capture_of_ok
    (outcome : (studio.files s).makeDirectories shots.directory = (.ok (), fs)) :
    let raw := join shots.directory (Service.rawName (studio.moment s))
    let captured := studio.captureFrom shots raw (studio.withFiles s fs)
    studio.capture shots s = (captured.1, studio.remove raw captured.2) := by
  rw [capture, outcome]
  rfl

end Studio

/-! ## The program's own pictures -/

/-- **Something that has a host.** -/
structure Housing (σ : Type) where
  host : σ → Host
  withHost : σ → Host → σ
  host_withHost : ∀ s h, host (withHost s h) = h
  withHost_withHost : ∀ s h h', withHost (withHost s h) h' = withHost s h'
  withHost_host : ∀ s, withHost s (host s) = s

/-- A host by itself. -/
def Housing.ofHost : Housing Host :=
  ⟨id, fun _ h => h, fun _ _ => rfl, fun _ _ _ => rfl, fun _ => rfl⟩

/-- The host of a schedule. -/
def Housing.ofSchedule : Housing Supervisor.Schedule :=
  ⟨(·.system.host), .withHost, fun _ _ => rfl, fun _ _ _ => rfl, fun _ => rfl⟩

/-- **The darkroom of a host**, which refuses nothing of its own accord. -/
def Darkroom.ofHousing {σ : Type} (housing : Housing σ) (mark : FileSystem → String) :
    Darkroom σ where
  files s := (housing.host s).files
  withFiles s fs := housing.withHost s { housing.host s with files := fs }
  run program arguments input s :=
    (((housing.host s).run program arguments input).1.map Conversion.ofCompleted,
      housing.withHost s ((housing.host s).run program arguments input).2)
  circumstances s := { mark := mark (housing.host s).files }
  refusesRemoval _ _ := false
  files_withFiles s fs := by rw [housing.host_withHost]
  withFiles_withFiles s fs fs' := by
    rw [housing.withHost_withHost, housing.host_withHost]
  files_run program arguments input s := by rw [housing.host_withHost, Host.run_snd]

/-- **The studio of the program**: its emulator is asked, and its clock is waited by. -/
def Studio.ofSchedule (mark : FileSystem → String) : Studio Supervisor.Schedule where
  toDarkroom := .ofHousing .ofSchedule mark
  moment w := ⟨w.system.now⟩
  ask raw w :=
    ((w.dispatch none (.screendump (.text raw))).1.outcome.map fun _ => (),
      (w.dispatch none (.screendump (.text raw))).2)
  wait raw bound w := w.waitForFile raw bound

namespace Darkroom

variable {σ : Type} (housing : Housing σ) {mark : FileSystem → String} (shots : Screenshotter)
  (raw : String) (s : σ)

/-- The converter is run as the program runs it. -/
theorem runConverter_ofHousing :
    (ofHousing housing mark).runConverter shots raw s =
      ((shots.runConverter raw (housing.host s)).1,
        housing.withHost s (shots.runConverter raw (housing.host s)).2) := by
  unfold runConverter Screenshotter.runConverter
  cases shots.converter with
  | nil => simp [housing.withHost_host]
  | cons program arguments =>
    simp only [ofHousing]
    cases Screenshotter.openInput (housing.host s).files raw with
    | error failure => simp [housing.withHost_host]
    | ok input =>
      simp only
      cases (housing.host s).run program arguments input with
      | mk outcome host =>
        cases outcome with
        | error failure => rfl
        | ok completed =>
          simp only [Except.map, Conversion.ofCompleted]
          split <;> rfl

/-- **The program converts pictures** in this way, whatever free names it takes. -/
theorem consume_convert_ofHousing (fresh : FreshMarks mark) :
    (ofHousing housing mark).consume ((ofHousing housing mark).convert shots raw s) =
      ((shots.convert raw (housing.host s)).1,
        housing.withHost s (shots.convert raw (housing.host s)).2) := by
  rw [consume_convert, runConverter_ofHousing]
  unfold Screenshotter.convert
  cases shots.runConverter raw (housing.host s) with
  | mk outcome host =>
    cases outcome with
    | error e => rfl
    | ok picture =>
      have steps := settled_replaceAside (fresh host.files) (orHere shots.directory)
        (join shots.directory "latest.png") picture
      obtain ⟨results, settled⟩ := Prod.mk.inj steps
      simp only [ofHousing, housing.host_withHost, housing.withHost_withHost, Screenshotter.base,
        Screenshotter.latestPath, results, settled]
      cases host.files.listDirectory (orHere shots.directory) with
      | error failure => rfl
      | ok entries =>
        cases host.files.replaceFile (join shots.directory "latest.png") picture <;> rfl

end Darkroom

namespace Studio

variable {mark : FileSystem → String}

/-- What is handed back does not get in the way when the raw picture is removed. -/
theorem consume_remove {σ : Type} (studio : Studio σ) {shots : Screenshotter} {raw : String}
    {makes : List UInt8 → Prop} {before : FileSystem} {returned : Returned} {s : σ}
    (removes : ∀ raw s, studio.refusesRemoval raw s = false) (isRaw : IsRawName raw)
    (converted : shots.Converted makes before returned (studio.files s)) :
    studio.consume (returned, studio.remove (join shots.directory raw) s) =
      ((studio.consume (returned, s)).1,
        studio.remove (join shots.directory raw) (studio.consume (returned, s)).2) := by
  generalize files_eq : studio.files s = files at converted
  cases converted with
  | undone | done => rfl
  | @held e there mark picture led absent =>
    have removed : ∀ s, studio.remove (join shots.directory raw) s
        = studio.withFiles s ((studio.files s).without (join shots.directory raw)) :=
      fun s => if_neg (by simp [removes])
    have commutes := drop_without led absent isRaw.isName isRaw.clean
      (ne_asideName there isRaw.visible mark) (.file picture)
    simp only [Darkroom.consume, removed, studio.files_withFiles,
      studio.withFiles_withFiles, files_eq, commutes, drop_put absent]

theorem consume_captureFrom_ofSchedule (fresh : FreshMarks mark) (shots : Screenshotter)
    (raw : String) (w : Supervisor.Schedule) :
    (ofSchedule mark).consume ((ofSchedule mark).captureFrom shots raw w)
      = Service.captureFrom shots raw w := by
  unfold captureFrom attend Service.captureFrom
  simp only [ofSchedule]
  cases w.dispatch none (.screendump (.text raw)) with
  | mk exchange asked =>
    cases exchange.outcome with
    | error e => rfl
    | ok reply =>
      simp only [Except.map]
      cases asked.waitForFile raw shots.wait with
      | mk seen waited =>
        cases seen with
        | false => rfl
        | true => exact Darkroom.consume_convert_ofHousing .ofSchedule shots raw waited fresh

/-- **The program takes pictures** in this way, whatever free names it takes. -/
theorem consume_capture_ofSchedule (fresh : FreshMarks mark) (service : Service)
    (w : Supervisor.Schedule) :
    (ofSchedule mark).consume ((ofSchedule mark).capture service.screenshots w)
      = service.capture w := by
  have isRaw := isRawName_rawName ((ofSchedule mark).moment w)
  cases outcome : w.system.host.files.makeDirectories service.screenshots.directory with
  | mk result files =>
    have outcome' : ((ofSchedule mark).files w).makeDirectories service.screenshots.directory
        = (result, files) := outcome
    cases result with
    | error failure =>
      rw [capture_of_error _ _ _ outcome', Service.capture]
      simp only [outcome]
      rfl
    | ok =>
      rw [capture_of_ok _ _ _ outcome',
        consume_remove (ofSchedule mark) (fun _ _ => rfl) isRaw
          ((ofSchedule mark).converted_captureFrom _ _ _),
        Service.capture]
      simp only [outcome, ← consume_captureFrom_ofSchedule fresh]
      rfl

end Studio

end GuestSupervisor
