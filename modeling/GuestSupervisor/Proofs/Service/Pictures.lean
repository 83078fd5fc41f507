import GuestSupervisor.Proofs.Service.Studio

/-!
# What becomes of pictures

Whatever the emulator and the converter do and whatever the host refuses, a new picture replaces the
latest one or the latest one stays.  Once what was returned is consumed, no other file has been
written and none that was written aside is left, and the raw picture is gone unless the host refuses
to remove it.  There is one exception: where the path of the directory of pictures leads through the
latest picture, which then is a link, a new picture is in the way afterwards.

## Main Definitions

* `Screenshotter.IsEntry` — the place of an entry of the directory of pictures.
* `Screenshotter.Circles` — the way to the directory leads through one of its own entries.
* `Screenshotter.Outcome` — what becomes of the files.

## Main Statements

* `Screenshotter.not_circles_of_noLink` — only a link is in the way.
* `Screenshotter.Converted.outcome` — a conversion replaces the latest picture or nothing.
* `Studio.pictures_spec` — so do `convert` and `capture`, and the raw picture is removed.
-/

namespace GuestSupervisor

open GuestSupervisor.Path FileSystem Text

/-! ## What becomes of the files -/

namespace Screenshotter

variable (shots : Screenshotter)

/-- **The place of an entry of the directory of pictures.** -/
def IsEntry (fs : FileSystem) (name : String) (place : Location) : Prop :=
  ∃ there, fs.resolve shots.base true = .ok (there, some .directory) ∧ place = there ++ [name]

/-- **The way to the directory of pictures leads through one of its own entries.** -/
def Circles (fs : FileSystem) (name : String) : Prop :=
  ∃ place, shots.IsEntry fs name place ∧ fs.LeadsThrough shots.base place

/-- **A place is as it was**, or it is that of a raw picture and empty. -/
def Leaves (raw? : Option String) (before after : FileSystem) (place : Location) : Prop :=
  after.lookup place = before.lookup place
    ∨ after.lookup place = none ∧ ∃ raw ∈ raw?, shots.IsEntry before raw place

/-- **What becomes of the files**, from before a call to when it returns and to when what it
returned has been consumed.  An error leaves everything as it was, and otherwise nothing but the
latest picture is another.  Only a raw picture does not stay: it is gone when the call returns. -/
structure Outcome (makes : List UInt8 → Prop) (raw? : Option String)
    (before returned after : FileSystem) (result : Except ScreenshotError String) : Prop where
  failed : ∀ e, result = .error e →
    (∀ latest, shots.IsEntry before latestName latest →
      after.lookup latest = before.lookup latest)
    ∧ ∀ place, shots.Leaves raw? before after place
  made : ∀ path, result = .ok path → path = shots.latestPath ∧ ∃ picture latest, makes picture
    ∧ shots.IsEntry before latestName latest ∧ after.lookup latest = some (.file picture)
    ∧ (∀ place, place ≠ latest → shots.Leaves raw? before after place)
    ∧ ((∀ name, name = latestName ∨ name ∈ raw? → ¬shots.Circles before name) →
      after.readBytes path = .ok picture)
  removed : ∀ raw ∈ raw?, (∃ e, result = .error e) ∨ ¬shots.Circles before latestName →
    ∀ place node, before.resolve (join shots.directory raw) false = .ok (place, some node) →
      node ≠ .directory → returned.lookup place = none ∧ after.lookup place = none

/-- The files when the raw picture, if there is one, has been removed. -/
def cleared (fs : FileSystem) : Option String → FileSystem
  | none => fs
  | some raw => fs.without (join shots.directory raw)

variable {shots} {makes : List UInt8 → Prop} {before files : FileSystem} {raw name : String}
  {there place : Location} {raw? : Option String}

/-! ## Entries of the directory -/

/-- **Only a link is in the way.** -/
theorem not_circles_of_noLink
    (noLink : ∀ place target, shots.IsEntry before name place →
      before.lookup place ≠ some (.link target)) : ¬shots.Circles before name := by
  rintro ⟨_, ⟨there, led, rfl⟩, leads⟩
  have reached := (resolve_eq led before true).1
  have same := leads.eq_of_follow (noLink _ · ⟨there, led, rfl⟩) reached
  simpa using congrArg List.length same

/-- What a name in the directory of pictures leads to is an entry of that directory. -/
theorem isEntry_of_resolve (isRaw : IsRawName raw) {node : Option Node}
    (resolved : before.resolve (join shots.directory raw) false = .ok (place, node)) :
    shots.IsEntry before raw place := by
  obtain ⟨there, led⟩ := exists_directory_of_join isRaw.isName resolved
  rw [resolve_join led isRaw.isName isRaw.clean] at resolved
  split_ifs at resolved
  cases resolved
  exact ⟨there, led, rfl⟩

/-- A raw picture is not the latest one. -/
theorem not_isEntry_latest (isRaw : IsRawName raw)
    (latest : shots.IsEntry before latestName place) : ¬shots.IsEntry before raw place := by
  obtain ⟨there, led, rfl⟩ := latest
  rintro ⟨there', led', same⟩
  obtain rfl : there = there' := congrArg Prod.fst (Except.ok.inj (led.symm.trans led'))
  exact isRawName_ne_latest isRaw there same.symm

/-- An entry of the directory when the latest picture was replaced is one before. -/
theorem IsEntry.of_put {picture : List UInt8}
    (notDirectory : before.lookup place ≠ some .directory) {here : Location}
    (entry : shots.IsEntry (before.put place (.file picture)) name here) :
    shots.IsEntry before name here := by
  obtain ⟨there, led, rfl⟩ := entry
  exact ⟨there, resolve_of_put notDirectory led, rfl⟩

/-! ## Outcomes -/

/-- Only the raw picture is removed. -/
theorem leaves_cleared (isRaw : ∀ raw ∈ raw?, IsRawName raw) (place : Location) :
    shots.Leaves raw? files (shots.cleared files raw?) place := by
  cases raw? with
  | none => exact .inl rfl
  | some raw =>
    rw [cleared, without_eq]
    split
    · rename_i found node resolved
      split
      · exact .inl rfl
      · rename_i removable
        by_cases itself : place = found
        · subst itself
          have there := lookup_of_follow (resolve_eq resolved files true).1
          have below := ne_nil_of_lookup (by rw [there]; simpa using removable)
          exact .inr ⟨lookup_drop_self below, raw, rfl, isEntry_of_resolve (isRaw raw rfl) resolved⟩
        · exact .inl (lookup_drop_of_ne itself)
    · exact .inl rfl

/-- The latest picture is not removed. -/
theorem lookup_cleared_latest (isRaw : ∀ raw ∈ raw?, IsRawName raw)
    (latest : shots.IsEntry files latestName place) :
    (shots.cleared files raw?).lookup place = files.lookup place :=
  (leaves_cleared isRaw place).resolve_right fun ⟨_, raw, known, entry⟩ =>
    not_isEntry_latest (isRaw raw known) latest entry

/-- The raw picture is removed, unless it is a directory. -/
theorem lookup_cleared_of_resolve {node : Node}
    (resolved : files.resolve (join shots.directory raw) false = .ok (place, some node))
    (notDirectory : node ≠ .directory) : (shots.cleared files (some raw)).lookup place = none := by
  have found : files.lookup place = some node := lookup_of_follow (resolve_eq resolved files true).1
  rw [cleared, without_eq, resolved]
  simp only [if_neg notDirectory]
  exact lookup_drop_self (ne_nil_of_lookup (by rw [found]; simpa using notDirectory))

/-- **An error leaves everything as it was.** -/
theorem outcome_of_error (e : ScreenshotError) (isRaw : ∀ raw ∈ raw?, IsRawName raw)
    (same : ∀ raw ∈ raw?, files.resolve (join shots.directory raw) false
      = before.resolve (join shots.directory raw) false) :
    shots.Outcome makes raw? before (shots.cleared files raw?) (shots.cleared before raw?)
      (.error e) where
  failed := fun _ _ => ⟨fun _ latest => lookup_cleared_latest isRaw latest, leaves_cleared isRaw⟩
  made := fun _ same => by cases same
  removed := by
    rintro raw rfl - place node resolved notDirectory
    exact ⟨lookup_cleared_of_resolve ((same raw rfl).trans resolved) notDirectory,
      lookup_cleared_of_resolve resolved notDirectory⟩

/-- What is handed back with an error is gone with it. -/
theorem settled_held {mark : String} {picture : List UInt8} {e : ScreenshotError}
    (isRaw : ∀ raw ∈ raw?, IsRawName raw)
    (led : before.resolve shots.base true = .ok (there, some .directory))
    (absent : before.lookup (there ++ [asideName mark]) = none) :
    Returned.settled ⟨.error e, some (there ++ [asideName mark])⟩
      (shots.cleared (before.put (there ++ [asideName mark]) (.file picture)) raw?)
      = shots.cleared before raw? := by
  cases raw? with
  | none => exact drop_put absent _
  | some raw =>
    have raw' := isRaw raw rfl
    exact drop_without led absent raw'.isName raw'.clean (ne_asideName there raw'.visible mark) _

/-- **The new picture is read**, if the way to it is as it was. -/
theorem readBytes_latestPath {picture : List UInt8} {after : FileSystem}
    (led : before.resolve shots.base true = .ok (there, some .directory))
    (named : before.resolve shots.latestPath false
      = .ok (there ++ [latestName], before.lookup (there ++ [latestName])))
    (led' : after.resolve shots.base true = .ok (there, some .directory))
    (replaced : after.lookup (there ++ [latestName]) = some (.file picture)) :
    after.readBytes shots.latestPath = .ok picture := by
  have before_eq := resolve_join led isName_latestName (by decide)
  have after_eq := resolve_join led' isName_latestName (by decide)
  rw [show join shots.directory latestName = shots.latestPath from rfl] at before_eq after_eq
  rw [named] at before_eq
  split_ifs at before_eq after_eq
  exact readBytes_of_resolve (after_eq.trans (by rw [replaced]))

/-- **The directory is found again** when a new picture is there and the raw one is gone, if its
path leads through neither of them. -/
theorem resolve_cleared {picture : List UInt8} (isRaw : ∀ raw ∈ raw?, IsRawName raw)
    (led : before.resolve shots.base true = .ok (there, some .directory))
    (notDirectory : before.lookup (there ++ [latestName]) ≠ some .directory)
    (direct : ∀ name, name = latestName ∨ name ∈ raw? → ¬shots.Circles before name) :
    (shots.cleared (before.put (there ++ [latestName]) (.file picture)) raw?).resolve shots.base
      true = .ok (there, some .directory) := by
  have avoids : ∀ name, name = latestName ∨ name ∈ raw? →
      ¬before.LeadsThrough shots.base (there ++ [name]) :=
    fun name known leads => direct name known ⟨_, ⟨there, led, rfl⟩, leads⟩
  have led' : (before.put (there ++ [latestName]) (.file picture)).resolve shots.base true
      = .ok (there, some .directory) :=
    resolve_put_of_avoids notDirectory (avoids latestName (.inl rfl)) led
  cases raw? with
  | none => exact led'
  | some raw =>
    have raw' := isRaw raw rfl
    have off := isRawName_ne_latest raw' there
    rw [cleared, without_eq, resolve_join led' raw'.isName raw'.clean, lookup_put_of_ne off]
    split
    · rename_i place node resolved
      split
      · exact led'
      · rename_i removable
        split_ifs at resolved
        obtain ⟨rfl, found⟩ := Prod.mk.inj (Except.ok.inj resolved)
        have removed : before.lookup (there ++ [raw]) ≠ some .directory := by
          rw [found]
          simpa using removable
        rw [drop_put_of_ne off.symm]
        refine resolve_put_of_avoids ?_ (fun leads => avoids latestName (.inl rfl) ?_)
          (resolve_drop_of_avoids removed (avoids raw (.inr rfl)) led)
        · rwa [lookup_drop_of_ne off.symm]
        · exact passes_of_drop removed leads
    · exact led'

/-- **A new picture is all that is new.** -/
theorem outcome_of_replaced {picture : List UInt8} (isRaw : ∀ raw ∈ raw?, IsRawName raw)
    (made : makes picture) (led : before.resolve shots.base true = .ok (there, some .directory))
    (named : before.resolve shots.latestPath false
      = .ok (there ++ [latestName], before.lookup (there ++ [latestName])))
    (notDirectory : before.lookup (there ++ [latestName]) ≠ some .directory) :
    let after := shots.cleared (before.put (there ++ [latestName]) (.file picture)) raw?
    shots.Outcome makes raw? before after after (.ok shots.latestPath) := by
  intro after
  have latest : shots.IsEntry before latestName (there ++ [latestName]) := ⟨there, led, rfl⟩
  have leaves : ∀ place,
      shots.Leaves raw? (before.put (there ++ [latestName]) (.file picture)) after place :=
    leaves_cleared isRaw
  have kept : after.lookup (there ++ [latestName]) = some (.file picture) := by
    rw [(leaves _).resolve_right fun ⟨_, raw, known, entry⟩ =>
      not_isEntry_latest (isRaw raw known) latest (entry.of_put notDirectory)]
    exact lookup_put_self (ne_nil_of_lookup notDirectory)
  constructor
  case failed => exact fun _ failed => by cases failed
  case made =>
    rintro path ⟨⟩
    refine ⟨rfl, picture, _, made, latest, kept, fun place other => ?_, fun direct =>
      readBytes_latestPath led named (resolve_cleared isRaw led notDirectory direct) kept⟩
    rcases leaves place with same | ⟨gone, raw, known, entry⟩
    · exact .inl (same.trans (lookup_put_of_ne other))
    · exact .inr ⟨gone, raw, known, entry.of_put notDirectory⟩
  case removed =>
    rintro raw rfl direct place node resolved rest
    have straight : ¬shots.Circles before latestName := direct.resolve_left nofun
    have raw' := isRaw raw rfl
    obtain ⟨there', led', rfl⟩ := isEntry_of_resolve raw' resolved
    obtain rfl : there = there' := congrArg Prod.fst (Except.ok.inj (led.symm.trans led'))
    -- The raw picture is still found by its path when the new one is there.
    have back : (before.put (there ++ [latestName]) (.file picture)).resolve shots.base true
        = .ok (there, some .directory) :=
      resolve_put_of_avoids notDirectory (fun leads => straight ⟨_, latest, leads⟩) led
    have again := resolve_join_congr led back raw'.isName raw'.clean
      (lookup_put_of_ne (isRawName_ne_latest raw' there))
    have gone := lookup_cleared_of_resolve (again.trans resolved) rest
    exact ⟨gone, gone⟩

/-- **A conversion replaces the latest picture or nothing**, and the raw picture is removed. -/
theorem Converted.outcome {returned : Returned}
    (converted : shots.Converted makes before returned files)
    (isRaw : ∀ raw ∈ raw?, IsRawName raw) :
    shots.Outcome makes raw? before (shots.cleared files raw?)
      (returned.settled (shots.cleared files raw?)) returned.value := by
  cases converted with
  | undone e => exact outcome_of_error e isRaw fun _ _ => rfl
  | @held e there mark picture led absent =>
    rw [settled_held isRaw led absent]
    refine outcome_of_error e isRaw fun raw known => ?_
    have raw' := isRaw raw known
    have other := ne_asideName there raw'.visible mark
    exact resolve_join_put led absent raw'.isName raw'.clean other _
  | done made led named notDirectory =>
    exact outcome_of_replaced isRaw made led named notDirectory

end Screenshotter

/-! ## Pictures -/

namespace Studio

variable {σ : Type} (studio : Studio σ) (shots : Screenshotter) (raw : String) (s : σ)

/-- What becomes of the files when a picture is converted. -/
theorem outcome_convert :
    shots.Outcome (studio.Converts shots raw s) none (studio.files s)
      (studio.files (studio.convert shots raw s).2)
      (studio.files (studio.consume (studio.convert shots raw s)).2)
      (studio.consume (studio.convert shots raw s)).1 := by
  rw [show studio.convert shots raw s = ((studio.convert shots raw s).1, _) from rfl,
    Darkroom.consume_fst, Darkroom.files_consume]
  exact (studio.converted_convert shots raw s).outcome (by simp)

/-- **The raw picture that is removed** when a picture was taken, unless the host refuses to. -/
def removed (name : String) : Option String :=
  if studio.refusesRemoval (join shots.directory name) s then none else some name

theorem files_remove (name : String) :
    studio.files (studio.remove (join shots.directory name) s)
      = shots.cleared (studio.files s) (studio.removed shots s name) := by
  unfold Darkroom.remove removed
  split
  · rfl
  · exact studio.files_withFiles _ _

/-- What becomes of them when a picture is taken. -/
theorem outcome_capture {fs : FileSystem}
    (made : (studio.files s).makeDirectories shots.directory = (.ok (), fs)) :
    let name := Service.rawName (studio.moment s)
    let raw := join shots.directory name
    let shown := (studio.attend shots raw (studio.withFiles s fs)).2
    let taken := (studio.captureFrom shots raw (studio.withFiles s fs)).2
    shots.Outcome (studio.Converts shots raw shown) (studio.removed shots taken name)
      (studio.files shown) (studio.files (studio.capture shots s).2)
      (studio.files (studio.consume (studio.capture shots s)).2)
      (studio.consume (studio.capture shots s)).1 := by
  intro name raw shown taken
  have isRaw : ∀ raw ∈ studio.removed shots taken name, IsRawName raw := by
    intro raw known
    unfold removed at known
    split at known
    · cases known
    · cases known
      exact isRawName_rawName _
  have ends := (studio.converted_captureFrom shots raw (studio.withFiles s fs)).outcome isRaw
  rw [studio.capture_of_ok shots s made]
  simp only [Darkroom.consume_fst, Darkroom.files_consume, files_remove]
  exact ends

/-- **A new picture replaces the latest one, or the latest one stays.**  A picture is converted and
taken wherever, by whomever and in whatever circumstances.  If the directory of pictures is there or
can be made, the files are compared from when nobody else is asked or waited for any more; else
nothing but directories is new.  The raw picture is removed, unless the host refuses to: then it is
left as it is, like everything else.  The program does as much as these steps do together when what
they return is consumed. -/
theorem pictures_spec :
    shots.Outcome (studio.Converts shots raw s) none (studio.files s)
      (studio.files (studio.convert shots raw s).2)
      (studio.files (studio.consume (studio.convert shots raw s)).2)
      (studio.consume (studio.convert shots raw s)).1
    ∧ (∀ result made, (studio.files s).makeDirectories shots.directory = (result, made) →
      (studio.files s).AddsDirectories made
      ∧ match result with
        | .error failure =>
          (studio.consume (studio.capture shots s)).1
            = .error (.createDirectory shots.directory failure)
          ∧ studio.files (studio.consume (studio.capture shots s)).2 = made
        | .ok () =>
          let name := Service.rawName (studio.moment s)
          let raw := join shots.directory name
          let shown := (studio.attend shots raw (studio.withFiles s made)).2
          let taken := (studio.captureFrom shots raw (studio.withFiles s made)).2
          shots.Outcome (studio.Converts shots raw shown) (studio.removed shots taken name)
            (studio.files shown) (studio.files (studio.capture shots s).2)
            (studio.files (studio.consume (studio.capture shots s)).2)
            (studio.consume (studio.capture shots s)).1)
    ∧ ∀ mark, FreshMarks mark →
      (∀ host : Host, (Darkroom.ofHousing .ofHost mark).consume
          ((Darkroom.ofHousing .ofHost mark).convert shots raw host) = shots.convert raw host)
      ∧ ∀ (service : Service) (w : Supervisor.Schedule), (Studio.ofSchedule mark).consume
          ((Studio.ofSchedule mark).capture service.screenshots w) = service.capture w := by
  refine ⟨studio.outcome_convert shots raw s, fun result made outcome => ⟨?_, ?_⟩,
    fun mark fresh => ⟨fun host => Darkroom.consume_convert_ofHousing .ofHost shots raw host fresh,
      consume_capture_ofSchedule fresh⟩⟩
  · have adds : (studio.files s).AddsDirectories _ :=
      addsDirectories_makeDirectories shots.directory
    rwa [outcome] at adds
  · cases result with
    | error failure =>
      rw [studio.capture_of_error shots s outcome, Darkroom.consume_fst, Darkroom.files_consume]
      exact ⟨rfl, studio.files_withFiles s made⟩
    | ok => exact studio.outcome_capture shots s outcome

/-- An emulator that writes a raw picture at once, and a converter that copies it. -/
def copying : Studio FileSystem where
  files := id
  withFiles _ fs := fs
  run _ _ input fs := (.ok ⟨true, "exit status: 0", input, []⟩, fs)
  circumstances _ := { mark := "x" }
  refusesRemoval _ _ := false
  files_withFiles _ _ := rfl
  withFiles_withFiles _ _ _ := rfl
  files_run _ _ _ _ := rfl
  moment _ := ⟨0⟩
  ask raw fs := (.ok (), (fs.writeFile raw [80, 54]).toOption.getD fs)
  wait _ _ fs := (true, fs)

/-- A directory of pictures by its path. -/
def shelf : Screenshotter := ⟨"shots", ["cat"], ⟨1000⟩⟩

/-- The directory with a picture in it. -/
def plainShelf : FileSystem :=
  ⟨[(["shots"], .directory), (["shots", "latest.png"], .file [])], [], []⟩

/-- The directory with a raw picture in it. -/
def writtenShelf : FileSystem := plainShelf.put ["shots", Service.rawName ⟨0⟩] (.file [80, 54])

/-- A directory to which its path leads through the latest picture. -/
def circledShelf : FileSystem :=
  ⟨[(["shots"], .link "x/latest.png"), (["x"], .directory), (["x", "latest.png"], .link "."),
    (["in.ppm"], .file [80, 54])], [], []⟩

/-- A picture is taken: it can be read, and the raw one is gone. -/
theorem pictures_spec_copying :
    FreshMarks freshMark ∧ ∃ after,
      copying.consume (copying.capture shelf plainShelf) = (.ok shelf.latestPath, after)
        ∧ after.readBytes shelf.latestPath = .ok [80, 54]
        ∧ after.lookup ["shots", Service.rawName ⟨0⟩] = none := by
  obtain ⟨-, captured, -⟩ := pictures_spec copying shelf "" plainShelf
  have outcome : shelf.Outcome (copying.Converts shelf _ writtenShelf) (some (Service.rawName ⟨0⟩))
      writtenShelf _ _ (.ok shelf.latestPath) := (captured (.ok ()) plainShelf rfl).2
  -- Neither entry of the directory is a link.
  have direct : ∀ name, name = Screenshotter.latestName ∨ name ∈ some (Service.rawName ⟨0⟩) →
      ¬shelf.Circles writtenShelf name := by
    intro name known
    refine Screenshotter.not_circles_of_noLink ?_
    rintro _ target ⟨there, led, rfl⟩ link
    obtain rfl : ["shots"] = there := congrArg Prod.fst (Except.ok.inj led)
    rcases known with rfl | ⟨⟨⟩⟩ <;> cases link
  obtain ⟨-, picture, latest, ⟨program, arguments, input, conversion, -, opened, ran, -, -, rfl⟩, -,
    -, -, reads⟩ := outcome.made _ rfl
  cases ran
  obtain rfl : [80, 54] = input := Except.ok.inj opened
  exact ⟨freshMarks_freshMark, _, rfl, reads direct,
    (outcome.removed _ rfl (.inr (direct _ (.inl rfl))) _ _ rfl (by simp)).2⟩

/-- **A new picture can be in the way**: where the path of the directory leads through the latest
picture, the new one is not found under it, and the raw one is not removed. -/
theorem circled_picture_unread :
    (∃ after, shelf.convert "in.ppm" ⟨circledShelf, [("cat", .copy)], [], []⟩
        = (.ok shelf.latestPath, after)
      ∧ after.files.readBytes shelf.latestPath = .error (.os .notDirectory))
    ∧ ∃ after, copying.consume (copying.capture shelf circledShelf) = (.ok shelf.latestPath, after)
      ∧ after.lookup ["x", Service.rawName ⟨0⟩] = some (.file [80, 54]) :=
  ⟨⟨_, rfl, rfl⟩, _, rfl, rfl⟩

end Studio

end GuestSupervisor
