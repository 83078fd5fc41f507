import GuestSupervisor.Proofs.Settings.Records
import GuestSupervisor.Proofs.Toml.Assembly

/-!
# Settings that are written and read back

Settings can be written unless one of their numbers is too large for a document or one of their
paths is no text, and what was written is read back as the same settings.  No settings that were read
from a document hold such a number or such a path, so these can always be written.

## Main Definitions

* `Settings.numbers`, `Settings.paths` — the numbers of sixty-four bits and the paths among the
  settings.
* `Settings.Writable` — all of them have a place in a document.

## Main Statements

* `Settings.ofValue?_of_toValue?` — the tree of settings stands for these settings.
* `Settings.writable_of_ofToml?` — settings that were read can be written.
* `Settings.toToml_spec` — settings are written and read back.
-/

namespace GuestSupervisor

open Toml (Value)

namespace Settings

/-- **The numbers of sixty-four bits among the settings.** -/
def numbers (s : Settings) : List UInt64 :=
  [s.supervisor.launchTimeoutMs, s.supervisor.quitTimeoutMs, s.supervisor.commandTimeoutMs,
    s.supervisor.restart.backoffMs, s.screenshot.waitMs]

/-- **The paths among the settings.** -/
def paths (s : Settings) : List OsPath := s.emulator.binary :: s.emulator.monitorSocket.toList

/-- **Settings that can be written**: every number and every path has a place in a document. -/
structure Writable (s : Settings) : Prop where
  small : ∀ n ∈ s.numbers, n.toNat < 2 ^ 63
  textual : ∀ path ∈ s.paths, path.text?.isSome

theorem asUInt64_toNat (n : UInt64) : Reading.asUInt64 (.integer n.toNat) = .ok n := by
  have small : n.toNat < UInt64.size := n.toNat_lt
  simp [Reading.asUInt64, small]

theorem asUInt32_toNat (n : UInt32) : Reading.asUInt32 (.integer n.toNat) = .ok n := by
  have small : n.toNat < UInt32.size := n.toNat_lt
  simp [Reading.asUInt32, small]

theorem asStrings_map (texts : List String) :
    (Value.array (texts.map .string)).toReading.asStrings = .ok texts := by
  have items : (Value.itemsToReading (texts.map .string)).mapM Reading.asString = .ok texts := by
    induction texts with
    | nil => rfl
    | cons text texts ih =>
      rw [List.map_cons, Value.itemsToReading, List.mapM_cons, ih]
      rfl
  rw [Value.toReading, Reading.asStrings, items]
  rfl

theorem asWord_word (format : SettingsFormat) (kind : RestartKind) :
    (Reading.string (some kind.word)).asWord format.isNothing RestartKind.ofWord? = .ok kind := by
  cases kind <;> rfl

open Record (read_object readMembers_cons taken exists_of_taken)

theorem read_emulator (e : EmulatorSettings) (binary : String) (socket : Option String) :
    (EmulatorSettings.record .toml).read (Value.table
      ([ ("binary", .string binary), ("machine", .string e.machine),
          ("audio_backend", .string e.audioBackend) ]
        ++ socket.toList.map (fun path => ("monitor_socket", .string path))
        ++ [("detect_display", .boolean e.detectDisplay)])).toReading
      = .ok { e with binary := .text binary, monitorSocket := socket.map .text } := by
  cases socket with
  | none => rfl
  | some path => rfl

theorem read_restart (r : RestartSettings) :
    (RestartSettings.record .toml).read (Value.table
      [ ("policy", .string r.policy.word), ("max_restarts", .integer r.maxRestarts.toNat),
        ("backoff_ms", number r.backoffMs) ]).toReading = .ok r :=
  read_object _
    ((readMembers_cons rfl rfl (taken (asWord_word .toml r.policy) _)).trans <|
      (readMembers_cons rfl rfl (taken (asUInt32_toNat r.maxRestarts) _)).trans <|
      (readMembers_cons rfl rfl (taken (asUInt64_toNat r.backoffMs) _)).trans rfl) rfl

theorem read_supervisor (v : SupervisorSettings) :
    (SupervisorSettings.record .toml).read (Value.table
      [ ("launch_timeout_ms", number v.launchTimeoutMs),
        ("quit_timeout_ms", number v.quitTimeoutMs),
        ("command_timeout_ms", number v.commandTimeoutMs),
        ("restart", .table
          [ ("policy", .string v.restart.policy.word),
            ("max_restarts", .integer v.restart.maxRestarts.toNat),
            ("backoff_ms", number v.restart.backoffMs) ]) ]).toReading = .ok v :=
  read_object _
    ((readMembers_cons rfl rfl (taken (asUInt64_toNat v.launchTimeoutMs) _)).trans <|
      (readMembers_cons rfl rfl (taken (asUInt64_toNat v.quitTimeoutMs) _)).trans <|
      (readMembers_cons rfl rfl (taken (asUInt64_toNat v.commandTimeoutMs) _)).trans <|
      (readMembers_cons rfl rfl (taken (read_restart v.restart) _)).trans rfl) rfl

theorem read_web (w : WebSettings) :
    (WebSettings.record .toml).read (Value.table
      [("bind", .string w.bind), ("autostart", .boolean w.autostart)]).toReading = .ok w := rfl

theorem read_screenshot (p : ScreenshotSettings) :
    (ScreenshotSettings.record .toml).read (Value.table
      [ ("converter", .array (p.converter.map .string)),
        ("wait_ms", number p.waitMs) ]).toReading = .ok p :=
  read_object _
    ((readMembers_cons rfl rfl (taken (asStrings_map p.converter) _)).trans <|
      (readMembers_cons rfl rfl (taken (asUInt64_toNat p.waitMs) _)).trans rfl) rfl

theorem ofValue?_tree (s : Settings) (binary : String) (socket : Option String) :
    ofValue? (s.tree binary socket) = some { s with
      emulator.binary := .text binary, emulator.monitorSocket := socket.map .text } := by
  have read : (record .toml).read (s.tree binary socket).toReading = .ok { s with
      emulator.binary := .text binary, emulator.monitorSocket := socket.map .text } := by
    refine read_object ["screenshot", "web", "supervisor", "emulator"] ?_ rfl
    refine (readMembers_cons rfl rfl (taken (read_emulator s.emulator binary socket) _)).trans ?_
    refine (readMembers_cons rfl rfl (taken (read_supervisor s.supervisor) _)).trans ?_
    refine (readMembers_cons rfl rfl (taken (read_web s.web) fun web : WebSettings =>
      ({ emulator := { s.emulator with
          binary := .text binary, monitorSocket := socket.map .text }
         supervisor := s.supervisor, web } : Settings))).trans ?_
    exact (readMembers_cons rfl rfl (taken (read_screenshot s.screenshot) _)).trans rfl
  rw [ofValue?, read]
  rfl

/-! ## Paths that can be written -/

theorem text?_eq_some_iff {path : OsPath} {text : String} :
    path.text? = some text ↔ path = .text text := by
  cases path <;> simp [OsPath.text?]

/-- The tree of settings whose paths are text. -/
theorem toValue?_eq_some_iff {s : Settings} {v : Value} :
    s.toValue? = some v ↔ ∃ binary socket, s.emulator.binary = .text binary
      ∧ s.emulator.monitorSocket = socket.map .text ∧ s.tree binary socket = v := by
  have sockets {socket : Option String} :
      s.emulator.monitorSocket.mapM OsPath.text? = some socket
        ↔ s.emulator.monitorSocket = socket.map .text := by
    cases s.emulator.monitorSocket with
    | none => cases socket <;> simp
    | some path => cases socket <;> simp [text?_eq_some_iff]
  unfold toValue?
  simp only [Option.bind_eq_bind, Option.bind_eq_some_iff, text?_eq_some_iff, sockets,
    Option.pure_def, Option.some.injEq]
  constructor
  · rintro ⟨binary, isBinary, socket, isSocket, same⟩
    exact ⟨binary, socket, isBinary, isSocket, same⟩
  · rintro ⟨binary, socket, isBinary, isSocket, same⟩
    exact ⟨binary, isBinary, socket, isSocket, same⟩

/-- **Settings have a tree exactly if their paths are text.** -/
theorem isSome_toValue?_iff {s : Settings} :
    s.toValue?.isSome ↔ ∀ path ∈ s.paths, path.text?.isSome := by
  simp only [paths, List.forall_mem_cons, Option.mem_toList]
  constructor
  · intro whole
    obtain ⟨v, whole⟩ := Option.isSome_iff_exists.mp whole
    obtain ⟨binary, socket, isBinary, isSocket, -⟩ := toValue?_eq_some_iff.mp whole
    rw [isBinary, isSocket]
    refine ⟨rfl, fun path found => ?_⟩
    obtain ⟨text, -, rfl⟩ := Option.map_eq_some_iff.mp found
    rfl
  · rintro ⟨isBinary, isSocket⟩
    obtain ⟨binary, isBinary⟩ := Option.isSome_iff_exists.mp isBinary
    have exists_socket : ∃ socket : Option String, s.emulator.monitorSocket = socket.map .text := by
      cases given : s.emulator.monitorSocket with
      | none => exact ⟨none, rfl⟩
      | some path =>
        obtain ⟨text, isText⟩ := Option.isSome_iff_exists.mp (isSocket path given)
        exact ⟨some text, congrArg some (text?_eq_some_iff.mp isText)⟩
    obtain ⟨socket, isSocket⟩ := exists_socket
    exact Option.isSome_iff_exists.mpr ⟨_, toValue?_eq_some_iff.mpr
      ⟨binary, socket, text?_eq_some_iff.mp isBinary, isSocket, rfl⟩⟩

/-- **The tree of settings stands for these settings.** -/
theorem ofValue?_of_toValue? {s : Settings} {v : Value} (whole : s.toValue? = some v) :
    ofValue? v = some s := by
  obtain ⟨binary, socket, isBinary, isSocket, rfl⟩ := toValue?_eq_some_iff.mp whole
  rw [ofValue?_tree, ← isBinary, ← isSocket]

/-! ## Numbers that can be written -/

theorem fits_number (n : UInt64) : (number n).fits ↔ n.toNat < 2 ^ 63 := by
  simp [number, Value.fits, Toml.inRange]

theorem inRange_count (n : UInt32) : Toml.inRange n.toNat := by
  have := n.toNat_lt
  simp [Toml.inRange]
  omega

theorem isPlain_strings (texts : List String) :
    (Value.array (texts.map .string)).isPlain Toml.deepest := by
  have all (depth : Nat) : Value.allPlain depth (texts.map .string) := by
    induction texts with
    | nil => rfl
    | cons text texts ih => simpa [Value.allPlain, Value.isPlain] using ih
  exact all 78

/-- A tree of settings that can be written has numbers that are small enough. -/
theorem small_of_fits {s : Settings} {binary : String} {socket : Option String}
    (fits : (s.tree binary socket).fits) : ∀ n ∈ s.numbers, n.toNat < 2 ^ 63 := by
  simp only [tree, Value.fits, Value.entriesFit, Bool.and_eq_true, fits_number] at fits
  obtain ⟨-, ⟨launch, quit, command, ⟨-, -, backoff, -⟩, -⟩, -, ⟨-, wait, -⟩, -⟩ := fits
  simp only [numbers, List.forall_mem_cons]
  exact ⟨launch, quit, command, backoff, wait, List.forall_mem_nil _⟩

open Toml (Arranged)

theorem arranged_number {room : Nat} {key : String} {n : UInt64} {rest : List (String × Value)}
    (small : n.toNat < 2 ^ 63) (once : key ∉ rest.map Prod.fst) (others : Arranged room rest) :
    Arranged room ((key, number n) :: rest) :=
  .plain ((fits_number n).mpr small) once others

theorem arranged_emulator (room : Nat) (e : EmulatorSettings) (binary : String)
    (socket : Option String) :
    Arranged room ([ ("binary", .string binary), ("machine", .string e.machine),
        ("audio_backend", .string e.audioBackend) ]
      ++ socket.toList.map (fun path => ("monitor_socket", .string path))
      ++ [("detect_display", .boolean e.detectDisplay)]) := by
  have detect : Arranged room [("detect_display", .boolean e.detectDisplay)] :=
    .plain rfl (by simp) .nil
  cases socket with
  | none => exact .plain rfl (by simp) (.plain rfl (by simp) (.plain rfl (by simp) detect))
  | some path =>
    exact .plain rfl (by simp) (.plain rfl (by simp) (.plain rfl (by simp)
      (.plain rfl (by simp) detect)))

/-- The tree of settings can be written if the numbers are small enough. -/
theorem exists_arranged {s : Settings} (small : ∀ n ∈ s.numbers, n.toNat < 2 ^ 63)
    (binary : String) (socket : Option String) :
    ∃ entries, s.tree binary socket = .table entries ∧ Arranged Toml.longestPath entries := by
  simp only [numbers, List.forall_mem_cons] at small
  obtain ⟨launch, quit, command, backoff, wait, -⟩ := small
  have restart : Arranged 77 [ ("policy", .string s.supervisor.restart.policy.word),
      ("max_restarts", .integer s.supervisor.restart.maxRestarts.toNat),
      ("backoff_ms", number s.supervisor.restart.backoffMs) ] :=
    .plain rfl (by simp) (.plain (inRange_count _) (by simp)
      (arranged_number backoff (by simp) .nil))
  have web : Arranged 78 [("bind", .string s.web.bind), ("autostart", .boolean s.web.autostart)] :=
    .plain rfl (by simp) (.plain rfl (by simp) .nil)
  have screenshot : Arranged 78 [ ("converter", .array (s.screenshot.converter.map .string)),
      ("wait_ms", number s.screenshot.waitMs) ] :=
    .plain (isPlain_strings _) (by simp) (arranged_number wait (by simp) .nil)
  exact ⟨_, rfl, .table (by simp) (by simp) (arranged_emulator 78 s.emulator binary socket)
    (.table (by simp) (by simp)
      (arranged_number launch (by simp) (arranged_number quit (by simp)
        (arranged_number command (by simp) (.table (by simp) (by simp) restart .nil))))
      (.table (by simp) (by simp) web (.table (by simp) (by simp) screenshot .nil)))⟩

/-! ## Settings that were read -/

/-- What can be read from a document. -/
def OfDocument (reading : Reading) : Prop := ∃ v : Value, v.fits ∧ v.toReading = reading

/-- A number that was read from a document can be written. -/
theorem small_of_asUInt64 {reading : Reading} {n : UInt64} (document : OfDocument reading)
    (read : reading.asUInt64 = .ok n) : n.toNat < 2 ^ 63 := by
  obtain ⟨v, fits, rfl⟩ := document
  cases v with
  | integer m =>
    cases m with
    | ofNat m =>
      rw [Value.toReading, Reading.asUInt64] at read
      split at read
      · rename_i small
        cases read
        simp [Value.fits, Toml.inRange] at fits
        rw [UInt64.toNat_ofNat', Nat.mod_eq_of_lt small]
        exact fits
      · cases read
    | negSucc => cases read
  | _ => cases read

/-- A path that was read is text. -/
theorem exists_of_asPath {reading : Reading} {path : OsPath} (read : reading.asPath = .ok path) :
    ∃ text, path = .text text := by
  unfold Reading.asPath at read
  cases told : reading.asString with
  | error problem =>
    rw [told] at read
    cases read
  | ok text =>
    rw [told] at read
    exact ⟨text, (Except.ok.inj read).symm⟩

theorem exists_of_asOptionalPath {reading : Reading} {given : Option OsPath} {path : OsPath}
    (read : reading.asOptionalPath = .ok given) (found : path ∈ given) :
    ∃ text, path = .text text := by
  unfold Reading.asOptionalPath at read
  cases told : reading.asOptionalString with
  | error problem =>
    rw [told] at read
    cases read
  | ok text =>
    rw [told] at read
    obtain rfl := Except.ok.inj read
    obtain ⟨text, -, same⟩ := Option.map_eq_some_iff.mp found
    exact ⟨text, same.symm⟩

/-- What is in a document is read from it. -/
theorem ofDocument_children {v : Value} (fits : v.fits) :
    ∀ child ∈ v.toReading.children, OfDocument child := by
  intro child member
  cases v with
  | table entries =>
    rw [Value.toReading, Reading.children, Value.entriesToReading_eq, List.map_map] at member
    obtain ⟨entry, inside, rfl⟩ := List.mem_map.mp member
    exact ⟨entry.2, Toml.entriesFit_iff.mp fits entry inside, rfl⟩
  | array items =>
    rw [Value.toReading, Reading.children, Value.itemsToReading_eq] at member
    obtain ⟨item, inside, rfl⟩ := List.mem_map.mp member
    exact ⟨item, Toml.allFit_iff.mp fits item inside, rfl⟩
  | datetime text =>
    obtain rfl := List.mem_singleton.mp member
    exact ⟨.string text, rfl, rfl⟩
  | _ => cases member

/-- A record that was read from a document. -/
theorem holds_of_document {σ : Type} (holds : σ → Prop) {record : Record σ}
    (keeps : ∀ field ∈ record.fields, Record.Keeps holds OfDocument field)
    (start : holds record.start) {reading : Reading} (document : OfDocument reading) {state : σ}
    (read : record.read reading = .ok state) : holds state := by
  obtain ⟨v, fits, rfl⟩ := document
  exact Record.holds_of_read keeps start (ofDocument_children fits) read

/-- A path that was read from a document is text. -/
theorem textual_emulator {e : EmulatorSettings} {reading : Reading} (document : OfDocument reading)
    (read : (EmulatorSettings.record .toml).read reading = .ok e) :
    e.binary.text?.isSome ∧ ∀ path ∈ e.monitorSocket, path.text?.isSome := by
  refine holds_of_document (fun e => e.binary.text?.isSome
    ∧ ∀ path ∈ e.monitorSocket, path.text?.isSome) ?_ ⟨rfl, nofun⟩ document read
  simp only [EmulatorSettings.record, SettingsFormat.field, List.forall_mem_cons]
  refine ⟨?_, ?_, ?_, ?_, ?_, List.forall_mem_nil _⟩
  all_goals
    rintro reading before after document ⟨binary, socket⟩ taken
    obtain ⟨value, read, rfl⟩ := exists_of_taken taken
  · obtain ⟨text, rfl⟩ := exists_of_asPath read
    exact ⟨rfl, socket⟩
  · exact ⟨binary, socket⟩
  · exact ⟨binary, socket⟩
  · refine ⟨binary, fun path found => ?_⟩
    obtain ⟨text, rfl⟩ := exists_of_asOptionalPath read found
    rfl
  · exact ⟨binary, socket⟩

theorem small_restart {r : RestartSettings} {reading : Reading} (document : OfDocument reading)
    (read : (RestartSettings.record .toml).read reading = .ok r) : r.backoffMs.toNat < 2 ^ 63 := by
  refine holds_of_document (fun r => r.backoffMs.toNat < 2 ^ 63) ?_ (by decide) document read
  simp only [RestartSettings.record, SettingsFormat.field, List.forall_mem_cons]
  refine ⟨?_, ?_, ?_, List.forall_mem_nil _⟩
  all_goals
    intro reading before after document small taken
    obtain ⟨value, read, rfl⟩ := exists_of_taken taken
  · exact small
  · exact small
  · exact small_of_asUInt64 document read

theorem small_supervisor {v : SupervisorSettings} {reading : Reading}
    (document : OfDocument reading)
    (read : (SupervisorSettings.record .toml).read reading = .ok v) :
    v.launchTimeoutMs.toNat < 2 ^ 63 ∧ v.quitTimeoutMs.toNat < 2 ^ 63
      ∧ v.commandTimeoutMs.toNat < 2 ^ 63 ∧ v.restart.backoffMs.toNat < 2 ^ 63 := by
  refine holds_of_document (fun v => v.launchTimeoutMs.toNat < 2 ^ 63
    ∧ v.quitTimeoutMs.toNat < 2 ^ 63 ∧ v.commandTimeoutMs.toNat < 2 ^ 63
    ∧ v.restart.backoffMs.toNat < 2 ^ 63) ?_ (by decide) document read
  simp only [SupervisorSettings.record, SettingsFormat.field, List.forall_mem_cons]
  refine ⟨?_, ?_, ?_, ?_, List.forall_mem_nil _⟩
  all_goals
    rintro reading before after document ⟨launch, quit, command, backoff⟩ taken
    obtain ⟨value, read, rfl⟩ := exists_of_taken taken
  · exact ⟨small_of_asUInt64 document read, quit, command, backoff⟩
  · exact ⟨launch, small_of_asUInt64 document read, command, backoff⟩
  · exact ⟨launch, quit, small_of_asUInt64 document read, backoff⟩
  · exact ⟨launch, quit, command, small_restart document read⟩

theorem small_screenshot {p : ScreenshotSettings} {reading : Reading}
    (document : OfDocument reading)
    (read : (ScreenshotSettings.record .toml).read reading = .ok p) :
    p.waitMs.toNat < 2 ^ 63 := by
  refine holds_of_document (fun p => p.waitMs.toNat < 2 ^ 63) ?_ (by decide) document read
  simp only [ScreenshotSettings.record, SettingsFormat.field, List.forall_mem_cons]
  refine ⟨?_, ?_, List.forall_mem_nil _⟩
  all_goals
    intro reading before after document small taken
    obtain ⟨value, read, rfl⟩ := exists_of_taken taken
  · exact small
  · exact small_of_asUInt64 document read

/-- **Settings in a document can be written.** -/
theorem writable_of_ofValue? {v : Value} {s : Settings} (fits : v.fits)
    (read : ofValue? v = some s) : s.Writable := by
  have read : (record .toml).read v.toReading = .ok s := by
    unfold ofValue? at read
    cases outcome : (record .toml).read v.toReading with
    | error =>
      rw [outcome] at read
      cases read
    | ok s' =>
      rw [outcome] at read
      cases read
      rfl
  have small : (record .toml).start.numbers.all (·.toNat < 2 ^ 63) := by decide
  have start : (record .toml).start.Writable :=
    ⟨fun n member => of_decide_eq_true (List.all_eq_true.mp small n member), by decide⟩
  refine holds_of_document Writable ?_ start ⟨v, fits, rfl⟩ read
  simp only [record, SettingsFormat.field, List.forall_mem_cons]
  refine ⟨?_, ?_, ?_, ?_, List.forall_mem_nil _⟩
  all_goals
    rintro reading before after document ⟨small, textual⟩ taken
    simp only [numbers, List.forall_mem_cons] at small
    obtain ⟨launch, quit, command, backoff, wait, none⟩ := small
    obtain ⟨value, read, rfl⟩ := exists_of_taken taken
  · obtain ⟨binary, socket⟩ := textual_emulator document read
    refine ⟨?_, List.forall_mem_cons.mpr ⟨binary, by simpa using socket⟩⟩
    simp only [numbers, List.forall_mem_cons]
    exact ⟨launch, quit, command, backoff, wait, none⟩
  · obtain ⟨launch, quit, command, backoff⟩ := small_supervisor document read
    refine ⟨?_, textual⟩
    simp only [numbers, List.forall_mem_cons]
    exact ⟨launch, quit, command, backoff, wait, none⟩
  · refine ⟨?_, textual⟩
    simp only [numbers, List.forall_mem_cons]
    exact ⟨launch, quit, command, backoff, wait, none⟩
  · refine ⟨?_, textual⟩
    simp only [numbers, List.forall_mem_cons]
    exact ⟨launch, quit, command, backoff, small_screenshot document read, none⟩

/-- **Settings that were read can be written.** -/
theorem writable_of_ofToml? {s : Settings} {text : String} (read : ofToml? text = some s) :
    s.Writable := by
  obtain ⟨v, document, read⟩ := Option.bind_eq_some_iff.mp read
  exact writable_of_ofValue? (Toml.fits_of_read? document) read

/-! ## Writing and reading back -/

/-- **Settings that can be written are read back.** -/
theorem Writable.read?_toToml {s : Settings} (writable : s.Writable) :
    ∃ v, s.toValue? = some v ∧ Toml.read? s.toToml.toList = some v := by
  obtain ⟨v, whole⟩ := Option.isSome_iff_exists.mp (isSome_toValue?_iff.mpr writable.textual)
  obtain ⟨binary, socket, -, -, rfl⟩ := toValue?_eq_some_iff.mp whole
  obtain ⟨entries, same, arranged⟩ := exists_arranged writable.small binary socket
  obtain ⟨text, written, read⟩ := Toml.exists_write?_of_arranged arranged
  refine ⟨_, whole, ?_⟩
  rw [toToml, whole, Option.bind_some, same, written, Option.getD_some, String.toList_ofList, read]

theorem Writable.toToml_ne_empty {s : Settings} (writable : s.Writable) : s.toToml ≠ "" := by
  intro empty
  obtain ⟨v, whole, read⟩ := writable.read?_toToml
  obtain ⟨binary, socket, -, -, rfl⟩ := toValue?_eq_some_iff.mp whole
  rw [empty] at read
  have nothing : Toml.read? "".toList = some (.table []) := rfl
  rw [nothing, Option.some.injEq, tree, Value.table.injEq] at read
  cases read

/-- Other settings have no text. -/
theorem toToml_eq_empty {s : Settings} (unfit : ¬s.Writable) : s.toToml = "" := by
  have nothing : s.toValue?.bind Toml.write? = none := by
    refine Option.eq_none_iff_forall_not_mem.mpr fun text written => unfit ?_
    obtain ⟨v, whole, written⟩ := Option.bind_eq_some_iff.mp written
    refine ⟨?_, isSome_toValue?_iff.mp (Option.isSome_iff_exists.mpr ⟨v, whole⟩)⟩
    obtain ⟨binary, socket, -, -, rfl⟩ := toValue?_eq_some_iff.mp whole
    have fits : (s.tree binary socket).fits := by
      by_contra large
      have unfit : Toml.write? (s.tree binary socket) = none := if_neg large
      rw [unfit] at written
      cases written
    exact small_of_fits fits
  rw [toToml, nothing]
  rfl

/-- What keeps settings from being written. -/
theorem not_writable_iff {s : Settings} :
    ¬s.Writable ↔
      (∃ n ∈ s.numbers, 2 ^ 63 - 1 < n.toNat) ∨ ∃ path ∈ s.paths, path.text? = none := by
  have parts : s.Writable ↔ (∀ n ∈ s.numbers, n.toNat < 2 ^ 63)
      ∧ ∀ path ∈ s.paths, path.text?.isSome :=
    ⟨fun ⟨small, textual⟩ => ⟨small, textual⟩, fun ⟨small, textual⟩ => ⟨small, textual⟩⟩
  rw [parts, not_and_or]
  simp only [not_forall, exists_prop, Option.not_isSome_iff_eq_none]
  refine or_congr_left (exists_congr fun n => and_congr_right fun _ => ?_)
  omega

/-- **Settings are written and read back.**  The text for settings is empty exactly if one of their
numbers is greater than the greatest integer of a document or one of their paths is no text.
Whenever it is not, it is a document with every setting in it, and what is read from it are the same
settings.  The text for settings that were read from a document is never empty. -/
theorem toToml_spec (s : Settings) :
    (s.toToml = "" ↔
        (∃ n ∈ s.numbers, 2 ^ 63 - 1 < n.toNat) ∨ ∃ path ∈ s.paths, path.text? = none)
      ∧ (s.toToml ≠ "" → (∃ v, s.toValue? = some v ∧ Toml.read? s.toToml.toList = some v)
        ∧ ofToml? s.toToml = some s)
      ∧ ∀ text, ofToml? text = some s → s.toToml ≠ "" ∧ ofToml? s.toToml = some s := by
  have readBack (writable : s.Writable) :
      (∃ v, s.toValue? = some v ∧ Toml.read? s.toToml.toList = some v)
        ∧ ofToml? s.toToml = some s := by
    obtain ⟨v, whole, read⟩ := writable.read?_toToml
    exact ⟨⟨v, whole, read⟩, by rw [ofToml?, read, Option.bind_some, ofValue?_of_toValue? whole]⟩
  refine ⟨⟨fun empty => ?_, fun found => toToml_eq_empty (not_writable_iff.mpr found)⟩,
    fun some => ?_, fun text read => ?_⟩
  · exact not_writable_iff.mp fun writable => writable.toToml_ne_empty empty
  · exact readBack (not_not.mp fun unfit => some (toToml_eq_empty unfit))
  · have writable := writable_of_ofToml? read
    exact ⟨writable.toToml_ne_empty, (readBack writable).2⟩

/-- A document with a path that needs other quotes than usual, arguments of several kinds, and the
greatest number there is. -/
def quotedText : String :=
  "emulator.monitor_socket = '/tmp/a \"b\" \\c'\n[screenshot]\nconverter = ['', \"it's\"]\n"
    ++ "wait_ms = 9223372036854775807\n"

/-- The settings in this document. -/
def quoted : Settings where
  emulator := { monitorSocket := some (.text "/tmp/a \"b\" \\c") }
  screenshot := { converter := ["", "it's"], waitMs := 9223372036854775807 }

/-- They are written and read back; with a number that is greater by one they have no text. -/
theorem toToml_spec_quoted :
    ofToml? quotedText = some quoted ∧ ofToml? quoted.toToml = some quoted
      ∧ { quoted with screenshot.waitMs := 9223372036854775808 }.toToml = "" := by
  have read : ofToml? quotedText = some quoted := by decide +kernel
  have largest := (toToml_spec { quoted with screenshot.waitMs := 9223372036854775808 }).1
  exact ⟨read, ((toToml_spec quoted).2.2 quotedText read).2,
    largest.mpr (.inl ⟨9223372036854775808, by decide, by decide⟩)⟩

/-- The defaults, but that the emulator is found under a path that is no text. -/
def unreadable : Settings where
  emulator := { binary := .undecodable ⟨[255], by decide⟩ }

/-- **Small numbers alone do not make settings that can be written**: a path that is no text leaves
the text empty. -/
theorem toToml_unreadable :
    (∀ n ∈ unreadable.numbers, n.toNat ≤ 2 ^ 63 - 1) ∧ unreadable.toToml = "" :=
  ⟨by simp [unreadable, numbers], rfl⟩

end Settings

end GuestSupervisor
