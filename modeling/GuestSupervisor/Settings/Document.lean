import GuestSupervisor.Json.Record
import GuestSupervisor.Settings.Basic
import GuestSupervisor.Toml.Reader
import GuestSupervisor.Toml.Writer

/-!
# Settings as documents

Settings are written in TOML, and can be read from TOML or JSON. Either way a
document names only what differs: a section or a field that it does not name has
its default, and names that mean nothing are passed over.

## Main Definitions

* `SettingsFormat`: where the two formats differ.
* `Settings.record`: the fields of a document.
* `Settings.ofToml?`, `Settings.ofJson?`: reading.
* `Settings.toToml`: writing, with every field.
-/

namespace GuestSupervisor

/-- The two formats of documents. In TOML, a list in the place of a section may be
longer than the section, and an empty list or table stands for no content. -/
inductive SettingsFormat where
  | toml
  | json
  deriving DecidableEq, Repr

namespace SettingsFormat

/-- Whether a list may go on behind the last field of a section. -/
def goesOn : SettingsFormat → Bool
  | toml => true
  | json => false

/-- What stands for no content. -/
def isNothing : SettingsFormat → Reading → Bool
  | toml => Reading.isHollow
  | json => Reading.isNull

/-- A field that may be missing everywhere. -/
def field (name : String) (take : Reading → σ → Except Problem σ) : RecordField σ :=
  ⟨name, take, false, false⟩

end SettingsFormat

/-- The path in a string. -/
def Reading.asPath (v : Reading) : Except Problem OsPath := v.asString.map .text

/-- The path in a string, or nothing for null. -/
def Reading.asOptionalPath (v : Reading) : Except Problem (Option OsPath) :=
  v.asOptionalString.map fun path => path.map .text

open SettingsFormat (field)

/-- The fields about the emulator. -/
def EmulatorSettings.record (format : SettingsFormat) : Record EmulatorSettings where
  start := {}
  goesOn := format.goesOn
  fields :=
    [ field "binary" fun v s => v.asPath.map fun x => { s with binary := x },
      field "machine" fun v s => v.asString.map fun x => { s with machine := x },
      field "audio_backend" fun v s => v.asString.map fun x => { s with audioBackend := x },
      field "monitor_socket" fun v s =>
        v.asOptionalPath.map fun x => { s with monitorSocket := x },
      field "detect_display" fun v s => v.asBool.map fun x => { s with detectDisplay := x } ]

/-- The fields about restarts. -/
def RestartSettings.record (format : SettingsFormat) : Record RestartSettings where
  start := {}
  goesOn := format.goesOn
  fields :=
    [ field "policy" fun v s =>
        (v.asWord format.isNothing RestartKind.ofWord?).map fun x => { s with policy := x },
      field "max_restarts" fun v s => v.asUInt32.map fun x => { s with maxRestarts := x },
      field "backoff_ms" fun v s => v.asUInt64.map fun x => { s with backoffMs := x } ]

/-- The fields about waiting. -/
def SupervisorSettings.record (format : SettingsFormat) : Record SupervisorSettings where
  start := {}
  goesOn := format.goesOn
  fields :=
    [ field "launch_timeout_ms" fun v s => v.asUInt64.map fun x => { s with launchTimeoutMs := x },
      field "quit_timeout_ms" fun v s => v.asUInt64.map fun x => { s with quitTimeoutMs := x },
      field "command_timeout_ms" fun v s =>
        v.asUInt64.map fun x => { s with commandTimeoutMs := x },
      field "restart" fun v s =>
        ((RestartSettings.record format).read v).map fun x => { s with restart := x } ]

/-- The fields about listening. -/
def WebSettings.record (format : SettingsFormat) : Record WebSettings where
  start := {}
  goesOn := format.goesOn
  fields :=
    [ field "bind" fun v s => v.asString.map fun x => { s with bind := x },
      field "autostart" fun v s => v.asBool.map fun x => { s with autostart := x } ]

/-- The fields about pictures. -/
def ScreenshotSettings.record (format : SettingsFormat) : Record ScreenshotSettings where
  start := {}
  goesOn := format.goesOn
  fields :=
    [ field "converter" fun v s => v.asStrings.map fun x => { s with converter := x },
      field "wait_ms" fun v s => v.asUInt64.map fun x => { s with waitMs := x } ]

namespace Toml.Value

mutual

/-- A tree as the readers of records take it. A date is a table of which no record
knows the only entry. -/
def toReading : Value → Reading
  | string text => .string (some text)
  | integer n => .integer n
  | float text => .fraction text true
  | boolean b => .bool b
  | datetime text => .object [(some "datetime", .string (some text))] true
  | array items => .array (itemsToReading items) true
  | table entries => .object (entriesToReading entries) true

/-- The items of an array as the readers of records take them. -/
def itemsToReading : List Value → List Reading
  | [] => []
  | item :: rest => toReading item :: itemsToReading rest

/-- The entries of a table as the readers of records take them. -/
def entriesToReading : List (String × Value) → List (Option String × Reading)
  | [] => []
  | (key, value) :: rest => (some key, toReading value) :: entriesToReading rest

end

end Toml.Value

namespace Settings

/-- The four sections. -/
def record (format : SettingsFormat) : Record Settings where
  start := {}
  goesOn := format.goesOn
  fields :=
    [ field "emulator" fun v s =>
        ((EmulatorSettings.record format).read v).map fun x => { s with emulator := x },
      field "supervisor" fun v s =>
        ((SupervisorSettings.record format).read v).map fun x => { s with supervisor := x },
      field "web" fun v s =>
        ((WebSettings.record format).read v).map fun x => { s with web := x },
      field "screenshot" fun v s =>
        ((ScreenshotSettings.record format).read v).map fun x => { s with screenshot := x } ]

/-- The settings in a TOML tree. -/
def ofValue? (value : Toml.Value) : Option Settings := ((record .toml).read value.toReading).toOption

/-- The settings in a TOML document. -/
def ofToml? (text : String) : Option Settings := (Toml.read? text.toList).bind ofValue?

/-- The settings in a JSON text. -/
def ofJson? (text : String) : Option Settings := ((record .json).readText text.toList).toOption

/-- A number of sixty-four bits in a tree. -/
def number (n : UInt64) : Toml.Value := .integer n.toNat

/-- All settings as a tree, with the given texts for the two paths; an absent socket is
left out. -/
def tree (s : Settings) (binary : String) (socket : Option String) : Toml.Value :=
  .table
    [ ("emulator", .table
        ([ ("binary", .string binary),
           ("machine", .string s.emulator.machine),
           ("audio_backend", .string s.emulator.audioBackend) ]
          ++ socket.toList.map (fun path => ("monitor_socket", .string path))
          ++ [("detect_display", .boolean s.emulator.detectDisplay)])),
      ("supervisor", .table
        [ ("launch_timeout_ms", number s.supervisor.launchTimeoutMs),
          ("quit_timeout_ms", number s.supervisor.quitTimeoutMs),
          ("command_timeout_ms", number s.supervisor.commandTimeoutMs),
          ("restart", .table
            [ ("policy", .string s.supervisor.restart.policy.word),
              ("max_restarts", .integer s.supervisor.restart.maxRestarts.toNat),
              ("backoff_ms", number s.supervisor.restart.backoffMs) ]) ]),
      ("web", .table
        [ ("bind", .string s.web.bind),
          ("autostart", .boolean s.web.autostart) ]),
      ("screenshot", .table
        [ ("converter", .array (s.screenshot.converter.map .string)),
          ("wait_ms", number s.screenshot.waitMs) ]) ]

/-- All settings as a tree, unless a path is no text. -/
def toValue? (s : Settings) : Option Toml.Value := do
  let binary ← s.emulator.binary.text?
  let socket ← s.emulator.monitorSocket.mapM OsPath.text?
  return s.tree binary socket

/-- All settings as a TOML document. It is empty when a number or a path has no place in
TOML. -/
def toToml (s : Settings) : String := String.ofList ((s.toValue?.bind Toml.write?).getD [])

end Settings

end GuestSupervisor
