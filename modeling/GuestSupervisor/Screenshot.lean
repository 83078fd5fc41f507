import GuestSupervisor.Host.Program
import GuestSupervisor.Monitor.Command
import GuestSupervisor.Text.Blank
import GuestSupervisor.Text.Duration

/-!
# Screenshots

A picture of the guest's screen comes from the emulator in a raw format. A
converter, any program that reads one picture and writes another, makes the picture
that is kept, and the latest one replaces the one before.

## Main Definitions

* `Screenshotter`: where pictures are kept and how they are converted.
* `Screenshotter.convert`: from a raw picture to the latest one.
* `ScreenshotError`: what went wrong, with its causes.
-/

namespace GuestSupervisor

open Text

/-- Why there is no new picture. -/
inductive ScreenshotError where
  /-- The directory of pictures could not be made. -/
  | createDirectory (path : String) (failure : IoFailure)
  /-- The emulator was not reached or did not take the command. -/
  | screendump (cause : ChannelError)
  /-- The emulator took the command and wrote nothing. -/
  | notWritten (path : String) (bound : Milliseconds)
  | noConverter
  | openInput (path : String) (failure : IoFailure)
  | spawnConverter (program : String) (failure : IoFailure)
  /-- The converter failed or wrote nothing. -/
  | converterFailed (program status errors : String)
  /-- The new picture could not be written. -/
  | writeAside (failure : IoFailure)
  /-- The old picture could not be replaced. -/
  | replace (path : String) (failure : IoFailure)
  deriving DecidableEq, Repr, Inhabited

namespace ScreenshotError

/-- What went wrong, the outermost first and its causes after it. -/
def chain : ScreenshotError → List String
  | createDirectory path failure => ["create " ++ path, failure.message]
  | screendump cause => ["screendump", cause.message]
  | notWritten path bound => ["emulator did not write " ++ path ++ " within " ++ bound.render]
  | noConverter => ["no screenshot converter configured"]
  | openInput path failure => ["open " ++ path, failure.message]
  | spawnConverter program failure => ["spawn converter " ++ program, failure.message]
  | converterFailed program status errors =>
    [program ++ " failed (" ++ status ++ "): " ++ errors]
  | writeAside failure => [failure.message]
  | replace path failure =>
    ["replace " ++ path, "failed to persist temporary file: " ++ failure.message, failure.message]

/-- The whole chain in one line. -/
def message (e : ScreenshotError) : String := ": ".intercalate e.chain

end ScreenshotError

/-- Where pictures are kept and how they are made. -/
structure Screenshotter where
  directory : String
  /-- The converter's command line. -/
  converter : List String
  /-- How long to wait for the emulator to write a picture. -/
  wait : Milliseconds
  deriving DecidableEq, Repr, Inhabited

namespace Screenshotter

/-- The path of the latest picture. -/
def latestPath (s : Screenshotter) : String := Path.join s.directory "latest.png"

/-- The path of the directory that a new picture is written aside in. -/
def base (s : Screenshotter) : String := Path.orHere s.directory

/-- The latest picture, if there is one. -/
def latest? (s : Screenshotter) (fs : FileSystem) : Option String :=
  if fs.isFile s.latestPath then some s.latestPath else none

/-- What a program is given to read from a path; a directory can be opened and has
nothing to read. -/
def openInput (fs : FileSystem) (path : String) : Except IoFailure (List UInt8) :=
  match fs.node? path with
  | .ok .directory => .ok []
  | _ => fs.readBytes path

/-- Runs the converter on a raw picture. -/
def runConverter (s : Screenshotter) (raw : String) (host : Host) :
    Except ScreenshotError (List UInt8) × Host :=
  match s.converter with
  | [] => (.error .noConverter, host)
  | program :: arguments =>
    match openInput host.files raw with
    | .error failure => (.error (.openInput raw failure), host)
    | .ok input =>
      match host.run program arguments input with
      | (.error failure, host) => (.error (.spawnConverter program failure), host)
      | (.ok completed, host) =>
        if completed.success && !completed.output.isEmpty then (.ok completed.output, host)
        else
          let said := String.ofList (trim (Utf8.decodeLossy completed.errors))
          (.error (.converterFailed program completed.statusText said), host)

/-- Makes the latest picture from a raw one, and returns its path. On any failure
the picture before stays. -/
def convert (s : Screenshotter) (raw : String) (host : Host) :
    Except ScreenshotError String × Host :=
  match s.runConverter raw host with
  | (.error e, host) => (.error e, host)
  | (.ok picture, host) =>
    match host.files.listDirectory s.base with
    | .error failure => (.error (.writeAside failure), host)
    | .ok _ =>
      match host.files.replaceFile s.latestPath picture with
      | .error failure => (.error (.replace s.latestPath failure), host)
      | .ok fs => (.ok s.latestPath, { host with files := fs })

end Screenshotter

end GuestSupervisor
