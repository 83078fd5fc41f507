import GuestSupervisor.CommandLine.Run

/-!
# The program

The outer layer of the command line: it reads the environment and the files that the
command may look at, runs the command, and writes back what it changed.

Only files with known names are read: the two files of the configuration directory
and the configured images, of which it matters only that they are there. So no images
are listed here, and without a network nothing is served.
-/

namespace GuestSupervisor.Main

open CommandLine

/-- The environment of the process. -/
def readEnvironment : IO Environment := do
  return {
    root := ← IO.getEnv "MACEMU_HOME"
    home := ← IO.getEnv "HOME"
    configHome := ← IO.getEnv "XDG_CONFIG_HOME"
    dataHome := ← IO.getEnv "XDG_DATA_HOME"
    runtimeDirectory := ← IO.getEnv "XDG_RUNTIME_DIR"
    stateHome := ← IO.getEnv "XDG_STATE_HOME" }

/-- Takes a file into the files of a host, with the directories above it. -/
def takeFile (files : FileSystem) (path : String) (content : List UInt8) : FileSystem :=
  let files := match Path.parent? path with
    | some directory => (files.makeDirectories directory).2
    | none => files
  (files.writeFile path content).toOption.getD files

/-- Reads a file, if it is there, into the files of a host. -/
def readInto (files : FileSystem) (path : String) : IO FileSystem := do
  match ← (IO.FS.readBinFile path).toBaseIO with
  | .ok content => return takeFile files path content.toList
  | .error _ => return files

/-- Looks whether a file is there; its content does not matter. -/
def lookFor (files : FileSystem) (path : String) : IO FileSystem := do
  let look : IO ByteArray := do (← IO.FS.Handle.mk path .read).read 1
  match ← look.toBaseIO with
  | .ok _ => return takeFile files path []
  | .error _ => return files

/-- The files that a command may look at. -/
def readFiles (layout : Layout) : IO FileSystem := do
  let mut files : FileSystem := ⟨[], [], []⟩
  files ← readInto files layout.configFile
  files ← readInto files layout.settingsFile
  let c := ((ConfigurationStore.mk layout.configFile).load files).configuration
  for disk in c.primaryDisk.toList ++ c.secondaryDisk.toList do
    files ← lookFor files (Path.join layout.disk disk)
  for disc in c.cdrom.toList do
    files ← lookFor files (Path.join layout.iso disc)
  return files

/-- Writes a file that a command changed. -/
def writeBack (before after : FileSystem) (path : String) : IO Unit := do
  let content := (after.readBytes path).toOption
  if content != (before.readBytes path).toOption then
    if let some content := content then
      if let some directory := Path.parent? path then
        IO.FS.createDirAll directory
      IO.FS.writeBinFile path ⟨content.toArray⟩

/-- Whether a command line asks for a list of images. -/
def listsImages (arguments : List String) : Bool :=
  match Invocation.ofWords arguments with
  | .ok ⟨_, _, .chore .listDisks⟩ | .ok ⟨_, _, .chore .listIsos⟩ => true
  | _ => false

/-- What is told about something that this program cannot do. -/
def unsupported : IoFailure := .other "not supported"

/-- Tells the outcome of a command. -/
def tell (outcome : Outcome) : IO UInt32 := do
  (← IO.getStdout).putStr outcome.output
  (← IO.getStderr).putStr outcome.errors
  return outcome.code.toUInt32

end GuestSupervisor.Main

open GuestSupervisor GuestSupervisor.CommandLine GuestSupervisor.Main

/-- Runs the command line. -/
def main (arguments : List String) : IO UInt32 := do
  let environment ← readEnvironment
  let logging := (← IO.getEnv "MACEMU_LOG") = some "1"
  let layout := Layout.resolve? environment
  if listsImages arguments then return ← tell (.failed (.image (.io unsupported)))
  let files ← match layout with
    | some layout => readFiles layout
    | none => pure ⟨[], [], []⟩
  let host : Host := ⟨files, [], [], []⟩
  match run ⟨environment, logging, .none⟩ arguments (← IO.monoMsNow) host with
  | .ended outcome host =>
    if let some layout := layout then
      writeBack files host.files layout.configFile
      writeBack files host.files (Path.join layout.logs "macemu.log")
    tell outcome
  | .serving _ address _ => tell (.failed (.bind address unsupported))
