import GuestSupervisor.Configuration.Basic
import GuestSupervisor.Host.Program
import GuestSupervisor.Images.Name
import GuestSupervisor.Json.Reading
import GuestSupervisor.Text.Blank
import GuestSupervisor.Text.ByteSize

/-!
# The image library

Two directories, one of disks and one of discs, and the image tool that makes and
resizes disks.

## Main Definitions

* `ImageLibrary.listDisks`, `listIsos`: what the directories hold, by name.
* `ImageLibrary.createDisk`, `deleteDisk`, `resizeDisk`: changing a disk.

## Design Notes

The tool is run only with checked names and sizes. A disk is not deleted while one of
the two disks of the configuration is spelt as its path is, up to empty parts and
dots; a way around through another directory, a link or the disc drive is not seen.
-/

namespace GuestSupervisor

open Text

/-- A disk of the library. -/
structure DiskImage where
  name : String
  path : String
  /-- The size of the file. -/
  actualSize : UInt64
  /-- The size that the guest sees, when it is known. -/
  virtualSize : Option UInt64
  deriving DecidableEq, Repr, Inhabited

/-- A disk as the API shows it. -/
def DiskImage.toJson (d : DiskImage) : Json :=
  .object
    [ ("name", .string d.name),
      ("path", .string d.path),
      ("actual_size", .ofNat d.actualSize.toNat),
      ("virtual_size", .ofOption d.virtualSize fun n => .ofNat n.toNat),
      ("actual_size_human", .string (ByteSize.render d.actualSize)),
      ("virtual_size_human", .ofOption d.virtualSize fun n => .string (ByteSize.render n)) ]

/-- A disc of the library. -/
structure IsoImage where
  name : String
  path : String
  size : UInt64
  deriving DecidableEq, Repr, Inhabited

/-- A disc as the API shows it. -/
def IsoImage.toJson (i : IsoImage) : Json :=
  .object
    [ ("name", .string i.name),
      ("path", .string i.path),
      ("size", .ofNat i.size.toNat),
      ("size_human", .string (ByteSize.render i.size)) ]

/-- Where the images are and what the image tool is called. -/
structure ImageLibrary where
  diskDirectory : String
  isoDirectory : String
  imageTool : String := "qemu-img"
  deriving DecidableEq, Repr, Inhabited

/-- A file found in a directory: its name and its size. -/
structure FoundFile where
  name : String
  size : UInt64
  deriving DecidableEq, Repr, Inhabited

namespace ImageLibrary

/-- The extensions of disks. -/
def diskExtensions : List String := ["qcow2", "img", "raw"]

/-- The extensions of discs. -/
def isoExtensions : List String := ["iso"]

/-- Whether a name has one of the extensions, in either case. -/
def hasOneOf (extensions : List String) (name : String) : Bool :=
  (Path.nameExtension? name).any fun e =>
    extensions.any fun wanted => equalsIgnoringCase e.toList wanted.toList

/-- The file in an entry, if it is a regular file with one of the extensions. A link is
no regular file, whatever it leads to, and a name that is no text is passed over. -/
def found? (extensions : List String) : OsPath × Node → Option FoundFile
  | (.text name, .file content) =>
    if hasOneOf extensions name then some ⟨name, UInt64.ofNat content.length⟩ else none
  | _ => none

/-- The regular files among entries that have one of the extensions, by name. -/
def select (extensions : List String) (entries : List (OsPath × Node)) : List FoundFile :=
  (entries.filterMap (found? extensions)).mergeSort fun a b => a.name ≤ b.name

/-- The files of a directory that have one of the extensions. A missing directory
has none. -/
def scan (fs : FileSystem) (directory : String) (extensions : List String) :
    Except ImageError (List FoundFile) :=
  match fs.listDirectory directory with
  | .ok entries => .ok (select extensions entries)
  | .error failure => if failure.isMissing then .ok [] else .error (.io failure)

/-- The size in the image tool's answer about a disk. -/
def virtualSizeIn? (answer : List UInt8) : Option UInt64 := do
  let text ← Utf8.decode? answer
  let info ← Json.read? text
  let size ← info.member? "virtual-size"
  size.asUnsigned?

/-- Asks the image tool how large the guest sees a disk. -/
def askVirtualSize (library : ImageLibrary) (path : String) (host : Host) :
    Option UInt64 × Host :=
  match host.run library.imageTool ["info", "--output=json", path] [] with
  | (.ok completed, host) =>
    (if completed.success then virtualSizeIn? completed.output else none, host)
  | (.error _, host) => (none, host)

/-- What is known of the disk in a file. Only for one format is the tool asked; any
other is as large as its file. -/
def describe (library : ImageLibrary) (file : FoundFile) (host : Host) : DiskImage × Host :=
  let path := Path.join library.diskDirectory file.name
  if hasOneOf ["qcow2"] file.name then
    let (size, host) := library.askVirtualSize path host
    (⟨file.name, path, file.size, size⟩, host)
  else (⟨file.name, path, file.size, some file.size⟩, host)

/-- What is known of the disks in files, one after the other. -/
def describeAll (library : ImageLibrary) : List FoundFile → Host → List DiskImage × Host
  | [], host => ([], host)
  | file :: files, host =>
    let (disk, host) := library.describe file host
    let (disks, host) := describeAll library files host
    (disk :: disks, host)

/-- The disks, by name. -/
def listDisks (library : ImageLibrary) (host : Host) : Except ImageError (List DiskImage) × Host :=
  match scan host.files library.diskDirectory diskExtensions with
  | .error e => (.error e, host)
  | .ok files =>
    let (disks, host) := library.describeAll files host
    (.ok disks, host)

/-- The discs, by name. -/
def listIsos (library : ImageLibrary) (host : Host) : Except ImageError (List IsoImage) := do
  let files ← scan host.files library.isoDirectory isoExtensions
  .ok (files.map fun file => ⟨file.name, Path.join library.isoDirectory file.name, file.size⟩)

/-- Runs the image tool; it fails if it cannot be started or ends with another code
than zero. -/
def runTool (library : ImageLibrary) (arguments : List String) (host : Host) :
    Except ImageError Unit × Host :=
  match host.run library.imageTool arguments [] with
  | (.error failure, host) =>
    (.error (.tool ("spawn " ++ library.imageTool ++ ": " ++ failure.message)), host)
  | (.ok completed, host) =>
    if completed.success then (.ok (), host)
    else
      let said := String.ofList (trim (Utf8.decodeLossy completed.errors))
      (.error (.tool ("exit " ++ completed.statusText ++ ": " ++ said)), host)

/-- Makes an empty disk and returns the name it was given. -/
def createDisk (library : ImageLibrary) (name size : String) (host : Host) :
    Except ImageError String × Host :=
  match ImageName.sanitize name with
  | .error e => (.error e, host)
  | .ok name =>
    match Capacity.check false size with
    | .error e => (.error e, host)
    | .ok () =>
      let path := Path.join library.diskDirectory name
      if host.files.pathExists path then (.error (.alreadyExists name), host)
      else
        match host.files.makeDirectories library.diskDirectory with
        | (.error failure, fs) => (.error (.io failure), { host with files := fs })
        | (.ok (), fs) =>
          match library.runTool ["create", "-f", "qcow2", path, size] { host with files := fs } with
          | (.error e, host) => (.error e, host)
          | (.ok (), host) => (.ok name, host)

/-- The path of a disk that exists. -/
def existingDisk (library : ImageLibrary) (name : String) (fs : FileSystem) :
    Except ImageError String := do
  ImageName.check name
  let path := Path.join library.diskDirectory name
  if fs.isFile path then .ok path else .error (.notFound name)

/-- Whether a configuration attaches the disk at a path. -/
def isConfigured (library : ImageLibrary) (path : String) (c : Configuration) : Bool :=
  (c.primaryDisk.toList ++ c.secondaryDisk.toList).any fun configured =>
    Path.same (Path.join library.diskDirectory configured) path

/-- Deletes a disk that the configuration does not attach. -/
def deleteDisk (library : ImageLibrary) (name : String) (c : Configuration) (fs : FileSystem) :
    Except ImageError Unit × FileSystem :=
  match library.existingDisk name fs with
  | .error e => (.error e, fs)
  | .ok path =>
    if library.isConfigured path c then (.error (.inUse name), fs)
    else
      match fs.removeFile path with
      | .error failure => (.error (.io failure), fs)
      | .ok fs => (.ok (), fs)

/-- Resizes a disk. -/
def resizeDisk (library : ImageLibrary) (name size : String) (host : Host) :
    Except ImageError Unit × Host :=
  match library.existingDisk name host.files with
  | .error e => (.error e, host)
  | .ok path =>
    match Capacity.check true size with
    | .error e => (.error e, host)
    | .ok () => library.runTool ["resize", path, size] host

end ImageLibrary

end GuestSupervisor
