import GuestSupervisor.Images.Library
import GuestSupervisor.Text.ByteSize

/-!
# Listings

The lines in which images are listed, one image on a line and its sizes in columns.

## Main Definitions

* `diskLine`, `isoLine`.
-/

namespace GuestSupervisor.CommandLine

open Text

/-- A text with blanks behind it up to a number of characters. A longer text stays as
it is. -/
def padEnd (width : Nat) (text : String) : String :=
  text ++ String.ofList (List.replicate (width - text.length) ' ')

/-- A text with blanks before it up to a number of characters. -/
def padStart (width : Nat) (text : String) : String :=
  String.ofList (List.replicate (width - text.length) ' ') ++ text

/-- A disk with the sizes of its file and of what the guest sees. -/
def diskLine (d : DiskImage) : String :=
  let seen := (d.virtualSize.map ByteSize.render).getD "?"
  padEnd 32 d.name ++ " " ++ padStart 10 (ByteSize.render d.actualSize) ++ " " ++ padStart 10 seen

/-- A disc with its size. -/
def isoLine (i : IsoImage) : String :=
  padEnd 40 i.name ++ " " ++ padStart 10 (ByteSize.render i.size)

end GuestSupervisor.CommandLine
