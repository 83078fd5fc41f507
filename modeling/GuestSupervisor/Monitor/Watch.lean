import GuestSupervisor.Host.FileSystem

/-!
# Waiting for a file

The emulator writes a picture of the screen some time after it acknowledged the
command. The wait looks at the file every fifty milliseconds until it is not empty
or the bound is reached.

## Main Definitions

* `Watch.Timeline`: whether the file is there and not empty, at each moment.
* `Watch.poll`: the wait along a timeline, with the number of looks it took.
* `Watch.isWritten`: what one look asks.
* `Watch.timelineOf`: the timeline of a file of a host.

## Design Notes

A moment is the number of nanoseconds since the wait began. It has no limit; the
program waits for at most `2^64` milliseconds, and its clock reaches further than
that.
-/

namespace GuestSupervisor.Watch

/-- Whether the file is there and not empty, by nanoseconds from the start. -/
abbrev Timeline := Nat → Bool

/-- A millisecond, in nanoseconds. -/
def millisecond : Nat := 1000000

/-- The pause between two looks, in milliseconds. -/
def pause : Nat := 50

/-- The pause between two looks, in nanoseconds. -/
def gap : Nat := pause * millisecond

/-- Takes look number `k` at `now`, gives up if the bound is reached, and otherwise
sleeps and looks again. A sleep may take longer than the pause, so look number `k`
comes `late k` nanoseconds later than it could. -/
def pollFrom (timeline : Timeline) (bound : Nat) (late : Nat → Nat) (now k : Nat) : Bool × Nat :=
  if timeline now then (true, k + 1)
  else if bound ≤ now then (false, k + 1)
  else pollFrom timeline bound late (now + gap + late (k + 1)) (k + 1)
termination_by bound - now
decreasing_by simp [gap, pause, millisecond]; omega

/-- The wait from the start: whether the file was seen, and the number of looks. -/
def poll (timeline : Timeline) (bound : Nat) (late : Nat → Nat) : Bool × Nat :=
  pollFrom timeline bound late (late 0) 0

/-- Whether a path leads to something that is not empty. -/
def isWritten (fs : FileSystem) (path : String) : Bool := (fs.reportedSize? path).any (0 < ·)

/-- What the looks at a file find, on a host whose files change with time. -/
def timelineOf (files : Nat → FileSystem) (path : String) : Timeline := fun time =>
  isWritten (files time) path

end GuestSupervisor.Watch
