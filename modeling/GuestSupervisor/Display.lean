import GuestSupervisor.Command.Builder
import GuestSupervisor.Host.Program
import GuestSupervisor.Text.Basic
import GuestSupervisor.Text.Blank
import GuestSupervisor.Text.Numeral

/-!
# The host's display

The display tool says on one line how large the screen is and may become. The
guest's screen is kept within its current size.

## Main Definitions

* `Resolution.ofProbe?`: the current size in the tool's output.
* `Resolution.ofHost?`: running the tool.
-/

namespace GuestSupervisor.Resolution

open Text

/-- The size in a text such as `1920 x 1080, maximum`: two numbers around an `x`,
up to the first comma. -/
def ofSize? (text : List Char) : Option Resolution :=
  match segments 'x' (text.takeWhile (· != ',')) with
  | width :: height :: _ => do
    let width ← readUInt32? (trim width)
    let height ← readUInt32? (trim height)
    some ⟨width, height⟩
  | _ => none

/-- The current size in the tool's output: the first line that starts with
`Screen` tells it behind the word `current`. -/
def ofProbe? (output : List Char) : Option Resolution := do
  let line ← (lines output).find? ("Screen ".toList.isPrefixOf ·)
  let (_, size) ← splitOnceOn "current ".toList line
  ofSize? size

/-- The current size of a host's display, as its display tool tells it. -/
def ofHost? (host : Host) : Option Resolution × Host :=
  match host.run "xrandr" ["--current"] [] with
  | (.ok completed, host) =>
    (if completed.success then ofProbe? (Utf8.decodeLossy completed.output) else none, host)
  | (.error _, host) => (none, host)

end GuestSupervisor.Resolution
