import GuestSupervisor.Text.Basic
import GuestSupervisor.Text.Blank
import GuestSupervisor.Text.Escapes
import GuestSupervisor.Text.Utf8

/-!
# Monitor replies

The monitor writes a greeting, and for each command an echo of the line and an
answer; all end in a prompt. What it writes may hold escape sequences and carriage
returns.

## Main Definitions

* `Monitor.prompt`: what the monitor writes when it waits for a command.
* `Monitor.reader`: bytes to text without escape sequences.
* `Monitor.beforePrompt?`: the text in front of a prompt that ends it.
* `Monitor.cleanReply`: the answer alone.
-/

namespace GuestSupervisor.Monitor

open Text

/-- What the monitor writes when it waits for a command. -/
def prompt : List Char := "(qemu) ".toList

/-- The machine from bytes to text without escape sequences. -/
def reader : Transducer (Utf8.State × EscapeState) UInt8 Char := Utf8.decoder.andThen stripper

/-- The text in front of the prompt, given from its end; nothing when it does not
end in the prompt. -/
def beforePromptReversed? (reversed : List Char) : Option (List Char) :=
  (prompt.reverse.isPrefixOf? reversed).map List.reverse

/-- The text in front of the prompt that ends it. -/
def beforePrompt? (bytes : List UInt8) : Option (List Char) :=
  beforePromptReversed? (reader.complete bytes).reverse

/-- The lines without the first one, if that is the line that was sent. -/
def dropEcho (sent : List Char) : List (List Char) → List (List Char)
  | first :: rest => if trim first = sent then rest else first :: rest
  | [] => []

/-- The answer in a reply: no escape sequences, no carriage returns, no echo of the
line that was sent and no blanks around it. -/
def cleanReply (raw sent : List Char) : List Char :=
  let text := replaceAll '\r' [] (stripEscapes raw)
  trim (['\n'].intercalate (dropEcho sent (lines text)))

end GuestSupervisor.Monitor
