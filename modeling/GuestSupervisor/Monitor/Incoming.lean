import GuestSupervisor.Host.Failure
import GuestSupervisor.Monitor.Reply

/-!
# Reading from the monitor

What comes from the monitor comes in pieces of up to 4096 bytes. Reading goes on
until the text so far ends in the prompt, the monitor closes the connection, or
the reply grows beyond all reason.

## Main Definitions

* `Incoming`: the pieces to come, and how they end.
* `Collected`: what was read so far.
* `Incoming.readUntilPrompt`: reading up to a prompt.

## Design Notes

After each piece the prompt is looked for before the length is tested. The text so
far is kept as the state of a machine, so that looking for the prompt costs no more
than the piece.
-/

namespace GuestSupervisor.Monitor

open Text

/-- How a stream of pieces ends. -/
inductive Ending where
  /-- The peer closes the connection. -/
  | closed
  /-- The peer keeps the connection and writes nothing more. -/
  | silent
  /-- Reading fails. -/
  | failed (failure : IoFailure)
  deriving DecidableEq, Repr, Inhabited

/-- What is still to come from a peer: pieces, none of them empty, and an end. -/
structure Incoming where
  pieces : List (List UInt8)
  ending : Ending
  deriving Repr, Inhabited

/-- The most bytes that are read at once. -/
def pieceSize : Nat := 4096

/-- The length beyond which a reply is given up. -/
def replyLimit : Nat := 1048576

/-- Cuts bytes into pieces as they are read. -/
def cutPieces (bytes : List UInt8) : List (List UInt8) :=
  match bytes with
  | [] => []
  | b :: rest => (b :: rest.take (pieceSize - 1)) :: cutPieces (rest.drop (pieceSize - 1))
termination_by bytes.length
decreasing_by simp only [List.length_drop, List.length_cons]; omega

/-- What was read so far. -/
structure Collected where
  /-- The pieces, the last one first. -/
  pieces : List (List UInt8)
  /-- The number of bytes in them. -/
  count : Nat
  /-- The machine's state after them, and its text so far, last character first. -/
  run : (Utf8.State × EscapeState) × List Char
  deriving Repr

namespace Collected

/-- Nothing yet. -/
def start : Collected := ⟨[], 0, (reader.start, [])⟩

/-- One piece more. -/
def push (c : Collected) (piece : List UInt8) : Collected :=
  ⟨piece :: c.pieces, c.count + piece.length, reader.runFrom c.run piece⟩

/-- All bytes in order. -/
def bytes (c : Collected) : List UInt8 := c.pieces.reverse.flatten

/-- The text in front of the prompt, if what was read ends in it. -/
def beforePrompt? (c : Collected) : Option (List Char) :=
  beforePromptReversed? ((reader.finish c.run.1).reverse ++ c.run.2)

/-- The text of a connection that ended without a prompt; escape sequences stay. -/
def rawText (c : Collected) : List Char := Utf8.decodeLossy c.bytes

end Collected

/-- What reading up to a prompt comes to. -/
inductive ReadResult where
  /-- A text, ended by a prompt or by the end of the stream. -/
  | text (text : List Char) (prompted : Bool)
  | failed (failure : IoFailure)
  /-- The peer is silent, and the reader waits for it. -/
  | waiting
  deriving DecidableEq, Repr

/-- Reads pieces until one of them completes a prompt; the pieces behind it stay. -/
def readPieces (ending : Ending) (c : Collected) : List (List UInt8) → ReadResult × Incoming
  | [] =>
    let result := match ending with
      | .closed => .text c.rawText false
      | .silent => .waiting
      | .failed failure => .failed failure
    (result, ⟨[], ending⟩)
  | piece :: rest =>
    let c := c.push piece
    match c.beforePrompt? with
    | some text => (.text text true, ⟨rest, ending⟩)
    | none =>
      if replyLimit < c.count then (.failed .replyTooLong, ⟨rest, ending⟩)
      else readPieces ending c rest

/-- Reads up to a prompt, and what is left to read. -/
def Incoming.readUntilPrompt (incoming : Incoming) : ReadResult × Incoming :=
  readPieces incoming.ending .start incoming.pieces

end GuestSupervisor.Monitor
