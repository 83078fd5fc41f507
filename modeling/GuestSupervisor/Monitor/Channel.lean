import GuestSupervisor.Monitor.Command
import GuestSupervisor.Monitor.Incoming

/-!
# The command channel

Every command has a connection of its own: read the greeting up to its prompt,
write one line, read the reply up to its prompt, close.

## Main Definitions

* `Peer`: how a monitor behaves on a connection.
* `Connection`: what connecting came to.
* `send`: one command, with its outcome and the bytes that were written.

## Design Notes

A peer is given by everything it will do, so a command against it is a function.
What the peer writes before it has the line and what it writes after are kept
apart; pieces of the greeting behind its prompt are read with the reply.
-/

namespace GuestSupervisor.Monitor

open Text

/-- What becomes of a line written to a peer. -/
inductive Writing where
  /-- The peer takes all of it. -/
  | taken
  /-- The peer takes so many bytes, and then writing fails. -/
  | refused (count : Nat) (failure : IoFailure)
  /-- The peer takes so many bytes and no more, and the writer waits. -/
  | stalled (count : Nat)
  deriving DecidableEq, Repr, Inhabited

/-- How a monitor behaves on one connection. -/
structure Peer where
  /-- What it writes before it has a line. -/
  greeting : Incoming
  writing : Writing
  /-- What it writes once it has the line. -/
  answer : Incoming
  deriving Repr, Inhabited

/-- What connecting to a monitor's socket comes to. -/
inductive Connection where
  | accepted (peer : Peer)
  | failed (failure : IoFailure)
  deriving Repr, Inhabited

/-- The outcome of an exchange and the bytes that the peer was given. -/
structure Exchange where
  outcome : Except ChannelError (List Char)
  written : List UInt8
  deriving Repr

/-- The bytes of a line and its end. -/
def lineBytes (line : String) : List UInt8 := Utf8.ofString line ++ [10]

/-- Talks to a peer: greeting, line, reply. The reply is as it was read. -/
def Peer.exchange (peer : Peer) (limit : Milliseconds) (line : String) : Exchange :=
  match peer.greeting.readUntilPrompt with
  | (.waiting, _) => ⟨.error (.timeout limit), []⟩
  | (.failed failure, _) => ⟨.error (.io failure), []⟩
  | (.text _ _, left) =>
    let bytes := lineBytes line
    match peer.writing with
    | .refused count failure => ⟨.error (.io failure), bytes.take count⟩
    | .stalled count => ⟨.error (.timeout limit), bytes.take count⟩
    | .taken =>
      match Incoming.readUntilPrompt ⟨left.pieces ++ peer.answer.pieces, peer.answer.ending⟩ with
      | (.waiting, _) => ⟨.error (.timeout limit), bytes⟩
      | (.failed failure, _) => ⟨.error (.io failure), bytes⟩
      | (.text text _, _) => ⟨.ok text, bytes⟩

/-- Whether a failure to connect says that nobody listens. -/
def saysNobody (failure : IoFailure) : Bool :=
  failure.isMissing || failure == .os .connectionRefused

/-- The error for a failure to connect. -/
def connectError (endpoint : String) (failure : IoFailure) : ChannelError :=
  if saysNobody failure then .unreachable endpoint else .io failure

/-- Sends one command. The line is checked before anything else. A limit of zero leaves
no time for any exchange here; that a peer with everything ready may be heard before
the limit is looked at is left out. -/
def send (endpoint : String) (limit : Milliseconds) (command : ControlCommand)
    (connection : Connection) : Exchange :=
  match command.line? with
  | .error e => ⟨.error e, []⟩
  | .ok line =>
    match connection with
    | .failed failure => ⟨.error (connectError endpoint failure), []⟩
    | .accepted peer =>
      if limit.count = 0 then ⟨.error (.timeout limit), []⟩
      else
        let exchange := peer.exchange limit line
        { exchange with outcome := exchange.outcome.map (cleanReply · line.toList) }

/-- A peer that writes a greeting and, if there is one, a reply to the line, and
then closes the connection or waits. Without a reply it never reads the line, and
writing to it fails once it has closed. -/
def Peer.scripted (greeting : List UInt8) (reply : Option (List UInt8)) (closes : Bool) : Peer :=
  let ending : Ending := if closes then .closed else .silent
  match reply with
  | none =>
    { greeting := ⟨cutPieces greeting, ending⟩
      writing := if closes then .refused 0 (.os .brokenPipe) else .taken
      answer := ⟨[], ending⟩ }
  | some reply =>
    { greeting := ⟨cutPieces greeting, .silent⟩
      writing := .taken
      answer := ⟨cutPieces reply, ending⟩ }

end GuestSupervisor.Monitor
