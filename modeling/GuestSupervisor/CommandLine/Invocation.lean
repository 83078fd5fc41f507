import GuestSupervisor.Text.Basic

/-!
# Command lines

What a user asks for, and how the words of a command line say it. Commands form a
small tree; at each of its places some options are known, and two of them, the
server's address and the wish for more messages, are known everywhere.

## Main Definitions

* `Command`: what can be asked for: to serve, an `Errand` or a `Chore`.
* `Invocation`: a command with the options known everywhere.
* `Invocation.ofWords`: reading a command line, or why there is nothing to run.

## Design Notes

An option may be given once at each place, and the innermost place counts. An option's
value is a word that does not look like an option itself, or follows an equals sign.
-/

namespace GuestSupervisor.CommandLine

open Text

/-- What the server of a running supervisor is asked to do. -/
inductive Errand where
  | start
  | stop
  | reset
  | pause
  | resume
  | restart
  | screenshot
  | status
  deriving DecidableEq, Repr, Inhabited

/-- What is done right here, on the files of the installation. -/
inductive Chore where
  | showConfiguration
  | editConfiguration (assignments : List String)
  /-- Show the emulator's command line. -/
  | showArguments
  | listDisks
  | listIsos
  | showSettings
  deriving DecidableEq, Repr, Inhabited

/-- What can be asked for. -/
inductive Command where
  /-- Run the supervisor and its API. -/
  | serve (bind : Option String) (autostart : Bool)
  | errand (errand : Errand)
  | chore (chore : Chore)
  deriving DecidableEq, Repr, Inhabited

/-- Where the server is when nobody says it. -/
def usualServer : String := "http://127.0.0.1:8080"

/-- A command with the options that are known everywhere. -/
structure Invocation where
  server : String
  verbose : Bool
  command : Command
  deriving DecidableEq, Repr, Inhabited

/-- Why a command line gives nothing to run. -/
inductive Stop where
  | usage
  | version
  | help
  deriving DecidableEq, Repr, Inhabited

/-- A place in the tree of commands. -/
inductive Place where
  | top
  | configuration
  | edit
  | serve
  /-- A command without words or options of its own. -/
  | plain (command : Command)
  deriving DecidableEq, Repr, Inhabited

/-- The options that are known everywhere. -/
structure CommonOptions where
  server : Option String := none
  verbose : Bool := false
  deriving DecidableEq, Repr, Inhabited

/-- What was read so far. -/
structure Given where
  /-- The options at the places before. -/
  outer : CommonOptions := {}
  /-- The options at this place. -/
  here : CommonOptions := {}
  bind : Option String := none
  autostart : Bool := false
  assignments : List String := []
  deriving DecidableEq, Repr, Inhabited

/-- What an option does. Storing fails for one that was given before. -/
inductive OptionKind where
  | flag (store : Given → Option Given)
  | value (store : String → Given → Option Given)
  | stops (reason : Stop)

namespace Given

/-- Stores the wish for more messages. -/
def storeVerbose (g : Given) : Option Given :=
  if g.here.verbose then none else some { g with here := { g.here with verbose := true } }

/-- Stores the server's address. -/
def storeServer (value : String) (g : Given) : Option Given :=
  if g.here.server.isSome then none else some { g with here := { g.here with server := some value } }

/-- Stores the address to listen at. -/
def storeBind (value : String) (g : Given) : Option Given :=
  if g.bind.isSome then none else some { g with bind := some value }

/-- Stores the wish to start an instance right away. -/
def storeAutostart (g : Given) : Option Given :=
  if g.autostart then none else some { g with autostart := true }

/-- The options that count: those of the innermost place. -/
def common (g : Given) : CommonOptions :=
  ⟨g.here.server <|> g.outer.server, g.here.verbose || g.outer.verbose⟩

/-- What is known when the next place is entered. -/
def descend (g : Given) : Given := { g with outer := g.common, here := {} }

end Given

namespace Place

/-- The option with a long name. -/
def long? (place : Place) (name : String) : Option OptionKind :=
  match place, name with
  | _, "api" => some (.value Given.storeServer)
  | _, "verbose" => some (.flag Given.storeVerbose)
  | _, "help" => some (.stops .help)
  | .top, "version" => some (.stops .version)
  | .serve, "bind" => some (.value Given.storeBind)
  | .serve, "autostart" => some (.flag Given.storeAutostart)
  | _, _ => none

/-- The option with a short name. -/
def short? (place : Place) (name : Char) : Option OptionKind :=
  match place, name with
  | _, 'v' => some (.flag Given.storeVerbose)
  | _, 'h' => some (.stops .help)
  | .top, 'V' => some (.stops .version)
  | _, _ => none

/-- The place that a word leads to from the top. -/
def fromTop? : String → Option Place
  | "serve" => some .serve
  | "start" => some (.plain (.errand .start))
  | "stop" => some (.plain (.errand .stop))
  | "reset" => some (.plain (.errand .reset))
  | "pause" => some (.plain (.errand .pause))
  | "resume" => some (.plain (.errand .resume))
  | "restart" => some (.plain (.errand .restart))
  | "status" => some (.plain (.errand .status))
  | "screenshot" => some (.plain (.errand .screenshot))
  | "config" => some .configuration
  | "args" => some (.plain (.chore .showArguments))
  | "disks" => some (.plain (.chore .listDisks))
  | "isos" => some (.plain (.chore .listIsos))
  | "settings" => some (.plain (.chore .showSettings))
  | _ => none

/-- A word at a place: it leads on, or is an assignment, or has nothing to do there. -/
def takeWord (place : Place) (word : String) (g : Given) : Except Stop (Place × Given) :=
  match place with
  | .top =>
    match fromTop? word with
    | some next => .ok (next, g.descend)
    | none => .error (if word = "help" then .help else .usage)
  | .configuration =>
    match word with
    | "show" => .ok (.plain (.chore .showConfiguration), g.descend)
    | "set" => .ok (.edit, g.descend)
    | "help" => .error .help
    | _ => .error .usage
  | .edit => .ok (.edit, { g with assignments := g.assignments ++ [word] })
  | .serve | .plain _ => .error .usage

/-- The command at a place, if nothing is missing. -/
def command? (place : Place) (g : Given) : Option Command :=
  match place with
  | .top | .configuration => none
  | .edit => if g.assignments.isEmpty then none else some (.chore (.editConfiguration g.assignments))
  | .serve => some (.serve g.bind g.autostart)
  | .plain command => some command

/-- What a command line says that ends at a place. -/
def finish (place : Place) (g : Given) : Except Stop Invocation :=
  match place.command? g with
  | some command => .ok ⟨g.common.server.getD usualServer, g.common.verbose, command⟩
  | none => .error .usage

/-- The words behind two dashes on their own: none of them is an option or leads on. -/
def finishWith (place : Place) (g : Given) (words : List String) : Except Stop Invocation :=
  match place, words with
  | place, [] => place.finish g
  | .edit, words => Place.edit.finish { g with assignments := g.assignments ++ words }
  | _, _ => .error .usage

/-- Several short options in one word. None of them takes a value. -/
def takeShort (place : Place) (g : Given) : List Char → Except Stop Given
  | [] => .ok g
  | name :: rest =>
    match place.short? name with
    | some (.flag store) =>
      match store g with
      | some g => place.takeShort g rest
      | none => .error .usage
    | some (.stops reason) => .error reason
    | _ => .error .usage

end Place

/-- How a word looks. -/
inductive WordForm where
  /-- Two dashes on their own. -/
  | divider
  | long (name : String) (value : Option String)
  | short (names : List Char)
  | plain
  deriving DecidableEq, Repr, Inhabited

/-- The form of a word. A single dash is a plain word. -/
def WordForm.of (word : String) : WordForm :=
  match word.toList with
  | ['-', '-'] => .divider
  | '-' :: '-' :: rest =>
    match splitOnce '=' rest with
    | some (name, value) => .long (String.ofList name) (some (String.ofList value))
    | none => .long (String.ofList rest) none
  | '-' :: name :: rest => .short (name :: rest)
  | _ => .plain

/-- Reads words at a place. -/
def Place.read (place : Place) (g : Given) : List String → Except Stop Invocation
  | [] => place.finish g
  | word :: rest =>
    match WordForm.of word with
    | .divider => place.finishWith g rest
    | .long name value =>
      match place.long? name, value with
      | some (.flag store), none =>
        match store g with
        | some g => place.read g rest
        | none => .error .usage
      | some (.value store), some value =>
        match store value g with
        | some g => place.read g rest
        | none => .error .usage
      | some (.value store), none =>
        match rest with
        | [] => .error .usage
        | value :: rest =>
          match WordForm.of value, store value g with
          | .plain, some g => place.read g rest
          | _, _ => .error .usage
      | some (.stops reason), none => .error reason
      | _, _ => .error .usage
    | .short names =>
      match place.takeShort g names with
      | .ok g => place.read g rest
      | .error reason => .error reason
    | .plain =>
      match place.takeWord word g with
      | .ok (next, g) => next.read g rest
      | .error reason => .error reason

/-- What the words of a command line ask for. -/
def Invocation.ofWords (words : List String) : Except Stop Invocation := Place.top.read {} words

end GuestSupervisor.CommandLine
