import GuestSupervisor.Supervisor.Handle

/-!
# The state that everybody shares

The machine of the latest instance and its published handle are two copies of one
phase. Both change in one step, and only by events that name the latest instance.

## Main Definitions

* `Active`: the machine of the latest instance and what is known of its watcher.
* `Core`: the counter of launches, the machine and the published handle.
* `Core.transition`: an event for an instance.
* `Core.install`: a new instance in the place of the one before.
-/

namespace GuestSupervisor.Supervisor

open Instance

/-- The latest instance, as the supervisor follows it. -/
structure Active where
  generation : Nat
  phase : Phase
  /-- Whether an order to kill can be given to the watcher. -/
  killSwitch : Bool
  /-- Whether the watcher is known. -/
  watched : Bool
  deriving DecidableEq, Repr, Inhabited

/-- What all operations share. -/
structure Core where
  /-- How many processes were started, which is the latest generation. -/
  launched : Nat
  active : Option Active
  published : Option Handle
  /-- How often something was published. -/
  revision : Nat
  deriving DecidableEq, Repr, Inhabited

namespace Core

/-- Before the first launch. -/
def start : Core := ⟨0, none, none, 0⟩

/-- A published handle after an event. An exit that is recorded stays. -/
def republish (published : Option Handle) (generation : Nat) (phase : Phase)
    (exit : Option ExitInfo) : Option Handle :=
  published.map fun h =>
    if h.generation = generation then { h with phase, exit := h.exit.or exit } else h

/-- An event for an instance, possibly with the record of its exit. An event for any
instance but the latest is dropped. -/
def transition (core : Core) (generation : Nat) (event : Event) (exit : Option ExitInfo) : Core :=
  match core.active with
  | none => core
  | some active =>
    if active.generation = generation then
      let phase := active.phase.step event
      { core with
        active := some { active with phase, killSwitch := active.killSwitch && !phase.isTerminal }
        published := republish core.published generation phase exit
        revision := core.revision + 1 }
    else core

/-- A new instance, starting. -/
def install (core : Core) (pid : UInt32) (startedAt : Text.Timestamp) (restarts : Nat)
    (configuration : Configuration) (command : EmulatorCommand) : Core :=
  let generation := core.launched + 1
  { launched := generation
    active := some ⟨generation, .starting, false, false⟩
    published := some
      { generation, pid, startedAt, phase := .starting, exit := none, restarts, configuration,
        command }
    revision := core.revision + 1 }

/-- The watcher of an instance becomes known. -/
def attach (core : Core) (generation : Nat) : Core :=
  { core with
    active := core.active.map fun active =>
      if active.generation = generation then { active with killSwitch := true, watched := true }
      else active }

/-- The order to kill is given; it can be given once. -/
def useKillSwitch (core : Core) (generation : Nat) : Core :=
  { core with
    active := core.active.map fun active =>
      if active.generation = generation then { active with killSwitch := false } else active }

/-- Whether the order to kill can be given to the watcher of an instance. -/
def hasKillSwitch (core : Core) (generation : Nat) : Bool :=
  core.active.any fun active => active.generation == generation && active.killSwitch

/-- Whether the watcher of an instance is known. -/
def isWatched (core : Core) (generation : Nat) : Bool :=
  core.active.any fun active => active.generation == generation && active.watched

/-- Whether nobody need wait for an instance any more: it has ended or was
replaced. -/
def isOver (core : Core) (generation : Nat) : Bool :=
  core.published.all fun h => h.generation != generation || h.phase.isTerminal

end Core

end GuestSupervisor.Supervisor
