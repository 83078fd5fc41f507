import GuestSupervisor.Proofs.Monitor.Reading
import GuestSupervisor.Supervisor.Schedule

/-!
# No command is given twice

A line is written once its connection is open and the greeting has been read, and from then on no
error says that nobody was reached.  Only that error makes for a second attempt.  So whatever is
published at the time of an attempt, whatever connecting comes to and whatever the monitors do,
all attempts of one request together write nothing or the beginning of one line.

## Main Definitions

* `Peer.upTo` — a monitor that greets so far and no further.
* `Surroundings` — what a request meets, of which nothing is assumed.
* `Surroundings.ask` — one attempt, `Surroundings.request` — all attempts of a request.

## Main Statements

* `attempt_cases` — an attempt writes nothing, or it is an exchange about its line.
* `attempt_invited` — the monitor waits for the line before any of it is written.
* `Surroundings.request_cases` — a second attempt follows one that reached nobody.
* `Surroundings.written_at_most_once` — a request writes nothing or the beginning of one line.
* `Schedule.written_request` — so does a request while the programs are running.
* `Schedule.written_of_request_eq_ok` — a request that is answered has written one line.
-/

namespace GuestSupervisor

namespace Monitor

open Text

variable {peer : Peer} {limit : Milliseconds} {line endpoint : String} {command : ControlCommand}
  {connection : Connection} {e : ChannelError}

/-! ## One exchange -/

/-- **The monitor as far as it has been heard**: it wrote these pieces, and nothing more comes. -/
def Peer.upTo (peer : Peer) (read : List (List UInt8)) : Peer :=
  { peer with greeting := ⟨read, .silent⟩ }

theorem Peer.written_exchange (peer : Peer) (limit : Milliseconds) (line : String) :
    (peer.exchange limit line).written <+: lineBytes line := by
  unfold exchange
  cases peer.greeting.readUntilPrompt with
  | mk result left =>
    cases result with
    | waiting | failed => exact List.nil_prefix
    | text =>
      cases peer.writing with
      | refused count | stalled count => exact List.take_prefix count _
      | taken =>
        simp only
        split <;> exact List.prefix_rfl

/-- An exchange that is answered has written all of its line. -/
theorem Peer.written_of_answered {text : List Char}
    (answered : (peer.exchange limit line).outcome = .ok text) :
    (peer.exchange limit line).written = lineBytes line := by
  unfold exchange at answered ⊢
  cases greeted : peer.greeting.readUntilPrompt with
  | mk result left =>
    rw [greeted] at answered
    cases result with
    | waiting | failed => cases answered
    | text =>
      cases writing : peer.writing with
      | refused | stalled => simp [writing] at answered
      | taken =>
        simp only
        split <;> rfl

/-- An error in an exchange never says that nobody was reached. -/
theorem Peer.isUnreachable_exchange (failed : (peer.exchange limit line).outcome = .error e) :
    Supervisor.isUnreachable e = false := by
  unfold exchange at failed
  cases greeted : peer.greeting.readUntilPrompt with
  | mk result left =>
    rw [greeted] at failed
    cases result with
    | waiting | failed =>
      cases failed
      rfl
    | text =>
      cases writes : peer.writing with
      | refused | stalled =>
        rw [writes] at failed
        cases failed
        rfl
      | taken =>
        simp only [writes] at failed
        split at failed <;> cases failed <;> rfl

/-- **The monitor waits for the line before any of it is written**: who had read any less of the
greeting would have written nothing. -/
theorem Peer.exists_invites (wrote : (peer.exchange limit line).written ≠ []) :
    ∃ read, peer.greeting.Invites read ∧ ∀ earlier, earlier <+: read → earlier ≠ read →
      ((peer.upTo earlier).exchange limit line).written = [] := by
  cases greeted : peer.greeting.readUntilPrompt with
  | mk result left =>
    cases result with
    | waiting | failed => exact absurd (by simp [exchange, greeted]) wrote
    | text text prompted =>
      obtain ⟨read, invites, waits⟩ := Incoming.exists_invites greeted
      refine ⟨read, invites, fun earlier front other => ?_⟩
      simp [exchange, upTo, waits earlier front other]

end Monitor

namespace Supervisor

open Monitor

variable {options : SupervisorOptions} {current : Option Handle} {expected : Option Nat}
  {command : ControlCommand} {connection : Connection} {e : ChannelError}

/-! ## One attempt -/

/-- **What an attempt is**: a check fails and nothing is written, or the checks are passed and the
connection is open, and then an attempt on any connection is an exchange about the same line. -/
theorem attempt_cases (options : SupervisorOptions) (current : Option Handle)
    (expected : Option Nat) (command : ControlCommand) (connection : Connection) :
    (∃ e, attempt options current expected command connection = ⟨.error e, []⟩) ∨
      ∃ line peer, command.line? = .ok line ∧ connection = .accepted peer ∧ ∀ peer : Peer,
        attempt options current expected command (.accepted peer)
          = { peer.exchange options.commandTimeout line with
              outcome := (peer.exchange options.commandTimeout line).outcome.map
                (cleanReply · line.toList) } := by
  unfold attempt
  cases passed : addressee options current expected command with
  | error e => exact .inl ⟨e, rfl⟩
  | ok h =>
    unfold send
    cases spoken : command.line? with
    | error e => exact .inl ⟨e, rfl⟩
    | ok line =>
      cases connection with
      | failed failure => exact .inl ⟨_, rfl⟩
      | accepted peer =>
        by_cases hurried : options.commandTimeout.count = 0
        · exact .inl ⟨_, by simp only [if_pos hurried]; rfl⟩
        · exact .inr ⟨line, peer, rfl, rfl, fun peer => by simp only [if_neg hurried]⟩

/-- **What is written is written to a monitor**, by an exchange about the line. -/
theorem exists_exchange
    (wrote : (attempt options current expected command connection).written ≠ []) :
    ∃ line peer, command.line? = .ok line ∧ connection = .accepted peer ∧ ∀ peer : Peer,
      attempt options current expected command (.accepted peer)
        = { peer.exchange options.commandTimeout line with
            outcome := (peer.exchange options.commandTimeout line).outcome.map
              (cleanReply · line.toList) } := by
  rcases attempt_cases options current expected command connection with ⟨e, silent⟩ | exchanged
  · exact absurd (by rw [silent]) wrote
  · exact exchanged

/-- **An attempt that is answered has written all of its line.** -/
theorem written_attempt_of_answered {reply : List Char}
    (answered : (attempt options current expected command connection).outcome = .ok reply) :
    ∃ line, command.line? = .ok line ∧
      (attempt options current expected command connection).written = lineBytes line := by
  rcases attempt_cases options current expected command connection with
    ⟨e, silent⟩ | ⟨line, peer, spoken, rfl, talks⟩
  · rw [silent] at answered
    cases answered
  · rw [talks] at answered ⊢
    cases exchanged : (peer.exchange options.commandTimeout line).outcome with
    | error e => simp [exchanged, Except.map] at answered
    | ok text => exact ⟨line, spoken, Peer.written_of_answered exchanged⟩

/-- An attempt writes nothing or the beginning of the line. -/
theorem written_attempt (options : SupervisorOptions) (current : Option Handle)
    (expected : Option Nat) (command : ControlCommand) (connection : Connection) :
    (attempt options current expected command connection).written = [] ∨
      ∃ line, command.line? = .ok line ∧
        (attempt options current expected command connection).written <+: lineBytes line := by
  by_cases silent : (attempt options current expected command connection).written = []
  · exact .inl silent
  · obtain ⟨line, peer, spoken, rfl, talks⟩ := exists_exchange silent
    exact .inr ⟨line, spoken, by rw [talks]; exact peer.written_exchange _ line⟩

/-- **Who reached nobody has written nothing.** -/
theorem written_of_unreachable
    (failed : (attempt options current expected command connection).outcome = .error e)
    (nobody : isUnreachable e) :
    (attempt options current expected command connection).written = [] := by
  refine Classical.byContradiction fun wrote => ?_
  obtain ⟨line, peer, -, rfl, talks⟩ := exists_exchange wrote
  rw [talks] at failed
  cases came : (peer.exchange options.commandTimeout line).outcome with
  | ok text => simp [came, Except.map] at failed
  | error e' =>
    obtain rfl : e' = e := by simpa [came, Except.map] using failed
    rw [Peer.isUnreachable_exchange came] at nobody
    cases nobody

/-- **The monitor waits for the line before any of it is written.** -/
theorem attempt_invited
    (wrote : (attempt options current expected command connection).written ≠ []) :
    ∃ peer read, connection = .accepted peer ∧ peer.greeting.Invites read ∧
      ∀ earlier, earlier <+: read → earlier ≠ read →
        (attempt options current expected command (.accepted (peer.upTo earlier))).written
          = [] := by
  obtain ⟨line, peer, -, rfl, talks⟩ := exists_exchange wrote
  rw [talks] at wrote
  obtain ⟨read, invites, before⟩ := Peer.exists_invites wrote
  refine ⟨peer, read, rfl, invites, fun earlier front other => ?_⟩
  rw [talks]
  exact before earlier front other

/-! ## All attempts of a request -/

/-- **What a request meets**, and what becomes of it: nothing about it is assumed. -/
structure Surroundings (σ : Type) where
  options : σ → SupervisorOptions
  /-- What is published when an attempt looks. -/
  published : σ → Option Handle
  /-- What connecting comes to when an attempt gets there. -/
  connection : σ → Connection
  /-- What an attempt leaves behind, and whatever else happens meanwhile. -/
  attempted : σ → σ
  /-- What happens in the pause between two attempts. -/
  paused : σ → σ

namespace Surroundings

variable {σ : Type} (around : Surroundings σ) (expected : Option Nat) (command : ControlCommand)

/-- One attempt. -/
def ask (s : σ) : Exchange × σ :=
  (attempt (around.options s) (around.published s) expected command (around.connection s),
    around.attempted s)

/-- The attempts of a request, in order. -/
def request (s : σ) : List Exchange :=
  (withRetry (around.ask expected command) around.paused s).1

/-- All bytes that a request writes to monitors. -/
def written (s : σ) : List UInt8 := (around.request expected command s).flatMap Exchange.written

/-- **A second attempt follows one that reached nobody**, and there is no third. -/
theorem request_cases (s : σ) :
    around.request expected command s = [(around.ask expected command s).1] ∨
      (around.ask expected command s).1.written = [] ∧
        around.request expected command s = [(around.ask expected command s).1,
          (around.ask expected command (around.paused (around.attempted s))).1] := by
  unfold request withRetry
  simp only
  split
  · exact .inl rfl
  · rename_i e failed
    split
    · rename_i nobody
      exact .inr ⟨written_of_unreachable failed nobody, rfl⟩
    · exact .inl rfl

theorem written_ask (s : σ) :
    (around.ask expected command s).1.written = [] ∨ ∃ line, command.line? = .ok line ∧
      (around.ask expected command s).1.written <+: lineBytes line :=
  written_attempt _ _ expected command _

theorem written_ask_of_answered {s : σ} {reply : List Char}
    (answered : (around.ask expected command s).1.outcome = .ok reply) :
    ∃ line, command.line? = .ok line ∧
      (around.ask expected command s).1.written = lineBytes line :=
  written_attempt_of_answered answered

/-- A request writes nothing or the beginning of one line. -/
theorem written_cases (s : σ) :
    around.written expected command s = [] ∨ ∃ line, command.line? = .ok line ∧
      around.written expected command s <+: lineBytes line := by
  rcases around.request_cases expected command s with once | ⟨silent, twice⟩
  · simpa [written, once] using around.written_ask expected command s
  · simpa [written, twice, silent] using around.written_ask expected command _

/-- **A request that is answered in the end has written one line**, all of it. -/
theorem written_of_answered {s : σ} {last : Exchange} {reply : List Char}
    (ends : (around.request expected command s).getLast? = some last)
    (answered : last.outcome = .ok reply) :
    ∃ line, command.line? = .ok line ∧ around.written expected command s = lineBytes line := by
  rcases around.request_cases expected command s with once | ⟨silent, twice⟩
  · rw [once, List.getLast?_singleton, Option.some.injEq] at ends
    rw [← ends] at answered
    simpa [written, once] using around.written_ask_of_answered expected command answered
  · rw [twice, List.getLast?_cons_cons, List.getLast?_singleton, Option.some.injEq] at ends
    rw [← ends] at answered
    simpa [written, twice, silent] using around.written_ask_of_answered expected command answered

/-- **A request writes nothing or the beginning of one line**, with one attempt or two, of which
the second follows only one that wrote nothing, and no attempt writes before the monitor waits for
a line: who had read any less of the greeting would have written nothing. -/
theorem written_at_most_once (s : σ) :
    (around.written expected command s = [] ∨ ∃ line, command.line? = .ok line ∧
      around.written expected command s <+: lineBytes line) ∧
    (around.request expected command s = [(around.ask expected command s).1] ∨
      (around.ask expected command s).1.written = [] ∧
        around.request expected command s = [(around.ask expected command s).1,
          (around.ask expected command (around.paused (around.attempted s))).1]) ∧
    ∀ now, (around.ask expected command now).1.written ≠ [] →
      ∃ peer read, around.connection now = .accepted peer ∧ peer.greeting.Invites read ∧
        ∀ earlier, earlier <+: read → earlier ≠ read →
          (attempt (around.options now) (around.published now) expected command
            (.accepted (peer.upTo earlier))).written = [] :=
  ⟨around.written_cases expected command s, around.request_cases expected command s,
    fun _ wrote => attempt_invited wrote⟩

end Surroundings

namespace Schedule

/-- **What a request meets while the programs are running.** -/
def surroundings (expected : Option Nat) (command : ControlCommand) : Surroundings Schedule where
  options w := w.system.options
  published w := w.system.status.1
  connection w :=
    (w.connection ((w.system.status.1.map Handle.endpoint).getD w.system.options.monitorSocket)
      command).1
  attempted w := (dispatch expected command w).2
  paused w := w.sleep retryPause

/-- **One attempt of a schedule** is one in its surroundings. -/
theorem dispatch_eq_ask (expected : Option Nat) (command : ControlCommand) :
    dispatch expected command = (surroundings expected command).ask expected command := by
  funext w
  refine Prod.ext ?_ rfl
  unfold dispatch
  simp only
  split
  · rfl
  · split <;> rfl

/-- While the programs are running, too, a request writes nothing or the beginning of one line. -/
theorem written_request (w : Schedule) (expected : Option Nat) (command : ControlCommand) :
    let exchanges := (withRetry (dispatch expected command) (·.sleep retryPause) w).1
    exchanges.flatMap Exchange.written = [] ∨ ∃ line, command.line? = .ok line ∧
      exchanges.flatMap Exchange.written <+: lineBytes line := by
  rw [dispatch_eq_ask]
  exact (surroundings expected command).written_cases expected command w

/-- **A command that is answered was written**, as one line. -/
theorem written_of_request_eq_ok {w : Schedule} {reply : String}
    (answered : (w.request expected command).1 = .ok reply) :
    ∃ line, command.line? = .ok line ∧
      (surroundings expected command).written expected command w = lineBytes line := by
  cases tried : withRetry (dispatch expected command) (·.sleep retryPause) w with
  | mk exchanges after =>
    have same : (surroundings expected command).request expected command w = exchanges := by
      rw [Surroundings.request, ← dispatch_eq_ask]
      exact congrArg Prod.fst tried
    rw [request, tried] at answered
    cases ends : exchanges.getLast? with
    | none => simp [ends] at answered
    | some last =>
      cases outcome : last.outcome with
      | error e => simp [ends, outcome, Except.map] at answered
      | ok text =>
        exact (surroundings expected command).written_of_answered _ _ (same ▸ ends) outcome

end Schedule

end Supervisor

end GuestSupervisor
