import GuestSupervisor.Host.Program

/-!
# Runs of tools

A tool that is installed is found by its name, whatever the files are, and every run of it is
recorded once, with its arguments.  What comes out depends on what is where, on the tools and on the
programs of the host, never on the record.

## Main Definitions

* `Host.HasTool` — a tool is installed.
* `Host.recorded` — what a run adds to the record.

## Main Statements

* `Host.run_snd` — a run adds to the record, and does nothing else.
* `Host.recorded_of_hasTool` — what a run of an installed tool adds.
* `Host.run_fst_congr` — what comes out, whatever the record.
-/

namespace GuestSupervisor.Host

variable {host : Host} {name : String} {arguments : List String} {input : List UInt8}

/-- **A tool is installed**: the name means one of the tools on the search path. -/
def HasTool (host : Host) (name : String) : Prop := ∃ program, host.find name = .ok (program, true)

/-- **What a run adds to the record of the runs of tools.** -/
def recorded (host : Host) (name : String) (arguments : List String) : List (List String) :=
  match host.find name with
  | .ok (_, true) =>
    if arguments.any (·.toList.contains '\x00') then [] else [name :: arguments]
  | _ => []

/-- A name of a tool is looked up among the tools only. -/
theorem find_eq_tool_iff {program : Program} :
    host.find name = .ok (program, true) ↔
      '\x00' ∉ name.toList ∧ '/' ∉ name.toList ∧ name ≠ "." ∧ name ≠ ".."
        ∧ (host.tools.find? (·.1 == name)).map Prod.snd = some program := by
  unfold find
  by_cases zero : '\x00' ∈ name.toList
  · simp [zero]
  by_cases slash : '/' ∈ name.toList
  · simp only [List.contains_iff_mem, zero, slash, if_true, if_false, not_true, false_and,
      and_false, iff_false]
    split
    · simp
    · simp
    · split <;> simp
  simp only [List.contains_iff_mem, zero, slash, if_false, not_false_eq_true, true_and]
  by_cases dots : name = "." ∨ name = ".."
  · rw [if_pos (by simpa using dots)]
    refine iff_of_false (by simp) ?_
    rintro ⟨noDot, noDots, -⟩
    exact dots.elim noDot noDots
  · rw [if_neg (by simpa using dots)]
    have noDots := not_or.mp dots
    cases host.tools.find? (·.1 == name) <;> simp [noDots]

theorem hasTool_iff_of_tools {other : Host} (tools : other.tools = host.tools) :
    other.HasTool name ↔ host.HasTool name := by
  unfold HasTool
  simp only [find_eq_tool_iff, tools]

theorem recorded_of_hasTool (installed : host.HasTool name)
    (clean : ∀ argument ∈ arguments, '\x00' ∉ argument.toList) :
    host.recorded name arguments = [name :: arguments] := by
  obtain ⟨program, found⟩ := installed
  have noZero : ¬arguments.any (·.toList.contains '\x00') := by
    simpa [List.any_eq_true] using clean
  rw [recorded, found]
  exact if_neg noZero

theorem recorded_of_not_hasTool (absent : ¬host.HasTool name) :
    host.recorded name arguments = [] := by
  unfold recorded
  split
  · rename_i program found
    exact absurd ⟨program, found⟩ absent
  · rfl

/-- **A run adds to the record, and does nothing else** to the host. -/
theorem run_snd (host : Host) (name : String) (arguments : List String) (input : List UInt8) :
    (host.run name arguments input).2
      = { host with toolRuns := host.recorded name arguments ++ host.toolRuns } := by
  unfold run start recorded
  cases found : host.find name with
  | error failure => rfl
  | ok known =>
    obtain ⟨program, isTool⟩ := known
    by_cases zero : arguments.any (·.toList.contains '\x00') = true
    · cases isTool <;> simp only [zero, if_true] <;> rfl
    · cases isTool <;> simp only [zero] <;> rfl

/-- A run adds once at most. -/
theorem reverse_recorded (host : Host) (name : String) (arguments : List String) :
    (host.recorded name arguments).reverse = host.recorded name arguments := by
  unfold recorded
  split
  · split <;> rfl
  · rfl

/-- The runs of a host after one more. -/
theorem calls_run (host : Host) (name : String) (arguments : List String) (input : List UInt8) :
    (host.run name arguments input).2.calls = host.calls ++ host.recorded name arguments := by
  rw [run_snd, calls, calls, List.reverse_append, reverse_recorded]

theorem find_congr {other : Host}
    (ways : ∀ path, other.files.resolve path true = host.files.resolve path true)
    (tools : other.tools = host.tools) (programs : other.programs = host.programs) :
    other.find name = host.find name := by
  unfold find
  rw [ways, tools, programs]

/-- **What comes out of a run**: the record makes no difference to it. -/
theorem run_fst_congr {other : Host}
    (ways : ∀ path, other.files.resolve path true = host.files.resolve path true)
    (view : other.files.view = host.files.view)
    (tools : other.tools = host.tools) (programs : other.programs = host.programs) :
    (other.run name arguments input).1 = (host.run name arguments input).1 := by
  unfold run start
  rw [find_congr ways tools programs]
  cases host.find name with
  | error failure => rfl
  | ok known =>
    obtain ⟨program, isTool⟩ := known
    by_cases zero : arguments.any (·.toList.contains '\x00') = true
    · simp only [zero, if_true]
    · cases isTool <;> simp only [zero, view, if_true, if_false, Bool.false_eq_true]

end GuestSupervisor.Host
