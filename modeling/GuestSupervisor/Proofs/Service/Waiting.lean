import GuestSupervisor.Service.Capture
import Mathlib.Algebra.Order.Floor.Div

/-!
# A wait that comes to an end

Whoever waits for a file looks at it, then at the clock, and only then sleeps.  So there is a look
before the wait is given up, a zero bound included, and the last look is never earlier than the
bound if it finds nothing: what is there at the bound and stays is seen, however long the sleeps
take.  Since a sleep is never shorter than the pause, there are not many looks.

## Main Definitions

* `moment` — when a look takes place.
* `Stops` — no look follows one at this moment.
* `EndsWith` — the look that a wait ends with.
* `Filled` — a path leads to something that is not empty.

## Main Statements

* `poll_endsWith` — a wait ends with the first look that stops it, and answers what it finds.
* `EndsWith.le` — how many looks there are; `poll_of_absent` shows that there may be so many.
* `poll_congr` — what the file is between two looks makes no difference.
* `poll_outcome` — the end, the answer, and what is never missed.
* `Schedule.waitForFile_fst` — the answer is what is there when the wait is over.
-/

namespace GuestSupervisor

namespace Watch

variable {timeline timeline' : Timeline} {bound : Nat} {late : Nat → Nat} {last look : Nat}

/-! ## Looks -/

/-- **When a look takes place**: a pause after the one before, or later. -/
def moment (late : Nat → Nat) : Nat → Nat
  | 0 => late 0
  | look + 1 => moment late look + gap + late (look + 1)

theorem gap_pos : 0 < gap := by decide

/-- Before a look there were as many pauses as looks. -/
theorem mul_gap_le_moment (late : Nat → Nat) (look : Nat) : look * gap ≤ moment late look := by
  induction look with
  | zero => rw [Nat.zero_mul]; exact Nat.zero_le _
  | succ look ih =>
    rw [Nat.succ_mul, moment]
    exact (Nat.add_le_add_right ih gap).trans (Nat.le_add_right _ _)

/-- If nothing is late there was nothing but these pauses. -/
theorem moment_punctual (look : Nat) : moment (fun _ => 0) look = look * gap := by
  induction look with
  | zero => rw [Nat.zero_mul, moment]
  | succ look ih => rw [moment, ih, Nat.succ_mul, Nat.add_zero]

/-- **No look follows** one at this moment: the file is seen, or the bound is reached. -/
def Stops (timeline : Timeline) (bound time : Nat) : Prop := timeline time = true ∨ bound ≤ time

theorem not_stops_iff {time : Nat} :
    ¬ Stops timeline bound time ↔ timeline time = false ∧ time < bound := by
  rw [Stops, not_or, Bool.not_eq_true, Nat.not_le]

/-- **The look that a wait ends with**: it is the first one that stops it. -/
structure EndsWith (timeline : Timeline) (bound : Nat) (late : Nat → Nat) (last : Nat) : Prop where
  goesOn : ∀ look < last, ¬ Stops timeline bound (moment late look)
  stops : Stops timeline bound (moment late last)

/-! ## The end of a wait -/

/-- From a look that is taken, the wait goes on to the one that it ends with. -/
theorem pollFrom_endsWith {now : Nat} (taken : now = moment late look)
    (goesOn : ∀ earlier < look, ¬ Stops timeline bound (moment late earlier)) :
    ∃ last, EndsWith timeline bound late last ∧
      pollFrom timeline bound late now look = (timeline (moment late last), last + 1) := by
  -- The induction is on the time to the bound; what is kept is that no look so far stopped the wait.
  fun_induction pollFrom timeline bound late now look with
  | case1 now look seen =>
    subst taken
    exact ⟨look, ⟨goesOn, .inl seen⟩, by rw [seen]⟩
  | case2 now look unseen reached =>
    subst taken
    exact ⟨look, ⟨goesOn, .inr reached⟩, by rw [Bool.eq_false_of_not_eq_true unseen]⟩
  | case3 now look unseen early ih =>
    subst taken
    refine ih rfl fun earlier less => ?_
    rcases Nat.lt_succ_iff_lt_or_eq.mp less with before | rfl
    · exact goesOn earlier before
    · exact not_or.mpr ⟨unseen, early⟩

/-- **A wait ends with the first look that stops it**, and answers what this look finds. -/
theorem poll_endsWith (timeline : Timeline) (bound : Nat) (late : Nat → Nat) :
    ∃ last, EndsWith timeline bound late last ∧
      poll timeline bound late = (timeline (moment late last), last + 1) :=
  pollFrom_endsWith rfl fun _ before => absurd before (Nat.not_lt_zero _)

namespace EndsWith

theorem unique (ends : EndsWith timeline bound late last) (ends' : EndsWith timeline bound late look) :
    last = look := by
  rcases Nat.lt_trichotomy last look with before | same | behind
  · exact absurd ends.stops (ends'.goesOn last before)
  · exact same
  · exact absurd ends'.stops (ends.goesOn look behind)

/-- **There is at most one look for each pause** up to the bound, and one more. -/
theorem le (ends : EndsWith timeline bound late last) : last ≤ bound ⌈/⌉ gap := by
  cases last with
  | zero => exact Nat.zero_le _
  | succ before =>
    have early : moment late before < bound :=
      (not_stops_iff.mp (ends.goesOn before (Nat.lt_succ_self _))).2
    have short : gap * before < bound := by
      rw [Nat.mul_comm]
      exact (mul_gap_le_moment late before).trans_lt early
    exact Nat.succ_le_of_lt ((lt_iff_lt_of_le_iff_le (ceilDiv_le_iff_le_mul gap_pos)).mpr short)

/-- **The file is seen at the end** if it is seen at any look. -/
theorem seen_iff (ends : EndsWith timeline bound late last) :
    timeline (moment late last) = true ↔ ∃ look < last + 1, timeline (moment late look) = true := by
  constructor
  · exact fun seen => ⟨last, Nat.lt_succ_self _, seen⟩
  · rintro ⟨look, less, seen⟩
    rcases Nat.lt_succ_iff_lt_or_eq.mp less with before | rfl
    · exact absurd (.inl seen) (ends.goesOn look before)
    · exact seen

/-- **What is there at the bound and stays is seen.** -/
theorem seen_of_stays (ends : EndsWith timeline bound late last) {since : Nat} (inTime : since ≤ bound)
    (stays : ∀ time ≥ since, timeline time = true) : timeline (moment late last) = true :=
  ends.stops.elim id fun reached => stays _ (inTime.trans reached)

/-- The same look ends another wait that finds the same up to there. -/
theorem congr (ends : EndsWith timeline bound late last)
    (same : ∀ look < last + 1, timeline' (moment late look) = timeline (moment late look)) :
    EndsWith timeline' bound late last where
  goesOn look before := by
    rw [Stops, same look (Nat.lt_succ_of_lt before)]
    exact ends.goesOn look before
  stops := by
    rw [Stops, same last (Nat.lt_succ_self _)]
    exact ends.stops

end EndsWith

/-- **What the file is between two looks makes no difference.** -/
theorem poll_congr (same : ∀ look < (poll timeline bound late).2,
    timeline' (moment late look) = timeline (moment late look)) :
    poll timeline' bound late = poll timeline bound late := by
  obtain ⟨last, ends, eq⟩ := poll_endsWith timeline bound late
  obtain ⟨last', ends', eq'⟩ := poll_endsWith timeline' bound late
  rw [eq] at same ⊢
  obtain rfl := ends'.unique (ends.congr same)
  rw [eq', same last' (Nat.lt_succ_self _)]

/-- **There may be so many looks**: there are for a file that never appears, if no sleep is longer
than the pause. -/
theorem poll_of_absent (absent : ∀ time, timeline time = false) :
    poll timeline bound (fun _ => 0) = (false, bound ⌈/⌉ gap + 1) := by
  obtain ⟨last, ends, eq⟩ := poll_endsWith timeline bound fun _ => 0
  have reached : bound ≤ gap * last := by
    rw [Nat.mul_comm, ← moment_punctual]
    exact ends.stops.resolve_left (by simp [absent])
  have many : bound ⌈/⌉ gap ≤ last := (ceilDiv_le_iff_le_mul gap_pos).mpr reached
  rw [eq, absent, Nat.le_antisymm ends.le many]

/-! ## A file on a host -/

/-- **A path leads to something that is not empty**: a size is reported, and it is not zero.  Nothing
is reported for a file that is absent. -/
def Filled (fs : FileSystem) (path : String) : Prop :=
  ∃ size, fs.reportedSize? path = some size ∧ 0 < size

theorem isWritten_iff {fs : FileSystem} {path : String} :
    isWritten fs path = true ↔ Filled fs path := by
  simp [isWritten, Filled, Option.any_eq_true]

/-- **A wait for a file comes to an end**, whatever becomes of the file meanwhile and however long
the sleeps take.  There is at least one look, and at most one for each pause up to the bound and one
more.  The wait answers that the file was seen exactly if some look found it filled.  It never
misses a file that is filled at the bound or before and stays so. -/
theorem poll_outcome (files : Nat → FileSystem) (path : String) (bound : Nat) (late : Nat → Nat) :
    ∃ seen looks, poll (timelineOf files path) bound late = (seen, looks) ∧
      1 ≤ looks ∧ looks ≤ bound ⌈/⌉ gap + 1 ∧
      (seen = true ↔ ∃ look < looks, Filled (files (moment late look)) path) ∧
      (∀ since ≤ bound, (∀ time ≥ since, Filled (files time) path) → seen = true) := by
  obtain ⟨last, ends, eq⟩ := poll_endsWith (timelineOf files path) bound late
  refine ⟨_, _, eq, Nat.le_add_left _ _, Nat.succ_le_succ ends.le, ?_, fun since inTime stays => ?_⟩
  · simp only [← isWritten_iff]
    exact ends.seen_iff
  · exact ends.seen_of_stays inTime fun time after => isWritten_iff.mpr (stays time after)

/-- A file that is made after ninety milliseconds, and filled after another ten. -/
def lateWrite (time : Nat) : FileSystem :=
  if time < 90 * millisecond then ⟨[], [], []⟩
  else if time < 100 * millisecond then ⟨[(["screen.ppm"], .file [])], [], []⟩
  else ⟨[(["screen.ppm"], .file [80, 54])], [], []⟩

/-- With slow sleeps the looks are taken after 70 and 190 milliseconds.  The file is filled at the
very bound, and seen. -/
theorem poll_outcome_lateWrite :
    100 * millisecond ≤ 100 * millisecond ∧
      (∀ time ≥ 100 * millisecond, Filled (lateWrite time) "screen.ppm") ∧
      ∃ looks ≤ 3, poll (timelineOf lateWrite "screen.ppm") (100 * millisecond)
        (fun _ => 70 * millisecond) = (true, looks) := by
  have stays : ∀ time ≥ 100 * millisecond, Filled (lateWrite time) "screen.ppm" := by
    intro time after
    have made : ¬ time < 90 * millisecond := Nat.not_lt.mpr (Nat.le_trans (by decide) after)
    rw [lateWrite, if_neg made, if_neg (Nat.not_lt.mpr after)]
    exact ⟨2, by decide, by decide⟩
  obtain ⟨seen, looks, eq, -, few, -, kept⟩ := poll_outcome lateWrite "screen.ppm"
    (100 * millisecond) fun _ => 70 * millisecond
  obtain rfl := kept _ le_rfl stays
  exact ⟨le_rfl, stays, looks, few, eq⟩

end Watch

namespace Supervisor.Schedule

/-- **The answer is what is there when the wait is over**: if a picture is said to be written, it is
there to be converted. -/
theorem waitForFile_fst (w : Schedule) (path : String) (bound : Text.Milliseconds) :
    (w.waitForFile path bound).1
      = Watch.isWritten (w.waitForFile path bound).2.system.host.files path := by
  unfold waitForFile
  simp only
  obtain ⟨last, -, eq⟩ := Watch.poll_endsWith
    (Watch.timelineOf (fun time => (w.sleep (time / Watch.millisecond)).system.host.files) path)
    (Watch.millisecond * bound.count.toNat) fun _ => 0
  have woken : last * Watch.gap / Watch.millisecond = (last + 1 - 1) * Watch.pause := by
    rw [Watch.gap, ← Nat.mul_assoc, Nat.mul_div_cancel _ (by decide), Nat.add_sub_cancel]
  rw [eq, Watch.moment_punctual, Watch.timelineOf, woken]

end Supervisor.Schedule

end GuestSupervisor
