import GuestSupervisor.Proofs.Supervisor.Change
import Mathlib.Data.List.Nodup

/-!
# What holds at every moment

The invariant that ties processes, machine and operation together, and the proof
that every change keeps it.  What makes it inductive is that the stages of an
operation remember what was made sure of on the way: that the process before is
gone, or that the instance has not become ready.

## Main Definitions

* `System.Sound` — the invariant.

## Main Statements

* `System.Sound.change` — every change keeps a system sound.
-/

namespace GuestSupervisor.Supervisor

open Instance Monitor

/-! ## Warrants -/

/-- An answered command means at most that the guest was halted or goes on. -/
theorem acknowledgement?_eq_some {command : ControlCommand} {event : Event}
    (means : acknowledgement? command = some event) :
    event = .pauseAcknowledged ∨ event = .resumeAcknowledged := by
  cases command <;> simp_all [acknowledgement?]

/-- Events that end an instance need that its process is gone. -/
theorem Warrant.isGone {s : System} {generation : Nat} {event : Event} {exit : Option ExitInfo}
    (warrant : Warrant s generation event exit)
    (ends : (∃ success, event = .exited success) ∨ event = .launchAborted) :
    s.isGone generation := by
  cases warrant with
  | asked => simp at ends
  | answered command event means =>
    rcases acknowledgement?_eq_some means with rfl | rfl <;> simp at ends
  | ready => simp at ends
  | ended success exit gone => exact gone
  | aborted exit latest startingUp gone => exact gone

/-- An event that comes with an exit ends the instance. -/
theorem Warrant.isTerminal_step {s : System} {generation : Nat} {event : Event}
    {exit : Option ExitInfo} (warrant : Warrant s generation event exit) (recorded : exit.isSome)
    {h : Handle} (published : s.core.published = some h) : (h.phase.step event).isTerminal := by
  cases warrant with
  | ended success exit gone => exact isTerminal_step_exited h.phase success
  | aborted exit latest startingUp gone =>
    rcases startingUp with ⟨h', published', starting | crashed⟩
    · obtain rfl : h = h' := Option.some.inj (published.symm.trans published')
      simp [starting, Phase.step, Phase.isTerminal]
    · obtain rfl : h = h' := Option.some.inj (published.symm.trans published')
      simp [crashed, Phase.step, Phase.isTerminal]
  | _ => simp at recorded

namespace System

variable {s s' : System} {generation : Nat} {event : Event} {exit : Option ExitInfo}

/-! ## The invariant -/

theorem isGone_iff_of_injOn (distinct : (s.children.map Child.generation).Nodup) :
    s.isGone generation ↔ ∀ c ∈ s.children, c.generation = generation → c.life.isReaped := by
  unfold isGone child?
  rw [Option.all_eq_true]
  constructor
  · intro gone c member same
    obtain ⟨d, found⟩ : ∃ d, s.children.find? (·.generation == generation) = some d :=
      Option.isSome_iff_exists.mp (List.find?_isSome.mpr ⟨c, member, by simpa using same⟩)
    have generations : d.generation = c.generation := by
      have := List.find?_some found
      simp only [beq_iff_eq] at this
      rw [this, same]
    have equal : d = c :=
      List.inj_on_of_nodup_map distinct (List.mem_of_find?_eq_some found) member generations
    exact equal ▸ gone d found
  · intro reaped d found
    exact reaped d (List.mem_of_find?_eq_some found) (by simpa using List.find?_some found)

/-- **What holds at every moment.** -/
structure Sound (s : System) : Prop where
  /-- The processes are numbered without a gap, latest first. -/
  numbered : s.children.map Child.generation = (List.range' 1 s.core.launched).reverse
  coherent : s.core.Coherent
  /-- Every process but the latest is gone. -/
  earlier : ∀ c ∈ s.children, c.generation ≠ s.core.launched → c.life.isReaped
  /-- An instance that is shown as ended is gone. -/
  ended : ∀ h, s.core.published = some h → h.phase.isTerminal → s.isGone s.core.launched
  /-- An exit is shown only of an instance that has ended. -/
  recorded : ∀ h, s.core.published = some h → h.exit.isSome → h.phase.isTerminal
  /-- A watcher that has seen the end has waited for it. -/
  seen : ∀ c ∈ s.children, c.watcher.hasSeen → c.life.isReaped
  /-- Whatever the stage needs has been made sure of. -/
  fits : ∀ work, s.work = some work → s.Fits work

theorem sound_start (options : SupervisorOptions) (host : Host) (now : Nat) :
    (start options host now).Sound where
  numbered := rfl
  coherent := Core.coherent_start
  earlier := by simp [start]
  ended := by simp [start, Core.start]
  recorded := by simp [start, Core.start]
  seen := by simp [start]
  fits := by simp [start]

namespace Sound

theorem nodup (sound : s.Sound) : (s.children.map Child.generation).Nodup := by
  rw [sound.numbered, List.nodup_reverse]
  exact List.nodup_range'

/-- As many processes were started as generations were taken. -/
theorem length_children (sound : s.Sound) : s.children.length = s.core.launched := by
  have numbered := congrArg List.length sound.numbered
  simpa using numbered

theorem isGone_iff (sound : s.Sound) :
    s.isGone generation ↔ ∀ c ∈ s.children, c.generation = generation → c.life.isReaped :=
  isGone_iff_of_injOn sound.nodup

/-- Two processes with one number are one process. -/
theorem eq_of_generation_eq (sound : s.Sound) {c d : Child} (memC : c ∈ s.children)
    (memD : d ∈ s.children) (same : c.generation = d.generation) : c = d :=
  List.inj_on_of_nodup_map sound.nodup memC memD same

/-- Every generation that was taken has its process. -/
theorem exists_child (sound : s.Sound) (pos : 0 < generation) (le : generation ≤ s.core.launched) :
    ∃ c ∈ s.children, c.generation = generation := by
  refine List.mem_map.mp ?_
  rw [sound.numbered, List.mem_reverse, List.mem_range'_1]
  omega

/-- When the latest process is gone, all are. -/
theorem isReaped_of_isGone (sound : s.Sound) (gone : s.isGone s.core.launched) {c : Child}
    (member : c ∈ s.children) : c.life.isReaped := by
  by_cases latest : c.generation = s.core.launched
  · exact sound.isGone_iff.mp gone c member latest
  · exact sound.earlier c member latest

theorem child?_eq_some_iff (sound : s.Sound) {c : Child} :
    s.child? generation = some c ↔ c ∈ s.children ∧ c.generation = generation := by
  constructor
  · intro found
    exact ⟨List.mem_of_find?_eq_some found, by simpa using List.find?_some found⟩
  · rintro ⟨member, rfl⟩
    obtain ⟨d, found⟩ : ∃ d, s.child? c.generation = some d :=
      Option.isSome_iff_exists.mp (List.find?_isSome.mpr ⟨c, member, by simp⟩)
    have same : d.generation = c.generation := by simpa using List.find?_some found
    rw [found, sound.eq_of_generation_eq (List.mem_of_find?_eq_some found) member same]

end Sound

/-! ## Every change keeps a system sound -/

@[simp] theorem core_endLaunch (order : LaunchOrder) (result : Except LaunchError Handle) :
    (s.endLaunch order result).core = s.core := by
  unfold endLaunch
  cases order.origin <;> rfl

@[simp] theorem children_endLaunch (order : LaunchOrder) (result : Except LaunchError Handle) :
    (s.endLaunch order result).children = s.children := by
  unfold endLaunch
  cases order.origin <;> rfl

@[simp] theorem work_endLaunch (order : LaunchOrder) (result : Except LaunchError Handle) :
    (s.endLaunch order result).work = none := by
  unfold endLaunch
  cases order.origin <;> rfl

@[simp] theorem answers_endLaunch (order : LaunchOrder) (result : Except LaunchError Handle) :
    (s.endLaunch order result).answers = .launched order.origin result :: s.answers := by
  unfold endLaunch
  cases order.origin <;> rfl

theorem isGone_of_children_eq (children : s'.children = s.children) :
    s'.isGone generation = s.isGone generation := by
  unfold isGone child?
  rw [children]

/-- What a stage needs is still so when it was kept. -/
theorem Fits.mono {work : Work} (fits : s.Fits work)
    (startingUp : s.IsStartingUp → s'.IsStartingUp)
    (gone : s.isGone s.core.launched → s'.isGone s'.core.launched) : s'.Fits work := by
  cases work with
  | terminating graceful stage => trivial
  | launching order stage =>
    cases stage with
    | checking | watching | attaching | returning => trivial
    | spawning => exact gone fits
    | polling | probing | judging | resting | culling | marking => exact startingUp fits
    | burying | aborting => exact ⟨startingUp fits.1, gone fits.2⟩

theorem Fits.of_eq {work : Work} (fits : s.Fits work) (core : s'.core = s.core)
    (children : s'.children = s.children) : s'.Fits work :=
  fits.mono (by unfold IsStartingUp; rw [core]; exact id)
    (by rw [core, isGone_of_children_eq children]; exact id)

/-- An event leaves an instance that is starting up in that state, unless it says
that the instance is ready. -/
theorem IsStartingUp.transition (startingUp : s.IsStartingUp) (coherent : s.core.Coherent)
    (notReady : event ≠ .endpointReady) :
    (s.transition generation event exit).IsStartingUp := by
  obtain ⟨h, published, phase⟩ := startingUp
  rcases coherent.transition_cases generation event exit with unchanged | ⟨-, h', published', after⟩
  · exact ⟨h, by simp only [System.transition, unchanged, published], phase⟩
  · obtain rfl : h = h' := Option.some.inj (published.symm.trans published')
    refine ⟨_, after, ?_⟩
    rcases phase with starting | crashed
    · cases event <;> simp_all [Phase.step]
    · simp [crashed, Phase.step]

theorem isGone_updateChild {change : Child → Child}
    (advances : ∀ c ∈ s.children, c.generation = generation → c.Advances (change c)) {other : Nat}
    (gone : s.isGone other) : (s.updateChild generation change).isGone other := by
  unfold isGone at gone ⊢
  rw [child?_updateChild change fun c member same => (advances c member same).generation]
  cases found : s.child? other with
  | none => rfl
  | some c =>
    rw [found] at gone
    by_cases same : c.generation = generation
    · simpa [same] using (advances c (List.mem_of_find?_eq_some found) same).reaped gone
    · simpa [same] using gone

namespace Sound

/-- Whatever leaves machine and processes alone keeps a system sound, as long as
the stage fits. -/
theorem of_eq (sound : s.Sound) (core : s'.core = s.core) (children : s'.children = s.children)
    (fits : ∀ work, s'.work = some work → s.Fits work) : s'.Sound where
  numbered := by rw [core, children]; exact sound.numbered
  coherent := by rw [core]; exact sound.coherent
  earlier := by rw [core, children]; exact sound.earlier
  ended := by rw [core, isGone_of_children_eq children]; exact sound.ended
  recorded := by rw [core]; exact sound.recorded
  seen := by rw [children]; exact sound.seen
  fits := fun work current => (fits work current).of_eq core children

theorem updateChild (sound : s.Sound) {change : Child → Child}
    (advances : ∀ c ∈ s.children, c.generation = generation → c.Advances (change c)) :
    (s.updateChild generation change).Sound := by
  -- Every process advances, the changed one by assumption and all others by staying.
  have moved : ∀ c ∈ s.children,
      c.Advances (if c.generation = generation then change c else c) := by
    intro c member
    split
    · exact advances c member ‹_›
    · exact .of_eq rfl rfl rfl rfl
  have generations : (s.updateChild generation change).children.map Child.generation
      = s.children.map Child.generation := by
    simp only [System.updateChild, List.map_map]
    exact List.map_congr_left fun c member => (moved c member).generation
  refine ⟨?_, sound.coherent, ?_, ?_, sound.recorded, ?_, ?_⟩
  · rw [generations]
    exact sound.numbered
  · intro c member older
    obtain ⟨d, memD, rfl⟩ := List.mem_map.mp member
    rw [(moved d memD).generation] at older
    exact (moved d memD).reaped (sound.earlier d memD older)
  · intro h published terminal
    exact isGone_updateChild advances (sound.ended h published terminal)
  · intro c member hasSeen
    obtain ⟨d, memD, rfl⟩ := List.mem_map.mp member
    exact (moved d memD).seen (sound.seen d memD) hasSeen
  · intro work current
    exact (sound.fits work current).mono id (isGone_updateChild advances)

theorem transition (sound : s.Sound) (warrant : Warrant s generation event exit) :
    (s.transition generation event exit).Sound := by
  have launched : (s.transition generation event exit).core.launched = s.core.launched :=
    Core.launched_transition
  have gone : ∀ g, (s.transition generation event exit).isGone g = s.isGone g :=
    fun g => isGone_of_children_eq rfl
  have published := sound.coherent.transition_cases generation event exit
  refine ⟨?_, sound.coherent.transition, ?_, ?_, ?_, sound.seen, ?_⟩
  · rw [launched]
    exact sound.numbered
  · rw [launched]
    exact sound.earlier
  · intro h' after terminal
    rw [launched, gone]
    rcases published with unchanged | ⟨latest, h, before, changed⟩
    · exact sound.ended h' (by rw [← after, System.transition, unchanged]) terminal
    · obtain rfl := Option.some.inj (after.symm.trans changed)
      by_cases live : h.phase.isTerminal
      · exact sound.ended h before live
      · rw [← latest]
        exact warrant.isGone (isTerminal_of_step terminal (by simpa using live))
  · intro h' after recorded
    rcases published with unchanged | ⟨latest, h, before, changed⟩
    · exact sound.recorded h' (by rw [← after, System.transition, unchanged]) recorded
    · obtain rfl := Option.some.inj (after.symm.trans changed)
      -- Either this event brings the exit, or it was there before and so was the end.
      cases known : h.exit with
      | none =>
        refine warrant.isTerminal_step ?_ before
        simpa [known] using recorded
      | some e =>
        have terminal := sound.recorded h before (by simp [known])
        simpa [Phase.step_of_isTerminal terminal] using terminal
  · intro work current
    by_cases ready : event = .endpointReady
    · subst ready
      cases warrant with
      | answered command _ means => simpa using acknowledgement?_eq_some means
      | ready order latest marked =>
        obtain rfl : work = .launching order .watching :=
          Option.some.inj (current.symm.trans marked)
        trivial
    · refine (sound.fits work current).mono (fun starting => ?_) (fun isGone => ?_)
      · exact starting.transition sound.coherent ready
      · rw [launched, gone]
        exact isGone

theorem started (sound : s.Sound) (order : LaunchOrder) (pid : UInt32) (program : Program)
    (host : Host) (deadline : Nat) (current : s.work = some (.launching order .spawning)) :
    (s.started order pid program host deadline).Sound := by
  have gone : s.isGone s.core.launched := sound.fits _ current
  refine ⟨?_, Core.coherent_install .., ?_, ?_, ?_, ?_, ?_⟩
  · simp [System.started, Core.install, sound.numbered, List.range'_1_concat, Nat.add_comm]
  · intro c member older
    rcases List.mem_cons.mp member with rfl | old
    · exact absurd rfl older
    · exact sound.isReaped_of_isGone gone old
  · rintro h ⟨⟩ terminal
    simp [Phase.isTerminal] at terminal
  · rintro h ⟨⟩ recorded
    simp at recorded
  · intro c member hasSeen
    rcases List.mem_cons.mp member with rfl | old
    · simp [Watcher.hasSeen] at hasSeen
    · exact sound.seen c old hasSeen
  · rintro work ⟨⟩
    exact ⟨_, rfl, Or.inl rfl⟩

/-- A change that starts no process keeps a system sound. -/
theorem quiet {asked : Demand → Prop} (sound : s.Sound) (quiet : Quiet asked s s') : s'.Sound := by
  cases quiet with
  | outside s' core children work restarts answers =>
    exact sound.of_eq core children (by rw [work]; exact sound.fits)
  | dispatched id result => exact sound.of_eq rfl rfl sound.fits
  | child generation change advances => exact sound.updateChild advances
  | event generation event exit warrant => exact sound.transition warrant
  | attached generation =>
    exact ⟨sound.numbered, sound.coherent.attach, sound.earlier, sound.ended, sound.recorded,
      sound.seen, fun work current => (sound.fits work current).mono id id⟩
  | switched generation =>
    exact ⟨sound.numbered, sound.coherent.useKillSwitch, sound.earlier, sound.ended,
      sound.recorded, sound.seen, fun work current => (sound.fits work current).mono id id⟩
  | launchBegun | terminateBegun =>
    refine sound.of_eq rfl rfl ?_
    rintro _ ⟨⟩
    trivial
  | entered work next current follows fits =>
    refine sound.of_eq rfl rfl ?_
    rintro _ ⟨⟩
    exact fits
  | launchEnded order stage result current accounts =>
    exact sound.of_eq (by simp) (by simp) (by simp)
  | terminateEnded graceful stage result current =>
    exact sound.of_eq rfl rfl (by simp [System.answer])
  | enabled | disabled | observed | woken => exact sound.of_eq rfl rfl sound.fits
  | relaunched task crashed current queued idle =>
    refine sound.of_eq rfl rfl ?_
    rintro _ ⟨⟩
    trivial

/-- **Every change keeps a system sound.** -/
theorem change (sound : s.Sound) (change : Change s s') : s'.Sound := by
  cases change with
  | quiet quiet => exact sound.quiet quiet
  | started order pid program host deadline current =>
    exact sound.started order pid program host deadline current

theorem quiets {asked : Demand → Prop} (sound : s.Sound) (quiets : Quiets asked s s') :
    s'.Sound := by
  induction quiets with
  | refl => exact sound
  | tail _ last ih => exact ih.quiet last

theorem changes (sound : s.Sound) (changes : Changes s s') : s'.Sound := by
  induction changes with
  | refl => exact sound
  | tail _ last ih => exact ih.change last

end Sound

/-! ## What quiet changes leave alone -/

theorem launched_quiet {asked : Demand → Prop} (quiet : Quiet asked s s') :
    s'.core.launched = s.core.launched := by
  cases quiet with
  | outside s' core => rw [core]
  | event => exact Core.launched_transition
  | launchEnded => rw [core_endLaunch]
  | _ => rfl

theorem launched_quiets {asked : Demand → Prop} (quiets : Quiets asked s s') :
    s'.core.launched = s.core.launched := by
  induction quiets with
  | refl => rfl
  | tail _ last ih => rw [launched_quiet last, ih]

/-- What is published changes by events alone. -/
theorem Sound.published_quiet {asked : Demand → Prop} (sound : s.Sound) (quiet : Quiet asked s s') :
    s'.core.published = s.core.published ∨
      ∃ h event exit, s.core.published = some h ∧ s'.core.published
        = some { h with phase := h.phase.step event, exit := h.exit.or exit } := by
  cases quiet with
  | outside s' core => exact Or.inl (by rw [core])
  | event generation event exit warrant =>
    rcases sound.coherent.transition_cases generation event exit with
      unchanged | ⟨-, h, published, changed⟩
    · exact Or.inl (by rw [System.transition, unchanged])
    · exact Or.inr ⟨h, event, exit, published, changed⟩
  | launchEnded => exact Or.inl (by rw [core_endLaunch])
  | _ => exact Or.inl rfl

/-- Every process was there before, with its number and on behalf of the same. -/
theorem origins_quiet {asked : Demand → Prop} (quiet : Quiet asked s s') {c' : Child}
    (member : c' ∈ s'.children) :
    ∃ c ∈ s.children, c'.generation = c.generation ∧ c'.origin = c.origin := by
  cases quiet with
  | outside s' core children => exact ⟨c', children ▸ member, rfl, rfl⟩
  | child generation change advances =>
    obtain ⟨c, memC, rfl⟩ := List.mem_map.mp member
    refine ⟨c, memC, ?_⟩
    split
    · exact ⟨(advances c memC ‹_›).generation, (advances c memC ‹_›).origin⟩
    · exact ⟨rfl, rfl⟩
  | launchEnded => exact ⟨c', by simpa using member, rfl, rfl⟩
  | _ => exact ⟨c', member, rfl, rfl⟩

end System

end GuestSupervisor.Supervisor
