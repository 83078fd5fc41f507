import GuestSupervisor.Proofs.Configuration.Rewording
import GuestSupervisor.Proofs.Service.Course
import GuestSupervisor.Proofs.Service.LiveDisks

/-!
# What a status report tells

A report shows the latest instance and the stored configuration, and compares the two.  The instance
keeps what it was launched with, through all that happens, and the file may be edited under it.  So a
difference is reported for as long as there is one, and no longer: an edit that is taken back, or one
that says the same in other words, is none.

## Main Definitions

* `StatusReport.Describes` — a report tells the truth about a moment.

## Main Statements

* `Service.describes_status` — every report does.
* `Service.latest_withFiles` — what is done to files does nothing to the instance.
* `Service.reported_of_course` — what is reported after any course of a service.
-/

namespace GuestSupervisor

open Api Supervisor

/-! ## One report -/

namespace StatusReport

variable {loaded : Configuration.Loaded} {latest : Option Handle}

/-- **A report tells the truth about a moment**: what the latest instance is, whether it is there, and
how the stored lines differ from what it was launched with. -/
structure Describes (r : StatusReport) (lines : List (List Char)) (s : System) : Prop where
  /-- There is no latest instance exactly if none was ever launched. -/
  unlaunched : r.latest = none ↔ s.core.launched = 0
  generation : ∀ h, r.latest = some h → h.generation = s.core.launched
  /-- An instance is running if it is not shown as ended. -/
  running : r.running ↔ ∃ h, r.latest = some h ∧ h.phase.isTerminal = false
  /-- That is so if its process is there. -/
  alive : r.running ↔ ∃ c ∈ s.children, c.generation = s.core.launched ∧ ¬c.life.isReaped
  pid : ∀ pid, r.pid = some pid ↔ r.running ∧ ∃ h, r.latest = some h ∧ h.pid = pid
  /-- The configuration is what the stored lines give. -/
  configuration : ∀ key : Key, Configuration.LastGiven lines key (r.configuration.get key)
  /-- There is a change if they give something else for a key than the instance has. -/
  changed : r.changed ↔ r.running ∧ ∃ (h : Handle) (key : Key) (v : key.Value), r.latest = some h
    ∧ Configuration.LastGiven lines key v ∧ ¬key.Alike (h.configuration.get key) v

theorem running_of_iff :
    (of loaded latest).running ↔ ∃ h, latest = some h ∧ h.phase.isTerminal = false := by
  cases latest <;> simp [of, Handle.isLive, Option.filter]

theorem pid_of_iff {pid : UInt32} :
    (of loaded latest).pid = some pid
      ↔ (of loaded latest).running ∧ ∃ h, latest = some h ∧ h.pid = pid := by
  cases latest <;> simp [of, Handle.isLive, Option.filter]

theorem changed_of_iff :
    (of loaded latest).changed ↔ (of loaded latest).running
      ∧ ∃ h, latest = some h ∧ ¬h.configuration.agrees loaded.configuration := by
  cases latest with
  | none => simp [of]
  | some h => by_cases live : h.isLive <;> simp [of, Option.filter, live]

end StatusReport

namespace Service

variable {service : Service} {w : Schedule}

/-- A report is of the stored configuration and of what is shown. -/
theorem status_fst (service : Service) (w : Schedule) :
    (service.status w).1
      = .of (service.store.load w.system.host.files) w.system.status.1 := rfl

theorem latest_status (service : Service) (w : Schedule) :
    (service.status w).1.latest = w.system.status.1 := rfl

theorem configuration_status (service : Service) (w : Schedule) :
    (service.status w).1.configuration
      = (service.store.load w.system.host.files).configuration := by
  simp only [status, StatusReport.of]

/-- **Every report tells the truth about its moment.** -/
theorem describes_status (service : Service) (sound : w.system.Sound) :
    (service.status w).1.Describes (service.store.lines w.system.host.files) w.system where
  unlaunched := sound.status_eq_none_iff
  generation := by
    intro h shown
    obtain ⟨h', published, same⟩ := sound.sameLaunch_of_status shown
    rw [same.generation]
    exact sound.coherent.published h' published
  running := StatusReport.running_of_iff
  alive := StatusReport.running_of_iff.trans sound.isLive_iff_exists_child
  pid := fun _ => StatusReport.pid_of_iff
  configuration := service.store.lastGiven_load w.system.host.files
  changed := by
    have stored := service.store.lastGiven_load w.system.host.files
    refine StatusReport.changed_of_iff.trans (and_congr_right fun _ => exists_congr fun h => ?_)
    rw [Configuration.agrees_iff, not_forall, ← exists_and_left]
    refine exists_congr fun key => ⟨fun ⟨shown, differs⟩ => ⟨_, shown, stored key, differs⟩, ?_⟩
    rintro ⟨v, shown, given, differs⟩
    obtain rfl := given.unique (stored key)
    exact ⟨shown, differs⟩

/-- **No change is reported if the stored configuration agrees** with that of the latest instance. -/
theorem changed_eq_false_of_agrees
    (agrees : ∀ h, (service.status w).1.latest = some h →
      h.configuration.agrees (service.store.load w.system.host.files).configuration) :
    (service.status w).1.changed = false := by
  rw [← Bool.not_eq_true, status_fst, StatusReport.changed_of_iff]
  rintro ⟨-, h, shown, differs⟩
  exact differs (agrees h shown)

/-- **What is done to files does nothing to the instance.** -/
theorem latest_withFiles (service : Service) (w : Schedule) (files : FileSystem) :
    (service.status (w.withFiles files)).1.latest = (service.status w).1.latest :=
  System.status_fst_congr rfl rfl

/-! ## After a course -/

/-- **What is reported after any course of a service**, whatever was started, stopped, crashed,
restarted and edited in it, in any order.

The report tells the truth about its moment.  The latest instance leads back to the move that started
its process, and to a moment before it at which its command was built from the lines that were stored
then.  So if the lines that are stored now say the same as those, no change is reported, whatever was
stored in between.  Whatever happens next, the instance keeps what it was launched with, and whatever
is done to files leaves the whole of it as it is. -/
theorem reported_of_course (service : Service) (options : SupervisorOptions) (host : Host) (now : Nat)
    (moves : List Move) (w : Schedule) (course : service.Course (.start options host now) moves)
    (state : w.system = (System.start options host now).run moves) :
    (service.status w).1.Describes (service.store.lines w.system.host.files) w.system
      ∧ (∀ h, (service.status w).1.latest = some h →
          (∃ before after order earlier, moves = before ++ .spawn h.pid :: after
            ∧ (System.start options host now).StartedBy before order h
            ∧ earlier <+: before
            ∧ (service.buildCommand ((System.start options host now).run earlier).host).1
              = .ok (h.command, h.configuration)
            ∧ (∀ key, Configuration.LastGiven
                (service.store.lines ((System.start options host now).run earlier).host.files)
                key (h.configuration.get key))
            ∧ (Configuration.Reworded
                (service.store.lines ((System.start options host now).run earlier).host.files)
                (service.store.lines w.system.host.files) → (service.status w).1.changed = false))
          ∧ ∀ more h', (w.system.run more).status.1 = some h' → h'.generation = h.generation →
            h.SameLaunch h')
      ∧ ∀ files, (w.withFiles files).system.core = w.system.core
          ∧ (service.status (w.withFiles files)).1.latest = (service.status w).1.latest
          ∧ (service.status (w.withFiles files)).1.running = (service.status w).1.running
          ∧ (service.status (w.withFiles files)).1.pid = (service.status w).1.pid := by
  have begins := System.sound_start options host now
  have sound : w.system.Sound := state ▸ begins.changes (begins.changes_run moves)
  refine ⟨describes_status service sound, fun h shown => ⟨?_, fun more h' shown' same => ?_⟩,
    fun files => ?_⟩
  · have shown' : ((System.start options host now).run moves).status.1 = some h := state ▸ shown
    obtain ⟨before, after, order, rfl, started, earlier, prior, built⟩ := course.exists_launch begins
      (fun make => .start make options host now) rfl shown'
    obtain ⟨configured, -⟩ := exists_build built
    refine ⟨before, after, order, earlier, rfl, started, prior, built, fun key => ?_, fun same => ?_⟩
    · rw [configured]
      exact service.store.lastGiven_load _ key
    · refine changed_eq_false_of_agrees fun latest shown'' => ?_
      obtain rfl := Option.some.inj (shown.symm.trans shown'')
      rw [configured]
      exact ConfigurationStore.agrees_load_of_reworded same
  · exact sound.sameLaunch_of_shown more shown shown' same
  · have latest := latest_withFiles service w files
    refine ⟨rfl, latest, ?_, ?_⟩
    · exact congrArg (fun shown => (Option.filter Handle.isLive shown).isSome) latest
    · exact congrArg (fun shown => (Option.filter Handle.isLive shown).map Handle.pid) latest

theorem comesAbout_editedOut : plainService.ComesAbout
    (.start (plainService.settings.supervisorOptions plainService.layout) oneDiskHost 0)
    editedOut :=
  ((ComesAbout.begins plainService oneDiskHost 0).handle _).handle _

/-- The instance runs with the disk that was there. -/
theorem runs_editedOut : ∃ h, (plainService.status editedOut).1.latest = some h
    ∧ h.phase.isTerminal = false ∧ h.configuration.primaryDisk = some "macos9.qcow2" := by
  have runs : (editedOut.system.status.1.any fun h =>
      !h.phase.isTerminal && h.configuration.primaryDisk == some "macos9.qcow2") = true := by
    decide +kernel
  obtain ⟨h, shown, facts⟩ := (Option.any_eq_true _ _).mp runs
  simp only [Bool.and_eq_true, Bool.not_eq_true', beq_iff_eq] at facts
  exact ⟨h, (latest_status _ _).trans shown, facts⟩

/-- The instance that runs is reported as changed when its disk is taken out of the configuration. -/
theorem reported_of_course_editedOut :
    ∃ h, (plainService.status editedOut).1.latest = some h
      ∧ (plainService.status editedOut).1.pid = some h.pid
      ∧ h.configuration.primaryDisk = some "macos9.qcow2"
      ∧ (plainService.status editedOut).1.configuration.primaryDisk = none
      ∧ (plainService.status editedOut).1.changed
      ∧ ∀ files, (plainService.status (editedOut.withFiles files)).1.latest = some h := by
  obtain ⟨moves, course, state⟩ := comesAbout_editedOut
  obtain ⟨truth, -, frame⟩ := reported_of_course plainService _ oneDiskHost 0 moves editedOut course
    state
  obtain ⟨h, shown, live, launched⟩ := runs_editedOut
  have running := truth.running.mpr ⟨h, shown, live⟩
  have stored : (plainService.status editedOut).1.configuration.primaryDisk = none := by
    rw [configuration_status, load_editedOut]
  have differs : ¬Key.Alike .primaryDisk (h.configuration.get .primaryDisk)
      ((plainService.status editedOut).1.configuration.get .primaryDisk) := by
    rw [Configuration.get, Configuration.get, launched, stored]
    simp [Key.Alike, Configuration.samePath]
  exact ⟨h, shown, (truth.pid _).mpr ⟨running, h, shown, rfl⟩, launched, stored,
    truth.changed.mpr ⟨running, h, .primaryDisk, _, shown, truth.configuration .primaryDisk, differs⟩,
    fun files => (frame files).2.1.trans shown⟩

end Service

end GuestSupervisor
