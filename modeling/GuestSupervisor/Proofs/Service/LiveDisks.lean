import GuestSupervisor.Proofs.Host.Entries
import GuestSupervisor.Proofs.Images.Deletion
import GuestSupervisor.Proofs.Service.Editing
import GuestSupervisor.Proofs.Service.History
import GuestSupervisor.Proofs.Service.Screen

/-!
# Disks of the live instance

An instance keeps the drives that it was launched with, while the configuration is edited under
it.  A request to delete a disk is checked against the stored configuration and against nothing
else.  So a disk of the live instance is safe for as long as the stored configuration names it by
the same path.  An edit is enough to lose it, and so is a path of another spelling.

## Main Definitions

* `Api.Request.AsksToDelete` — a request to delete a disk.

## Main Statements

* `Service.exists_deleted_of_accepted` — what is answered with success was deleted.
* `Service.deleted_disk_edited_out` — which disk of an instance can be deleted.
* `Service.live_disk_not_safe` — a live instance that loses its disk.
-/

namespace GuestSupervisor

open Api Supervisor Text

/-! ## Requests to delete -/

/-- **A request to delete a disk.** -/
structure Api.Request.AsksToDelete (request : Request) : Prop where
  method : request.method = "POST"
  path : (Target.ofText request.target.toList).path = ["", "api", "disks", "delete"]

/-- An image that is left as it is is no success. -/
theorem Api.status_ofImage (e : ImageError) : (ApiError.ofImage e).response.status ≠ .ok := by
  cases e <;> simp [ApiError.ofImage, ApiError.response, Response.failed]

namespace Service

variable {service : Service} {request : Request} {w : Schedule} {host : Host}
  {command : EmulatorCommand} {c : Configuration} {r : DiskRequest}

/-- A request to delete is handled by deleting. -/
theorem handle_of_asksToDelete (asks : request.AsksToDelete) :
    service.handle request w
      = withBody request DiskRequest.record.readText w fun r => service.deleteDisk r w := by
  have asked : Operation.ofRequest request.method (Target.ofText request.target.toList).path
      = .ok .deleteDisk := by
    rw [asks.method, asks.path]
    rfl
  exact handle_of_operation asks.method asked

/-- **A deletion is answered with what became of it.** -/
theorem handle_of_deleteDisk (asks : request.AsksToDelete)
    (read : request.read DiskRequest.record.readText = .ok r)
    (named : r.trimmedName.isEmpty = false) :
    service.handle request w
      = (answer (fun _ => .done "") ((service.images.deleteDisk r.trimmedName
            (service.store.load w.system.host.files).configuration
            w.system.host.files).1.mapError .ofImage),
          w.withFiles (service.images.deleteDisk r.trimmedName
            (service.store.load w.system.host.files).configuration w.system.host.files).2) := by
  rw [handle_of_asksToDelete asks]
  simp only [withBody, read, deleteDisk, named, Bool.false_eq_true, if_false]

/-- **What is answered with success was deleted**, and nothing else happened. -/
theorem exists_deleted_of_accepted (asks : request.AsksToDelete)
    (accepted : (service.handle request w).1.status = .ok) :
    ∃ r after, request.read DiskRequest.record.readText = .ok r
      ∧ service.images.deleteDisk r.trimmedName
          (service.store.load w.system.host.files).configuration w.system.host.files
        = (.ok (), after)
      ∧ (service.handle request w).2 = w.withFiles after := by
  cases read : request.read DiskRequest.record.readText with
  | error status =>
    rw [handle_of_asksToDelete asks, withBody, read] at accepted
    exact absurd accepted (Api.ne_ok_of_read read)
  | ok r =>
    cases named : r.trimmedName.isEmpty with
    | true =>
      rw [handle_of_asksToDelete asks, withBody, read] at accepted
      simp only [deleteDisk, named, if_true] at accepted
      cases accepted
    | false =>
      rw [handle_of_deleteDisk asks read named] at accepted ⊢
      cases outcome : service.images.deleteDisk r.trimmedName
          (service.store.load w.system.host.files).configuration w.system.host.files with
      | mk result after =>
        rw [outcome] at accepted
        cases result with
        | error e => exact absurd accepted (Api.status_ofImage e)
        | ok => exact ⟨r, after, rfl, outcome, rfl⟩

/-! ## Disks that were launched -/

/-- **A disk drive is of a disk that the configuration names**, for every command that the
service builds. -/
theorem Builds.exists_namesDisk (builds : service.Builds command c) {drive : Drive}
    (attached : drive ∈ command.drives) (disk : drive.media = .disk) :
    ∃ text, c.NamesDisk text ∧ drive.path = Path.join service.layout.disk text := by
  obtain ⟨host, built⟩ := builds
  obtain ⟨-, files, outcome⟩ := exists_build built
  rw [CommandBuilder.drives_of_build outcome] at attached
  have directory : service.builder.diskDirectory = service.layout.disk := rfl
  rw [← directory]
  exact CommandBuilder.exists_namesDisk_of_mem_attached attached disk

/-- **A deleted disk of an instance was edited out.**  Whatever was asked for before, whenever a
request deletes a disk, an entry is removed, and if its path is that of a disk drive of the latest
instance, live or not, then that is a disk of the configuration that the instance was launched
with, and the stored configuration, which says something else by now, names it no longer. -/
theorem deleted_disk_edited_out (service : Service) (request : Request) (w : Schedule)
    (history : service.History w) (asks : request.AsksToDelete)
    (accepted : (service.handle request w).1.status = .ok) :
    ∃ r place node, request.read DiskRequest.record.readText = .ok r
      ∧ w.system.host.files.resolve (Path.join service.layout.disk r.trimmedName) false
        = .ok (place, some node) ∧ node ≠ .directory
      ∧ (service.handle request w).2 = w.withFiles (w.system.host.files.drop place)
      ∧ ∀ h drive, w.system.core.published = some h → drive ∈ h.command.drives →
        drive.media = .disk →
        Path.same drive.path (Path.join service.layout.disk r.trimmedName) →
        ∃ disk, h.configuration.NamesDisk disk
          ∧ drive.path = Path.join service.layout.disk disk
          ∧ (∀ stored, (service.store.load w.system.host.files).configuration.NamesDisk stored →
            ¬Path.same (Path.join service.layout.disk stored) drive.path)
          ∧ h.configuration.agrees (service.store.load w.system.host.files).configuration
            = false := by
  obtain ⟨r, after, read, deleted, handled⟩ := exists_deleted_of_accepted asks accepted
  obtain ⟨-, free, place, node, named, notDirectory, rfl⟩ := ImageLibrary.deleteDisk_cases deleted
  refine ⟨r, place, node, read, named, notDirectory, handled, ?_⟩
  intro h drive published attached media spelt
  obtain ⟨disk, names, path⟩ := (history.supplied.published h published).exists_namesDisk
    attached media
  have gone : ∀ stored,
      (service.store.load w.system.host.files).configuration.NamesDisk stored →
      ¬Path.same (Path.join service.layout.disk stored) drive.path := by
    intro stored configured same
    refine free (ImageLibrary.isConfigured_iff.mpr ⟨stored, configured, ?_⟩)
    exact beq_iff_eq.mpr ((beq_iff_eq.mp same).trans (beq_iff_eq.mp spelt))
  refine ⟨disk, names, path, gone, ?_⟩
  by_contra unedited
  obtain ⟨stored, configured, same⟩ := names.of_agrees (Bool.eq_true_of_not_eq_false unedited)
  refine gone stored configured ?_
  rw [path]
  exact beq_iff_eq.mpr (beq_iff_eq.mp (Path.same_join _ same)).symm

/-- A request to start an instance starts one. -/
theorem snd_perform_start (query : List (String × String)) :
    (service.perform .start query request w).2 = (service.start w).2 := by
  rw [perform, startInstance]

/-- **A request to start an instance launches the command** of the configuration that is loaded, on
a service that does not ask for the host's display. -/
theorem snd_handle_of_start (method : request.method = "POST")
    (path : (Target.ofText request.target.toList).path = ["", "api", "start"])
    (plain : service.settings.emulator.detectDisplay = false)
    (loaded : (service.store.load w.system.host.files).configuration = c)
    (built : service.builder.build w.system.host.files c none = .ok command) :
    (service.handle request w).2 = ((w.withHost w.system.host).launch command c).2 := by
  have asked : Operation.ofRequest request.method (Target.ofText request.target.toList).path
      = .ok .start := by
    rw [method, path]
    rfl
  have ready : service.buildCommand w.system.host = (.ok (command, c), w.system.host) := by
    simp only [buildCommand, loaded, plain, Bool.false_eq_true, if_false, built, Except.map]
  rw [handle_of_operation method asked, snd_perform_start]
  unfold start
  split
  · rename_i failed
    rw [ready] at failed
    cases failed
  · rename_i launched
    rw [ready] at launched
    cases launched
    rfl

/-- What several requests leave. -/
def after (service : Service) (w : Schedule) (requests : List Request) : Schedule :=
  requests.foldl (fun w request => (service.handle request w).2) w

theorem History.after (history : service.History w) (requests : List Request) :
    service.History (service.after w requests) := by
  induction requests generalizing w with
  | nil => exact history
  | cons request requests ih => exact ih (history.request request)

/-- A service that does not ask for the host's display. -/
def plainService : Service := ⟨Layout.under "/", { emulator := { detectDisplay := false } }⟩

/-- A host with the first disk of the default configuration, on which the emulator is a
stand-in. -/
def oneDiskHost : Host :=
  { files := ⟨[(["disk"], .directory), (["disk", "macos9.qcow2"], .file [])], [], []⟩
    tools := [("qemu-system-ppc", .standIn)]
    programs := []
    toolRuns := [] }

/-- A request with a text of JSON, to change something. -/
def postRequest (path body : String) : Request := ⟨"POST", path, some "application/json", body⟩

/-- A request to start an instance. -/
def starting : Request := postRequest "/api/start" ""

/-- A request to delete the disk. -/
def deletion : Request := postRequest "/api/disks/delete" "\x7b\"name\":\"macos9.qcow2\"\x7d"

/-- An instance was started, and then its disk was taken out of the configuration. -/
def editedOut : Schedule :=
  plainService.after (plainService.schedule oneDiskHost 0)
    [starting, postRequest "/api/config" "\x7b\"PRIMARY_DISK\":\"\"\x7d"]

theorem history_editedOut : plainService.History editedOut :=
  (History.begins oneDiskHost 0).after _

theorem asksToDelete_deletion : deletion.AsksToDelete where
  method := rfl
  path := by
    have path : (Target.ofText "/api/disks/delete".toList).path
        = ["", "api", "disks", "delete"] := by cbv
    exact path

theorem read_deletion :
    deletion.read DiskRequest.record.readText = .ok { name := "macos9.qcow2" } := by
  decide +kernel

/-- The request is answered with success where the disk can be deleted. -/
theorem accepted_of_deletes (loaded : plainService.store.load w.system.host.files = ⟨c, []⟩)
    (deletes : (plainService.images.deleteDisk "macos9.qcow2" c w.system.host.files).1 = .ok ()) :
    (plainService.handle deletion w).1.status = .ok := by
  have name : DiskRequest.trimmedName { name := "macos9.qcow2" } = "macos9.qcow2" := by decide
  rw [handle_of_deleteDisk asksToDelete_deletion read_deletion (by rw [name]; rfl), loaded, name,
    deletes]
  rfl

/-- What can be looked up when the disk was taken out: what is stored, that the disk can be deleted,
and the instance that has it. -/
theorem facts_editedOut :
    editedOut.system.host.files.readBytes plainService.store.path
        = .ok (Utf8.encode (Configuration.fileText { primaryDisk := none }))
      ∧ (plainService.images.deleteDisk "macos9.qcow2" { primaryDisk := none }
          editedOut.system.host.files).1 = .ok ()
      ∧ editedOut.system.core.published.any fun h =>
        h.isLive && h.command.drives.any fun drive =>
          drive.media = .disk && drive.path = "/disk/macos9.qcow2" := by
  decide +kernel

/-- What is stored is known from what was written. -/
theorem load_editedOut : plainService.store.load editedOut.system.host.files
    = ⟨{ primaryDisk := none }, []⟩ := by
  have valid : Configuration.IsValid { primaryDisk := none } :=
    (Configuration.validate_eq_ok_iff_isValid _).mp (by decide)
  have neat : Configuration.trimmed { primaryDisk := none } = { primaryDisk := none } := by
    decide
  rw [ConfigurationStore.load_of_valid valid facts_editedOut.1, neat]

theorem accepted_deletion : (plainService.handle deletion editedOut).1.status = .ok :=
  accepted_of_deletes load_editedOut facts_editedOut.2.1

theorem exists_live_editedOut : ∃ h, editedOut.system.core.published = some h ∧ h.isLive ∧
    ∃ drive ∈ h.command.drives, drive.media = .disk ∧ drive.path = "/disk/macos9.qcow2" := by
  obtain ⟨h, published, facts⟩ := (Option.any_eq_true _ _).mp facts_editedOut.2.2
  simp only [Bool.and_eq_true, List.any_eq_true, decide_eq_true_eq] at facts
  exact ⟨h, published, facts⟩

/-- The disk that was edited out can be deleted under the instance. -/
theorem deleted_disk_edited_out_live :
    plainService.History editedOut ∧ deletion.AsksToDelete
      ∧ (plainService.handle deletion editedOut).1.status = .ok
      ∧ ∃ h disk, editedOut.system.core.published = some h ∧ h.isLive
        ∧ h.configuration.NamesDisk disk
        ∧ Path.join "/disk" disk = "/disk/macos9.qcow2"
        ∧ h.configuration.agrees
            (plainService.store.load editedOut.system.host.files).configuration = false := by
  obtain ⟨r, place, node, read, -, -, -, edited⟩ := deleted_disk_edited_out plainService deletion
    editedOut history_editedOut asksToDelete_deletion accepted_deletion
  obtain rfl := Except.ok.inj (read_deletion.symm.trans read)
  obtain ⟨h, published, live, drive, attached, media, path⟩ := exists_live_editedOut
  have spelt : Path.same drive.path
      (Path.join plainService.layout.disk (DiskRequest.trimmedName { name := "macos9.qcow2" })) := by
    rw [path]
    decide
  obtain ⟨disk, names, same, -, differs⟩ := edited h drive published attached media spelt
  exact ⟨history_editedOut, asksToDelete_deletion, accepted_deletion, h, disk, published, live,
    names, same.symm.trans path, differs⟩

/-- A configuration whose path of the disk goes up and down again. -/
def climbing : Configuration := { primaryDisk := some "../disk/macos9.qcow2" }

/-- A host on which it is stored. -/
def climbingHost : Host :=
  { oneDiskHost with
    files := ⟨oneDiskHost.files.entries ++ [(["config"], .directory),
      (["config", "qemu.conf"], .file (Utf8.encode climbing.fileText))], [], []⟩ }

/-- The service on that host before anything happens. -/
def climbingStored : Schedule := plainService.schedule climbingHost 0

/-- An instance was started there. -/
def climbingStarted : Schedule := plainService.after climbingStored [starting]

theorem history_climbingStarted : plainService.History climbingStarted :=
  (History.begins climbingHost 0).after _

theorem load_of_climbing {fs : FileSystem} (written : fs.readBytes plainService.store.path
    = .ok (Utf8.encode climbing.fileText)) : plainService.store.load fs = ⟨climbing, []⟩ := by
  have valid : climbing.IsValid := (Configuration.validate_eq_ok_iff_isValid _).mp (by decide)
  have neat : climbing.trimmed = climbing := by decide
  rw [ConfigurationStore.load_of_valid valid written, neat]

/-- The command for the configuration. -/
def climbingCommand : EmulatorCommand :=
  (plainService.builder.build climbingHost.files climbing none).toOption.getD default

/-- The start is that of the command. -/
theorem climbingStarted_eq : climbingStarted
    = ((climbingStored.withHost climbingStored.system.host).launch climbingCommand climbing).2 := by
  have path : (Target.ofText starting.target.toList).path = ["", "api", "start"] := by
    have path : (Target.ofText "/api/start".toList).path = ["", "api", "start"] := by cbv
    exact path
  have loaded : plainService.store.load climbingStored.system.host.files = ⟨climbing, []⟩ :=
    load_of_climbing rfl
  have built : plainService.builder.build climbingStored.system.host.files climbing none
      = .ok climbingCommand := by decide
  have handled := snd_handle_of_start rfl path rfl
    (congrArg Configuration.Loaded.configuration loaded) built
  rw [climbingStarted, after, List.foldl_cons, List.foldl_nil, handled]

/-- What can be looked up when the instance was started: what is stored, that the disk can be
deleted, the instance that has it, and that both texts lead to the one file. -/
theorem facts_climbingStarted :
    climbingStarted.system.host.files.readBytes plainService.store.path
        = .ok (Utf8.encode climbing.fileText)
      ∧ (plainService.images.deleteDisk "macos9.qcow2" climbing
          climbingStarted.system.host.files).1 = .ok ()
      ∧ (climbingStarted.system.core.published.any fun h =>
        h.isLive && (h.configuration = climbing && h.command.drives.any fun drive =>
          drive.path = "/disk/../disk/macos9.qcow2"))
      ∧ climbingStarted.system.host.files.resolve "/disk/macos9.qcow2" false
        = .ok (["disk", "macos9.qcow2"], some (.file []))
      ∧ climbingStarted.system.host.files.resolve "/disk/../disk/macos9.qcow2" true
        = .ok (["disk", "macos9.qcow2"], some (.file [])) := by
  rw [climbingStarted_eq]
  decide +kernel

theorem exists_live_climbingStarted :
    ∃ h, climbingStarted.system.core.published = some h ∧ h.isLive ∧ h.configuration = climbing ∧
      ∃ drive ∈ h.command.drives, drive.path = "/disk/../disk/macos9.qcow2" := by
  obtain ⟨-, -, shown, -⟩ := facts_climbingStarted
  obtain ⟨h, published, facts⟩ := (Option.any_eq_true _ _).mp shown
  simp only [Bool.and_eq_true, List.any_eq_true, decide_eq_true_eq] at facts
  exact ⟨h, published, facts⟩

theorem load_climbingStarted :
    plainService.store.load climbingStarted.system.host.files = ⟨climbing, []⟩ :=
  load_of_climbing facts_climbingStarted.1

theorem accepted_deletion_climbingStarted :
    (plainService.handle deletion climbingStarted).1.status = .ok :=
  accepted_of_deletes load_climbingStarted facts_climbingStarted.2.1

/-- **A live instance can lose its disk**: the instance is started, its disk is taken out of the
configuration, and the disk is deleted.  Nothing has to be edited when the configuration spells the
path of the disk in another way than the guard: then the file that the drive leads to is removed
while the stored configuration is the one of the launch. -/
theorem live_disk_not_safe :
    (¬∀ (service : Service) (request : Request) (w : Schedule) (r : DiskRequest) (h : Handle)
        (drive : Drive),
      service.History w → request.AsksToDelete → (service.handle request w).1.status = .ok →
      request.read DiskRequest.record.readText = .ok r → w.system.core.published = some h →
      h.isLive → drive ∈ h.command.drives →
      ¬Path.same drive.path (Path.join service.layout.disk r.trimmedName)) ∧
    ∃ h drive place bytes, plainService.History climbingStarted
      ∧ (plainService.handle deletion climbingStarted).1.status = .ok
      ∧ climbingStarted.system.core.published = some h ∧ h.isLive ∧ drive ∈ h.command.drives
      ∧ (plainService.store.load climbingStarted.system.host.files).configuration = h.configuration
      ∧ climbingStarted.system.host.files.resolve drive.path true = .ok (place, some (.file bytes))
      ∧ (plainService.handle deletion climbingStarted).2
        = climbingStarted.withFiles (climbingStarted.system.host.files.drop place) := by
  constructor
  · intro safe
    obtain ⟨h, published, live, drive, attached, -, path⟩ := exists_live_editedOut
    refine safe plainService deletion editedOut _ h drive history_editedOut asksToDelete_deletion
      accepted_deletion read_deletion published live attached ?_
    rw [path]
    decide
  · obtain ⟨h, published, live, configured, drive, attached, path⟩ := exists_live_climbingStarted
    obtain ⟨r, after, read, deleted, handled⟩ :=
      exists_deleted_of_accepted asksToDelete_deletion accepted_deletion_climbingStarted
    obtain rfl := Except.ok.inj (read_deletion.symm.trans read)
    obtain ⟨-, -, place, node, named, -, rfl⟩ := ImageLibrary.deleteDisk_cases deleted
    -- Both texts lead to the one file, and by neither is a link on the way.
    obtain ⟨-, -, -, removed, used⟩ := facts_climbingStarted
    obtain rfl : ["disk", "macos9.qcow2"] = place :=
      congrArg Prod.fst (Except.ok.inj (removed.symm.trans named))
    refine ⟨h, drive, _, [], history_climbingStarted, accepted_deletion_climbingStarted, published,
      live, attached, ?_, ?_, handled⟩
    · rw [load_climbingStarted, configured]
    · rw [path]
      exact used

end Service

end GuestSupervisor
