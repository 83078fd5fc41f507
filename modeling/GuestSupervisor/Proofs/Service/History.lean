import GuestSupervisor.Api.Handler
import GuestSupervisor.Proofs.Supervisor.Launched
import GuestSupervisor.Proofs.Supervisor.Schedule

/-!
# What a service launches

Requests are handled one after the other, and between them, and while one of them waits, the
world goes on.  Whatever is asked for in whatever order, a service launches nothing but commands
that it built from the configuration that was stored at the time, together with that
configuration.

## Main Definitions

* `Service.Builds` — a command and the configuration that the service built it from.
* `Service.Permits` — a move of the service or of the world around it.
* `Service.History` — requests handled one after the other, with anything in between.

## Main Statements

* `Service.handle_cases` — handling a request is a start, a restart, or launches nothing.
* `Service.leadsTo_handle` — handling a request is moves of the service.
* `Service.History.supplied` — every instance runs a command that the service built.
-/

namespace GuestSupervisor

open Api Supervisor Text

namespace Service

/-- **A command and the configuration that the service built it from**, on some host. -/
def Builds (service : Service) (command : EmulatorCommand) (c : Configuration) : Prop :=
  ∃ host, (service.buildCommand host).1 = .ok (command, c)

/-- **A move of the service or of the world around it**: no command is launched that the service
did not build. -/
def Permits (service : Service) (move : Move) : Prop := move.Launches service.Builds

/-- **Requests that are handled one after the other**, with anything in between that launches no
foreign command. -/
inductive History (service : Service) : Schedule → Prop
  | begins (host : Host) (now : Nat) : History service (service.schedule host now)
  | request {w : Schedule} (before : History service w) (request : Request) :
    History service (service.handle request w).2
  | meanwhile {w w' : Schedule} (before : History service w)
    (leads : w.LeadsTo service.Permits w') : History service w'

variable {service : Service} {w w' : Schedule}

/-- What asks for no instance is permitted. -/
theorem permits_of_not_asks {move : Move} (silent : ¬move.asks) : service.Permits move :=
  Move.launches_of_not_asks silent

/-! ## Parts of operations -/

theorem goesOnTo_act {move : Move} (silent : ¬move.asks) (w : Schedule) :
    w.GoesOnTo (w.act move) :=
  Schedule.leadsTo_act silent w

theorem goesOnTo_runUntil (goal : Schedule → Bool) (limit : Option Nat) (steps : Nat)
    (w : Schedule) : w.GoesOnTo (Schedule.runUntil goal limit steps w) :=
  Schedule.leadsTo_runUntil Move.not_asks_of_isOwn goal limit steps w

theorem goesOnTo_withHost (w : Schedule) (host : Host) : w.GoesOnTo (w.withHost host) :=
  goesOnTo_act id w

theorem goesOnTo_withFiles (w : Schedule) (files : FileSystem) : w.GoesOnTo (w.withFiles files) :=
  goesOnTo_withHost w _

theorem goesOnTo_status (w : Schedule) : w.GoesOnTo w.status.2 :=
  (goesOnTo_act id w).trans (goesOnTo_runUntil _ _ _ _)

theorem goesOnTo_terminate (w : Schedule) (graceful : Bool) :
    w.GoesOnTo (w.terminate graceful).2 := by
  have performed : w.GoesOnTo (w.perform (.terminate graceful)).2 :=
    Schedule.leadsTo_perform Move.not_asks_of_isOwn id w
  unfold Schedule.terminate
  simp only
  split <;> exact performed

theorem goesOnTo_stop (w : Schedule) : w.GoesOnTo w.stop.2 := by
  have terminated : w.GoesOnTo (w.terminate true).2 := goesOnTo_terminate w true
  unfold Schedule.stop
  split
  · rename_i after outcome
    rw [outcome] at terminated
    exact terminated.trans (goesOnTo_status after)
  · exact terminated

theorem goesOnTo_conclude (w : Schedule) (number : Nat)
    (outcome : Except ChannelError (List Char)) :
    w.GoesOnTo (w.conclude number outcome) := by
  unfold Schedule.conclude
  split
  · exact (goesOnTo_act id w).trans (goesOnTo_act id _)
  · exact goesOnTo_act id w

theorem goesOnTo_dispatch (expected : Option Nat) (command : ControlCommand) (w : Schedule) :
    w.GoesOnTo (Schedule.dispatch expected command w).2 := by
  have settled : ∀ {w' : Schedule}, w.GoesOnTo w' →
      ∀ number outcome, w.GoesOnTo (w'.conclude number outcome).settle :=
    fun leads number outcome =>
      (leads.trans (goesOnTo_conclude _ number outcome)).trans (goesOnTo_runUntil _ _ _ _)
  have asked : w.GoesOnTo (w.act (.dispatch expected command)) :=
    goesOnTo_act id w
  have executed : w.GoesOnTo
      (((w.act (.dispatch expected command)).act (.connect w.system.dispatched)).act
        (.execute w.system.dispatched)) :=
    (asked.trans (goesOnTo_act id _)).trans (goesOnTo_act id _)
  unfold Schedule.dispatch
  simp only
  split
  · exact settled asked _ _
  · split
    · exact settled asked _ _
    · exact settled (executed.trans (Schedule.leadsTo_carryOut Move.not_asks_of_isOwn _ _ _)) _ _

/-- Nobody is asked more than twice, and between the two attempts time goes by. -/
theorem goesOnTo_request (w : Schedule) (expected : Option Nat) (command : ControlCommand) :
    w.GoesOnTo (w.request expected command).2 := by
  have once : ∀ w' : Schedule,
      w'.GoesOnTo (Schedule.dispatch expected command w').2 :=
    goesOnTo_dispatch expected command
  have retried : w.GoesOnTo
      (withRetry (Schedule.dispatch expected command) (·.sleep retryPause) w).2 := by
    have first := once w
    unfold withRetry
    simp only
    split
    · exact first
    · split
      · exact (first.trans (goesOnTo_runUntil _ _ _ _)).trans (once _)
      · exact first
  unfold Schedule.request
  simp only
  split <;> exact retried

/-- **A launch is one move that asks for an instance**, and moves that ask for none. -/
theorem leadsTo_launch {allowed : Move → Prop} (silent : ∀ move : Move, ¬move.asks → allowed move)
    {command : EmulatorCommand} {c : Configuration} (allows : allowed (.launch command c))
    (w : Schedule) : w.LeadsTo allowed (w.launch command c).2 :=
  Schedule.leadsTo_perform (fun move own => silent move (move.not_asks_of_isOwn own)) allows w

/-- **A start is a launch of what the service builds at that moment**, or nothing. -/
theorem leadsTo_start {allowed : Move → Prop} (silent : ∀ move : Move, ¬move.asks → allowed move)
    (builds : ∀ command c, (service.buildCommand w.system.host).1 = .ok (command, c) →
      allowed (.launch command c)) : w.LeadsTo allowed (service.start w).2 := by
  have readied : ∀ host, w.LeadsTo allowed (w.withHost host) := fun host =>
    (goesOnTo_withHost w host).mono silent
  unfold start
  split
  · exact readied _
  · rename_i command c host built
    exact (readied host).trans (leadsTo_launch silent (builds command c (by rw [built])) _)

theorem goesOnTo_captureFrom (shots : Screenshotter) (raw : String) (w : Schedule) :
    w.GoesOnTo (captureFrom shots raw w).2 := by
  have asked : w.GoesOnTo (w.dispatch none (.screendump (.text raw))).2 :=
    goesOnTo_dispatch _ _ _
  have waited : w.GoesOnTo
      ((w.dispatch none (.screendump (.text raw))).2.waitForFile raw shots.wait).2 :=
    asked.trans (goesOnTo_runUntil _ _ _ _)
  unfold captureFrom
  simp only
  split
  · exact asked
  · split
    · rename_i seen
      rw [seen] at waited
      exact waited
    · rename_i seen
      rw [seen] at waited
      exact waited.trans (goesOnTo_withHost _ _)

theorem goesOnTo_capture (service : Service) (w : Schedule) :
    w.GoesOnTo (service.capture w).2 := by
  unfold capture
  simp only
  split
  · exact goesOnTo_withFiles w _
  · exact ((goesOnTo_withFiles w _).trans (goesOnTo_captureFrom _ _ _)).trans
      (goesOnTo_withFiles _ _)

/-! ## Operations -/

theorem goesOnTo_editConfiguration (service : Service) (assignments : List (String × String))
    (w : Schedule) : w.GoesOnTo (service.editConfiguration assignments w).2 := by
  unfold editConfiguration
  simp only
  split
  · exact goesOnTo_withFiles w _
  · exact (goesOnTo_withFiles w _).trans (goesOnTo_status _)

theorem goesOnTo_control (action : String) (query : List (String × String)) (w : Schedule) :
    w.GoesOnTo (control action query w).2 := by
  unfold control
  split
  · split
    · exact goesOnTo_stop w
    · split
      · exact goesOnTo_request w _ _
      · exact .of_eq rfl
  · exact .of_eq rfl

theorem goesOnTo_createDisk (service : Service) (r : DiskRequest) (w : Schedule) :
    w.GoesOnTo (service.createDisk r w).2 := by
  unfold createDisk
  split
  · exact .of_eq rfl
  · exact goesOnTo_withHost w _

theorem goesOnTo_deleteDisk (service : Service) (r : DiskRequest) (w : Schedule) :
    w.GoesOnTo (service.deleteDisk r w).2 := by
  unfold deleteDisk
  simp only
  split
  · exact .of_eq rfl
  · exact goesOnTo_withFiles w _

theorem goesOnTo_resizeDisk (service : Service) (r : DiskRequest) (w : Schedule) :
    w.GoesOnTo (service.resizeDisk r w).2 := by
  unfold resizeDisk
  simp only
  split
  · exact .of_eq rfl
  · exact goesOnTo_withHost w _

theorem goesOnTo_sendAboutDevice (command : String → String → ControlCommand) (r : UsbRequest)
    (w : Schedule) : w.GoesOnTo (sendAboutDevice command r w).2 := by
  unfold sendAboutDevice
  split
  · exact .of_eq rfl
  · exact goesOnTo_request w _ _

/-- A request that cannot be read changes nothing. -/
theorem goesOnTo_withBody {α : Type} {request : Request} {read : List Char → Except Problem α}
    {act : α → Answered} (acts : ∀ value, w.GoesOnTo (act value).2) :
    w.GoesOnTo (withBody request read w act).2 := by
  unfold withBody
  split
  · exact acts _
  · exact .of_eq rfl

/-- **What an operation is**: a start, a restart, or moves that ask for no instance. -/
theorem perform_cases (service : Service) (operation : Operation)
    (query : List (String × String)) (request : Request) (w : Schedule) :
    w.GoesOnTo (service.perform operation query request w).2
      ∨ (service.perform operation query request w).2 = (service.start w).2
      ∨ (service.perform operation query request w).2 = (service.restart w).2 := by
  cases operation with
  | start => exact Or.inr (Or.inl (by rw [perform, startInstance]))
  | restart => exact Or.inr (Or.inr (by rw [perform, restartInstance]))
  | showConfiguration | latestScreenshot | listIsos => exact Or.inl (.of_eq rfl)
  | showStatus => exact Or.inl (goesOnTo_status w)
  | editConfiguration =>
    exact Or.inl (goesOnTo_withBody fun _ => goesOnTo_editConfiguration service _ w)
  | control action => exact Or.inl (goesOnTo_control action query w)
  | takeScreenshot => exact Or.inl (goesOnTo_capture service w)
  | listDisks | listUsbDevices => exact Or.inl (goesOnTo_withHost w _)
  | createDisk => exact Or.inl (goesOnTo_withBody fun _ => goesOnTo_createDisk service _ w)
  | deleteDisk => exact Or.inl (goesOnTo_withBody fun _ => goesOnTo_deleteDisk service _ w)
  | resizeDisk => exact Or.inl (goesOnTo_withBody fun _ => goesOnTo_resizeDisk service _ w)
  | attachUsbDevice | detachUsbDevice =>
    exact Or.inl (goesOnTo_withBody fun _ => goesOnTo_sendAboutDevice _ _ w)

/-- **What handling a request is**: a start, a restart, or moves that ask for no instance. -/
theorem handle_cases (service : Service) (request : Request) (w : Schedule) :
    w.GoesOnTo (service.handle request w).2
      ∨ (service.handle request w).2 = (service.start w).2
      ∨ (service.handle request w).2 = (service.restart w).2 := by
  unfold handle
  simp only
  split
  · exact Or.inl (.of_eq rfl)
  · exact service.perform_cases _ _ request w

/-- **Handling a request is moves of the service**: no command is launched that it did not
build. -/
theorem leadsTo_handle (service : Service) (request : Request) (w : Schedule) :
    w.LeadsTo service.Permits (service.handle request w).2 := by
  have silent : ∀ move : Move, ¬move.asks → service.Permits move := fun _ => permits_of_not_asks
  have starts : ∀ w : Schedule, w.LeadsTo service.Permits (service.start w).2 := fun w =>
    leadsTo_start silent fun command c built order demanded => by
      obtain ⟨rfl, rfl⟩ := demanded
      exact ⟨w.system.host, built⟩
  rcases service.handle_cases request w with goes | started | restarted
  · exact goes.mono silent
  · rw [started]
    exact starts w
  · rw [restarted]
    exact ((goesOnTo_stop w).mono silent).trans (starts _)

/-! ## Histories -/

namespace History

/-- A history is moves of the service. -/
theorem exists_start (history : service.History w) :
    ∃ options host now, (Schedule.start options host now).LeadsTo service.Permits w := by
  induction history with
  | begins host now =>
    refine ⟨service.settings.supervisorOptions service.layout, host, now, ?_⟩
    unfold schedule Schedule.enable
    split
    · exact .of_eq rfl
    · exact Schedule.leadsTo_act (permits_of_not_asks id) _
  | request before request ih =>
    obtain ⟨options, host, now, leads⟩ := ih
    exact ⟨options, host, now, leads.trans (leadsTo_handle service request _)⟩
  | meanwhile before leads' ih =>
    obtain ⟨options, host, now, leads⟩ := ih
    exact ⟨options, host, now, leads.trans leads'⟩

/-- **Every instance runs a command that the service built**, with the configuration that it was
built from. -/
theorem supplied (history : service.History w) : w.system.Supplied service.Builds := by
  obtain ⟨options, host, now, moves, permitted, same⟩ := history.exists_start
  rw [same]
  exact (System.Supplied.start _ options host now).run (System.sound_start options host now)
    permitted

end History

end Service

end GuestSupervisor
