import GuestSupervisor.Proofs.Supervisor.Carried

/-!
# Commands carried out and acknowledged

Along a run, commands are sent, carried out and acknowledged or lost on their way.  Whoever looks
at every move and writes down which command an emulator carries out has the same commands in the
book, each as often, as who writes down the acknowledgements and the losses and adds at the end
what is still on its way.  The order may be another.

## Main Definitions

* `System.executed?`, `System.acknowledged?`, `System.lost?` — the command that a move has carried
  out, acknowledges or loses.
* `System.along` — what is written down along a run.
* `System.Numbered` — the commands on their way are told apart by their numbers.
* `System.AllReturn` — all commands of a run have returned, none of them with an error.

## Main Statements

* `System.forall_dispatches_apply` — what holds of a command from the first holds on its way.
* `System.Numbered.perm_run` — what was carried out was acknowledged, was lost, or is on its way.
* `System.Sound.exists_error_of_mem_losses` — who loses a command is told.
* `System.Sound.acknowledged_or_told` — a command ends with an acknowledgement or with an error.
* `System.AllReturn.balanced` — when all have returned, all were carried out and acknowledged.
-/

namespace GuestSupervisor.Supervisor

open Instance Monitor

/-- Whether a command at this stage was carried out. -/
def DispatchStage.isCarriedOut : DispatchStage → Bool
  | .executed _ | .replied _ => true
  | .checked | .connected _ => false

/-- A command as it is written down: its number and what it asks for. -/
def Dispatch.entry (d : Dispatch) : Nat × ControlCommand := (d.id, d.command)

namespace System

variable {s : System} {d : Dispatch} {id n : Nat} {move : Move}

/-! ## What a move is written down for -/

/-- **The command that a move has carried out**: its process still runs. -/
def executed? (s : System) : Move → Option Dispatch
  | .execute id => (s.dispatch? id).filter fun d =>
      match d.stage with
      | .connected peer => (s.child? peer).any (·.life.isAlive)
      | _ => false
  | _ => none

/-- **The command that a move acknowledges**: its reply has arrived. -/
def acknowledged? (s : System) : Move → Option Dispatch
  | .acknowledge id => (s.dispatch? id).filter (·.stage matches .replied _)
  | _ => none

/-- **The command that a move loses** although it was carried out. -/
def lost? (s : System) : Move → Option Dispatch
  | .fail id _ => (s.dispatch? id).filter (·.stage matches .executed _)
  | _ => none

/-- What is written down for one move. -/
def noted (look : System → Move → Option Dispatch) (s : System) (move : Move) :
    List (Nat × ControlCommand) := (look s move).toList.map Dispatch.entry

/-- **What is written down along a run.** -/
def along (look : System → Move → Option Dispatch) (s : System) :
    List Move → List (Nat × ControlCommand)
  | [] => []
  | move :: moves => noted look s move ++ along look (s.apply move) moves

theorem along_cons (look : System → Move → Option Dispatch) (s : System) (move : Move)
    (moves : List Move) :
    along look s (move :: moves) = noted look s move ++ along look (s.apply move) moves := rfl

/-- The commands that emulators carry out along a run, in this order. -/
def executions (s : System) (moves : List Move) : List (Nat × ControlCommand) :=
  along executed? s moves

/-- The commands that are acknowledged along a run, in this order. -/
def acknowledgements (s : System) (moves : List Move) : List (Nat × ControlCommand) :=
  along acknowledged? s moves

/-- The commands that are lost along a run although they were carried out. -/
def losses (s : System) (moves : List Move) : List (Nat × ControlCommand) := along lost? s moves

theorem mem_dispatches_of_dispatch? (found : s.dispatch? id = some d) :
    d ∈ s.dispatches ∧ d.id = id :=
  ⟨List.mem_of_find?_eq_some found, by simpa using List.find?_some found⟩

/-- **What a move has carried out**, if anything. -/
theorem execute_cases (s : System) (id : Nat) :
    (s.executed? (.execute id) = none ∧ s.execute id = s) ∨ ∃ d peer,
      s.executed? (.execute id) = some d ∧ s.dispatch? id = some d ∧ d.stage = .connected peer ∧
        (s.child? peer).any (·.life.isAlive) ∧
        s.execute id = (s.updateChild peer (Child.obey d.command)).advance id (.executed peer) := by
  simp only [executed?, execute]
  cases s.dispatch? id with
  | none => exact .inl ⟨rfl, rfl⟩
  | some d =>
    cases stage : d.stage with
    | connected peer =>
      by_cases alive : (s.child? peer).any (·.life.isAlive)
      · exact .inr ⟨d, peer, by simp [stage, alive], rfl, stage, alive,
          by simp only [stage, if_pos alive]; rfl⟩
      · exact .inl ⟨by simp [stage, alive], by simp only [stage, if_neg alive]⟩
    | checked | executed | replied => exact .inl ⟨by simp [stage], by simp only [stage]⟩

/-- **What a move acknowledges**, if anything. -/
theorem acknowledge_cases (s : System) (id : Nat) :
    (s.acknowledged? (.acknowledge id) = none ∧ s.acknowledge id = s) ∨ ∃ d text,
      s.acknowledged? (.acknowledge id) = some d ∧ s.dispatch? id = some d ∧
        d.stage = .replied text ∧ s.acknowledge id
          = { s with core := acknowledged s.core d.generation d.command }.endDispatch id
              (.ok text) := by
  simp only [acknowledged?, acknowledge]
  cases s.dispatch? id with
  | none => exact .inl ⟨rfl, rfl⟩
  | some d =>
    cases stage : d.stage with
    | replied text =>
      refine .inr ⟨d, text, by simp [stage], rfl, stage, ?_⟩
      simp only [stage, acknowledged]
      cases acknowledgement? d.command <;> rfl
    | checked | connected | executed => exact .inl ⟨by simp [stage], by simp only [stage]⟩

/-- **What a move loses**, if anything. -/
theorem fail_cases (s : System) (id : Nat) (error : ChannelError) :
    (s.lost? (.fail id error) = none ∧ s.fail id error = s) ∨ ∃ d,
      s.dispatch? id = some d ∧ s.fail id error = s.endDispatch id (.error error) ∧
        s.lost? (.fail id error) = if d.stage.isCarriedOut then some d else none := by
  simp only [lost?, fail]
  cases s.dispatch? id with
  | none => exact .inl ⟨rfl, rfl⟩
  | some d =>
    cases stage : d.stage with
    | replied text => exact .inl ⟨by simp [stage], by simp [stage]⟩
    | checked | connected | executed =>
      exact .inr ⟨d, rfl, by simp [stage], by simp [stage, DispatchStage.isCarriedOut]⟩

/-! ## Commands on their way -/

/-- **What holds of a command from the first holds on its way.** -/
theorem forall_dispatches_apply (holds : Dispatch → Prop)
    (further : ∀ d stage, holds d → holds { d with stage })
    (first : ∀ expected command h, move = .dispatch expected command →
      addressee s.options s.status.1 expected command = .ok h →
      holds ⟨s.dispatched, expected, command, h.generation, h.endpoint, .checked⟩)
    (all : ∀ d ∈ s.dispatches, holds d) : ∀ d ∈ (s.apply move).dispatches, holds d := by
  have dispatches {ds : List Dispatch} {m : Nat} (same : (s.apply move).commands = (ds, m)) :
      (s.apply move).dispatches = ds := congrArg Prod.fst same
  intro d member
  cases s.carries_apply move with
  | kept commands =>
    rw [dispatches commands] at member
    exact all d member
  | went d' stage found goes commands =>
    rw [dispatches commands] at member
    obtain ⟨e, memE, rfl⟩ := List.mem_map.mp member
    split
    · exact further e _ (all e memE)
    · exact all e memE
  | ended other commands | refused commands =>
    rw [dispatches commands] at member
    exact all d (List.mem_of_mem_filter member)
  | sent h accepted commands =>
    rw [dispatches commands] at member
    rcases List.mem_cons.mp member with rfl | before
    · exact first _ _ h rfl accepted
    · exact all d before

/-- **The commands on their way are told apart by their numbers**, from `n` on. -/
structure Numbered (s : System) (n : Nat) : Prop where
  distinct : (s.dispatches.map Dispatch.id).Nodup
  counted : ∀ d ∈ s.dispatches, d.id < s.dispatched
  since : ∀ d ∈ s.dispatches, n ≤ d.id
  next : n ≤ s.dispatched

theorem numbered_of_idle (idle : s.dispatches = []) : s.Numbered s.dispatched where
  distinct := by simp [idle]
  counted := by simp [idle]
  since := by simp [idle]
  next := Nat.le_refl _

theorem Numbered.apply (numbered : s.Numbered n) (move : Move) : (s.apply move).Numbered n where
  distinct := by
    have dispatches {ds : List Dispatch} {m : Nat} (same : (s.apply move).commands = (ds, m)) :
        (s.apply move).dispatches = ds := congrArg Prod.fst same
    cases s.carries_apply move with
    | kept commands =>
      rw [dispatches commands]
      exact numbered.distinct
    | went d stage found goes commands =>
      have ids : (s.advance d.id stage).dispatches.map Dispatch.id
          = s.dispatches.map Dispatch.id := by
        simp only [advance, List.map_map]
        refine List.map_congr_left fun e _ => ?_
        simp only [Function.comp]
        split <;> rfl
      rw [dispatches commands, ids]
      exact numbered.distinct
    | ended other commands | refused commands =>
      rw [dispatches commands]
      exact numbered.distinct.sublist (List.filter_sublist.map _)
    | sent h accepted commands =>
      rw [dispatches commands, List.map_cons, List.nodup_cons]
      refine ⟨fun again => ?_, numbered.distinct⟩
      obtain ⟨d, member, same⟩ := List.mem_map.mp again
      exact Nat.ne_of_lt (numbered.counted d member) same
  counted := forall_dispatches_apply (fun d => d.id < (s.apply move).dispatched)
    (fun _ _ less => less)
    (fun expected command _ asks _ => asks ▸ (s.dispatch?_beginDispatch expected command).1)
    fun d member => Nat.lt_of_lt_of_le (numbered.counted d member) (s.dispatched_le_apply move)
  since := forall_dispatches_apply (fun d => n ≤ d.id) (fun _ _ least => least)
    (fun _ _ _ _ _ => numbered.next) numbered.since
  next := Nat.le_trans numbered.next (s.dispatched_le_apply move)

/-- **The command with a number stands once** among those on their way. -/
theorem Numbered.exists_split (numbered : s.Numbered n) (found : s.dispatch? id = some d) :
    ∃ before after, s.dispatches = before ++ d :: after ∧ ∀ e ∈ before ++ after, e.id ≠ id := by
  obtain ⟨same, before, after, split, others⟩ := List.find?_eq_some_iff_append.mp found
  obtain rfl : d.id = id := by simpa using same
  refine ⟨before, after, split, fun e member => ?_⟩
  have distinct := numbered.distinct
  rw [split, (List.perm_middle.map Dispatch.id).nodup_iff, List.map_cons,
    List.nodup_cons] at distinct
  exact fun same => distinct.1 (List.mem_map.mpr ⟨e, member, same⟩)

/-- Without it the others are left, and as it goes on it stays the only one. -/
theorem Numbered.perm_dispatches (numbered : s.Numbered n) (found : s.dispatch? id = some d) :
    s.dispatches.Perm (d :: s.dispatches.filter (·.id != id)) ∧ ∀ stage,
      (s.advance id stage).dispatches.Perm
        ({ d with stage } :: s.dispatches.filter (·.id != id)) := by
  obtain ⟨before, after, split, others⟩ := numbered.exists_split found
  obtain ⟨-, number⟩ := mem_dispatches_of_dispatch? found
  have left : s.dispatches.filter (·.id != id) = before ++ after := by
    rw [split, List.filter_append, List.filter_cons_of_neg (by simp [number]), ← List.filter_append]
    exact List.filter_eq_self.mpr fun e member => by simpa using others e member
  refine ⟨by rw [left, split]; exact List.perm_middle, fun stage => ?_⟩
  have kept (ds : List Dispatch) (among : ∀ e ∈ ds, e ∈ before ++ after) :
      ds.map (fun d => if d.id = id then { d with stage } else d) = ds :=
    (List.map_congr_left fun e member => if_neg (others e (among e member))).trans (List.map_id ds)
  rw [left, advance, split, List.map_append, List.map_cons, if_pos number,
    kept before (fun e member => List.mem_append_left _ member),
    kept after (fun e member => List.mem_append_right _ member)]
  exact List.perm_middle

/-! ## The books -/

/-- What is to be written down of the commands that were carried out and are still on their
way. -/
def awaiting (dispatches : List Dispatch) : List (Nat × ControlCommand) :=
  (dispatches.filter (·.stage.isCarriedOut)).map Dispatch.entry

theorem awaiting_cons (d : Dispatch) (dispatches : List Dispatch) :
    awaiting (d :: dispatches)
      = (if d.stage.isCarriedOut then [d.entry] else []) ++ awaiting dispatches := by
  unfold awaiting
  by_cases out : d.stage.isCarriedOut <;> simp [out]

theorem perm_awaiting {ds ds' : List Dispatch} (perm : ds.Perm ds') :
    (awaiting ds).Perm (awaiting ds') :=
  (perm.filter _).map _

/-- The one command and the others, as it was and as it goes on. -/
theorem Numbered.perm_awaiting (numbered : s.Numbered n) (found : s.dispatch? id = some d) :
    (awaiting s.dispatches).Perm ((if d.stage.isCarriedOut then [d.entry] else [])
        ++ awaiting (s.dispatches.filter (·.id != id))) ∧
      ∀ stage : DispatchStage, (awaiting (s.advance id stage).dispatches).Perm
        ((if stage.isCarriedOut then [d.entry] else [])
          ++ awaiting (s.dispatches.filter (·.id != id))) := by
  obtain ⟨before, after⟩ := numbered.perm_dispatches found
  constructor
  · rw [← awaiting_cons]
    exact System.perm_awaiting before
  · intro stage
    exact (System.perm_awaiting (after stage)).trans (.of_eq (awaiting_cons _ _))

/-- A command that goes on is still to be written down, or it is not yet. -/
theorem Numbered.perm_awaiting_advance (numbered : s.Numbered n) (found : s.dispatch? id = some d)
    {stage : DispatchStage} (same : stage.isCarriedOut = d.stage.isCarriedOut) :
    (awaiting s.dispatches).Perm (awaiting (s.advance id stage).dispatches) := by
  obtain ⟨before, after⟩ := numbered.perm_awaiting found
  have after := after stage
  rw [same] at after
  exact before.trans after.symm

/-- A command that is checked is not yet to be written down. -/
theorem Numbered.perm_awaiting_dispatch (numbered : s.Numbered n) (expected : Option Nat)
    (command : ControlCommand) : (awaiting s.dispatches).Perm
      (awaiting (s.beginDispatch expected command).dispatches) := by
  refine .of_eq ?_
  rcases s.beginDispatch_cases expected command with refused | ⟨h, accepted, sent⟩
  · have all : s.dispatches.filter (·.id != s.dispatched) = s.dispatches :=
      List.filter_eq_self.mpr fun d member => by
        simpa using Nat.ne_of_lt (numbered.counted d member)
    rw [show (s.beginDispatch expected command).dispatches = _ from congrArg Prod.fst refused, all]
  · rw [show (s.beginDispatch expected command).dispatches = _ from congrArg Prod.fst sent,
      awaiting_cons]
    rfl

/-- **One move keeps the books balanced.** -/
theorem Numbered.perm_apply (numbered : s.Numbered n) (move : Move) :
    (noted executed? s move ++ awaiting s.dispatches).Perm (noted acknowledged? s move
      ++ (noted lost? s move ++ awaiting (s.apply move).dispatches)) := by
  cases move with
  | execute id =>
    rcases s.execute_cases id with ⟨nothing, same⟩ | ⟨d, peer, notes, found, stage, -, same⟩
    · simp [noted, nothing, acknowledged?, lost?, System.apply, same]
    · obtain ⟨before, after⟩ := numbered.perm_awaiting found
      have carried := after (.executed peer)
      simp only [stage, DispatchStage.isCarriedOut] at before carried
      simp only [noted, notes, acknowledged?, lost?, System.apply, same]
      exact (before.append_left [d.entry]).trans carried.symm
  | acknowledge id =>
    rcases s.acknowledge_cases id with ⟨nothing, same⟩ | ⟨d, text, notes, found, stage, same⟩
    · simp [noted, nothing, executed?, lost?, System.apply, same]
    · obtain ⟨before, -⟩ := numbered.perm_awaiting found
      simp only [stage, DispatchStage.isCarriedOut] at before
      simp only [noted, notes, executed?, lost?, System.apply, same]
      exact before
  | fail id error =>
    rcases s.fail_cases id error with ⟨nothing, same⟩ | ⟨d, found, same, notes⟩
    · simp [noted, nothing, executed?, acknowledged?, System.apply, same]
    · obtain ⟨before, -⟩ := numbered.perm_awaiting found
      simp only [noted, notes, executed?, acknowledged?, System.apply, same]
      cases out : d.stage.isCarriedOut <;> rw [out] at before <;> exact before
  | dispatch expected command => exact numbered.perm_awaiting_dispatch expected command
  | connect id =>
    show (awaiting s.dispatches).Perm (awaiting (s.connect id).dispatches)
    unfold connect
    split
    · rename_i d found
      split
      · rename_i stage _
        exact numbered.perm_awaiting_advance found (by rw [stage]; rfl)
      · rfl
    · rfl
  | reply id text =>
    show (awaiting s.dispatches).Perm (awaiting (s.reply id text).dispatches)
    unfold reply
    split
    · rename_i peer reached
      obtain ⟨d, found, stage⟩ := Option.map_eq_some_iff.mp reached
      exact numbered.perm_awaiting_advance found (by rw [stage]; rfl)
    · rfl
  | _ =>
    refine .of_eq ?_
    rw [show (s.apply _).dispatches = s.dispatches from congrArg Prod.fst (commands_apply rfl)]
    rfl

/-- **What was carried out was acknowledged, was lost, or is on its way.** -/
theorem Numbered.perm_run (numbered : s.Numbered n) (moves : List Move) :
    (s.executions moves ++ awaiting s.dispatches).Perm
      (s.acknowledgements moves ++ (s.losses moves ++ awaiting (s.run moves).dispatches)) := by
  induction moves generalizing s with
  | nil => exact .refl _
  | cons move moves ih =>
    have first := numbered.perm_apply move
    have rest := ih (numbered.apply move)
    simp only [executions, acknowledgements, losses, along_cons, run_cons] at rest ⊢
    rw [List.perm_iff_count] at first rest ⊢
    intro entry
    have first := first entry
    have rest := rest entry
    simp only [List.count_append] at first rest ⊢
    omega

/-! ## Losses are told -/

theorem mem_answers_change {s s' : System} (change : Change s s') {answer : Answer}
    (told : answer ∈ s.answers) : answer ∈ s'.answers := by
  cases change with
  | started => exact told
  | quiet quiet =>
    cases quiet with
    | outside s' core children work restarts answers => exact answers ▸ told
    | dispatched | terminateEnded => exact List.mem_cons_of_mem _ told
    | launchEnded order stage result =>
      rw [answers_endLaunch]
      exact List.mem_cons_of_mem _ told
    | _ => exact told

/-- **What a caller was told stays told.** -/
theorem Sound.mem_answers_run (sound : s.Sound) {answer : Answer} (told : answer ∈ s.answers)
    (moves : List Move) : answer ∈ (s.run moves).answers := by
  have changes := sound.changes_run moves
  generalize s.run moves = t at changes
  induction changes with
  | refl => exact told
  | tail _ last ih => exact mem_answers_change last ih

/-- **Who loses a command is told.** -/
theorem Sound.exists_error_of_mem_losses (sound : s.Sound) (numbered : s.Numbered n)
    {moves : List Move} {entry : Nat × ControlCommand} (lost : entry ∈ s.losses moves) :
    n ≤ entry.1 ∧ ∃ e, .dispatched entry.1 (.error e) ∈ (s.run moves).answers := by
  induction moves generalizing s with
  | nil => cases lost
  | cons move moves ih =>
    have next := sound.changes (sound.changes_apply move)
    rw [losses, along_cons, List.mem_append] at lost
    rcases lost with now | later
    · obtain ⟨d, notes, rfl⟩ := List.mem_map.mp now
      rw [Option.mem_toList] at notes
      cases move with
      | fail id error =>
        rcases s.fail_cases id error with ⟨nothing, -⟩ | ⟨d', found, same, notes'⟩
        · cases nothing.symm.trans notes
        · obtain ⟨member, number⟩ := mem_dispatches_of_dispatch? found
          split at notes'
          · obtain rfl := Option.some.inj (notes'.symm.trans notes)
            refine ⟨numbered.since d' member, error, next.mem_answers_run ?_ moves⟩
            simp [System.apply, same, endDispatch, Dispatch.entry, number]
          · cases notes'.symm.trans notes
      | _ => cases notes
    · exact ih next (numbered.apply move) later

/-! ## Every command has an end -/

/-- **A command has not ended**: it is on its way, or it is still to be sent. -/
def Awaited (s : System) (id : Nat) : Prop :=
  s.dispatched ≤ id ∨ ∃ d ∈ s.dispatches, d.id = id

theorem Awaited.of_commands {s' : System} (awaited : s.Awaited id)
    (commands : s'.commands = s.commands) : s'.Awaited id := by
  unfold Awaited
  rw [show s'.dispatches = s.dispatches from congrArg Prod.fst commands,
    show s'.dispatched = s.dispatched from congrArg Prod.snd commands]
  exact awaited

theorem Awaited.advance (awaited : s.Awaited id) (other : Nat) (stage : DispatchStage) :
    (s.advance other stage).Awaited id := by
  refine awaited.imp_right fun ⟨d, member, same⟩ => ⟨_, List.mem_map_of_mem member, ?_⟩
  split <;> exact same

/-- A command that ends leaves the others. -/
theorem Awaited.endDispatch (awaited : s.Awaited id) {other : Nat} (different : id ≠ other)
    (result : Except ChannelError String) : (s.endDispatch other result).Awaited id := by
  refine awaited.imp_right fun ⟨d, member, same⟩ => ⟨d, List.mem_filter.mpr ⟨member, ?_⟩, same⟩
  simpa [same] using different

/-- A command that is checked is on its way, or its caller is told an error. -/
theorem awaited_beginDispatch (awaited : s.Awaited id) (expected : Option Nat)
    (command : ControlCommand) : (s.beginDispatch expected command).Awaited id ∨
      ∃ e, .dispatched id (.error e) ∈ (s.beginDispatch expected command).answers := by
  have before : s.status.2.dispatches = s.dispatches := congrArg Prod.fst commands_status
  -- The command that is checked takes the next number.
  have counted (different : id ≠ s.dispatched) :
      s.dispatched + 1 ≤ id ∨ ∃ d ∈ s.dispatches, d.id = id :=
    awaited.imp_left fun later => Nat.lt_of_le_of_ne later (Ne.symm different)
  have refused (e : ChannelError) :
      ({ s.status.2 with dispatched := s.dispatched + 1 }.endDispatch s.dispatched
          (.error e)).Awaited id ∨ ∃ e', .dispatched id (.error e')
        ∈ ({ s.status.2 with dispatched := s.dispatched + 1 }.endDispatch s.dispatched
            (.error e)).answers := by
    by_cases this : id = s.dispatched
    · exact .inr ⟨e, by simp [endDispatch, this]⟩
    · refine .inl (Awaited.endDispatch ?_ this _)
      simpa only [Awaited, before] using counted this
  unfold beginDispatch
  simp only [status_counted]
  split
  · exact refused _
  · exact refused _
  · refine .inl ?_
    by_cases this : id = s.dispatched
    · exact .inr ⟨_, List.mem_cons_self, this.symm⟩
    · rcases counted this with later | ⟨d, member, same⟩
      · exact .inl later
      · exact .inr ⟨d, List.mem_cons_of_mem _ (before ▸ member), same⟩

/-- **A command ends with its acknowledgement or with an error that is told.** -/
theorem Awaited.apply (awaited : s.Awaited id) (move : Move) :
    (s.apply move).Awaited id ∨ (∃ command, (id, command) ∈ noted acknowledged? s move) ∨
      ∃ e, .dispatched id (.error e) ∈ (s.apply move).answers := by
  cases move with
  | dispatch expected command =>
    exact (awaited_beginDispatch awaited expected command).imp_right .inr
  | connect other =>
    simp only [System.apply, connect]
    split
    · split
      · exact .inl (awaited.advance _ _)
      · exact .inl awaited
    · exact .inl awaited
  | execute other =>
    simp only [System.apply]
    rcases s.execute_cases other with ⟨-, same⟩ | ⟨d, peer, -, -, -, -, same⟩
    · rw [same]
      exact .inl awaited
    · rw [same]
      exact .inl (Awaited.advance (s := s.updateChild peer _) awaited _ _)
  | reply other text =>
    simp only [System.apply, reply]
    split
    · exact .inl (awaited.advance _ _)
    · exact .inl awaited
  | fail other error =>
    simp only [System.apply]
    rcases s.fail_cases other error with ⟨-, same⟩ | ⟨d, -, same, -⟩
    · rw [same]
      exact .inl awaited
    · rw [same]
      by_cases this : id = other
      · exact .inr (.inr ⟨error, by simp [System.endDispatch, this]⟩)
      · exact .inl (awaited.endDispatch this _)
  | acknowledge other =>
    simp only [System.apply]
    rcases s.acknowledge_cases other with ⟨-, same⟩ | ⟨d, text, notes, found, -, same⟩
    · rw [same]
      exact .inl awaited
    · rw [same]
      by_cases this : id = other
      · refine .inr (.inl ⟨d.command, ?_⟩)
        simp [noted, notes, Dispatch.entry, (mem_dispatches_of_dispatch? found).2, this]
      · exact .inl (Awaited.endDispatch (s := { s with core := _ }) awaited this (.ok text))
  | _ => exact .inl (awaited.of_commands (commands_apply rfl))

/-- **When nothing is on its way any more**, every command was acknowledged or told an error. -/
theorem Sound.acknowledged_or_told (sound : s.Sound) (awaited : s.Awaited id) {moves : List Move}
    (sent : id < (s.run moves).dispatched) (returned : (s.run moves).dispatches = []) :
    (∃ command, (id, command) ∈ s.acknowledgements moves) ∨
      ∃ e, .dispatched id (.error e) ∈ (s.run moves).answers := by
  induction moves generalizing s with
  | nil =>
    rcases awaited with later | ⟨d, member, -⟩
    · exact absurd sent (Nat.not_lt.mpr later)
    · rw [run_nil] at returned
      simp [returned] at member
  | cons move moves ih =>
    have next := sound.changes (sound.changes_apply move)
    rw [acknowledgements, along_cons]
    rcases awaited.apply move with further | ⟨command, now⟩ | ⟨e, told⟩
    · refine (ih next further sent returned).imp_left fun ⟨command, later⟩ => ?_
      exact ⟨command, List.mem_append_right _ later⟩
    · exact .inl ⟨command, List.mem_append_left _ now⟩
    · exact .inr ⟨e, next.mem_answers_run told moves⟩

/-! ## When all have returned -/

/-- **All have returned**: nothing was on its way before, and all commands since have returned, none
of them with an error. -/
structure AllReturn (s : System) (moves : List Move) : Prop where
  idle : s.dispatches = []
  returned : (s.run moves).dispatches = []
  succeeded : ∀ id e, .dispatched id (.error e) ∈ (s.run moves).answers → id < s.dispatched

/-- **When all have returned**, every command was acknowledged, and the same commands were carried
out as were acknowledged. -/
theorem AllReturn.balanced {moves : List Move} (returns : s.AllReturn moves) (sound : s.Sound) :
    (∀ id, s.dispatched ≤ id → id < (s.run moves).dispatched →
      ∃ command, (id, command) ∈ s.acknowledgements moves) ∧
    (s.executions moves).Perm (s.acknowledgements moves) := by
  refine ⟨fun id since sent => ?_, ?_⟩
  · rcases sound.acknowledged_or_told (.inl since) sent returns.returned with done | ⟨e, told⟩
    · exact done
    · exact absurd (returns.succeeded id e told) (Nat.not_lt.mpr since)
  · have numbered := numbered_of_idle returns.idle
    have none : s.losses moves = [] := by
      refine List.eq_nil_iff_forall_not_mem.mpr fun entry lost => ?_
      obtain ⟨since, e, told⟩ := sound.exists_error_of_mem_losses numbered lost
      exact Nat.not_lt.mpr since (returns.succeeded entry.1 e told)
    simpa [returns.idle, returns.returned, none, awaiting] using numbered.perm_run moves

end System

end GuestSupervisor.Supervisor
