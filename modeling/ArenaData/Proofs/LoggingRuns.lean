import ArenaData.Application
import ArenaData.Proofs.LogFile

/-!
# Setting up logging again and again

What logging is set up to is a function of the settings, of the working directory and of whether the
log file can be opened (`wanted`). Nothing else that the program does touches the handlers
(`handlers_apply`), so after any run of actions the handlers are those that the last call wanted,
and all others that have ever been attached are closed.

A call does write rows if the log file has a handler, and the rows may make room for others. As that
leaves the log file within reach, a second call right after the first wants the same handlers.
-/

namespace ArenaData

open Json (Value)

namespace Log

variable {s : Settings} {store : Store} {tree other : FileTree} {handlers : Handlers} {word : Text}

/-! ## Levels -/

/-- The words that name a constant of logging that is no level. -/
def noLevels : List Text := ["BASIC_FORMAT".toList, "_STYLES".toList]

/-- The level that a word names; a word that names none means `info`. -/
def levelMeant (word : Text) : Int := (levelWords.lookup word.upper).getD info

theorem levelOf_of_notMem (h : word.upper ∉ noLevels) : levelOf word = .ok (levelMeant word) := by
  obtain ⟨hformat, hstyles⟩ : word.upper ≠ "BASIC_FORMAT".toList ∧
      word.upper ≠ "_STYLES".toList := by
    simpa only [noLevels, List.mem_cons, List.not_mem_nil, or_false, not_or] using h
  rw [levelOf, levelMeant]
  simp only [if_neg hformat, if_neg hstyles]
  cases levelWords.lookup word.upper <;> rfl

theorem levelOf_of_mem (h : word.upper ∈ noLevels) : ∃ fault, levelOf word = .error fault := by
  have hunknown : ∀ capitals ∈ noLevels, levelWords.lookup capitals = none := by decide
  rw [levelOf]
  simp only [hunknown _ h]
  split
  · exact ⟨_, rfl⟩
  · rename_i hformat
    split
    · exact ⟨_, rfl⟩
    · rename_i hstyles
      rw [noLevels, List.mem_cons, List.mem_singleton] at h
      exact absurd h (not_or.mpr ⟨hformat, hstyles⟩)

/-! ## Detaching -/

/-- One handler is detached and closed. -/
def Handlers.detach (h : Handlers) (handler : Handler) : Handlers :=
  ⟨h.attached.erase handler, h.closed ++ [handler]⟩

/-- Detaching the handlers one by one, in the order of a copy of their list, leaves none of them. -/
theorem foldl_detach (h : Handlers) : h.attached.foldl Handlers.detach h = h.detachAll := by
  obtain ⟨attached, closed⟩ := h
  induction attached generalizing closed with
  | nil => simp [Handlers.detachAll]
  | cons handler rest ih =>
    rw [List.foldl_cons]
    have hdetach : Handlers.detach ⟨handler :: rest, closed⟩ handler =
        ⟨rest, closed ++ [handler]⟩ := by
      rw [Handlers.detach, List.erase_cons_head]
    rw [hdetach, ih]
    simp [Handlers.detachAll]

/-! ## What is wanted -/

/-- The handler of the console, if it is wanted. -/
def wantedConsole (s : Settings) (store : Store) : List Handler :=
  if s.consoleLogging store then
    [⟨.console, levelMeant (s.consoleLogLevel store),
      if s.consoleUseColors store then .colored else .plain, consolePattern⟩]
  else []

/-- The handler of the log file, if it is wanted and the file can be opened. -/
def wantedFile (s : Settings) (store : Store) (tree : FileTree) : List Handler :=
  if s.fileLogging store ∧ Opens tree then [fileHandler tree] else []

/-- The handlers that are wanted. -/
def wanted (s : Settings) (store : Store) (tree : FileTree) : List Handler :=
  wantedConsole s store ++ wantedFile s store tree

/-- The console is wanted at what can be no level. -/
def Refused (s : Settings) (store : Store) : Prop :=
  s.consoleLogging store ∧ (s.consoleLogLevel store).upper ∈ noLevels

/-- The files once logging has been set up. -/
def treeAfter (s : Settings) (store : Store) (tree : FileTree) : FileTree :=
  if s.fileLogging store then (openLogFile tree).2 else tree

theorem attachConsole_of_not_refused (h : ¬ Refused s store) (handlers : Handlers) :
    attachConsole s store handlers =
      .ok { handlers with attached := handlers.attached ++ wantedConsole s store } := by
  rw [attachConsole, wantedConsole]
  split
  · rename_i hconsole
    have hlevel : (s.consoleLogLevel store).upper ∉ noLevels := fun hmem => h ⟨hconsole, hmem⟩
    rw [consoleHandler, levelOf_of_notMem hlevel]
    rfl
  · rw [List.append_nil]

theorem attachConsole_of_refused (h : Refused s store) (handlers : Handlers) :
    ∃ fault, attachConsole s store handlers = .error fault := by
  obtain ⟨hconsole, hmem⟩ := h
  obtain ⟨fault, hfault⟩ := levelOf_of_mem hmem
  refine ⟨fault, ?_⟩
  rw [attachConsole, if_pos hconsole, consoleHandler, hfault]
  rfl

theorem fileHandler_congr (h : other.workPlace = tree.workPlace) :
    fileHandler other = fileHandler tree := by
  rw [fileHandler, fileHandler, Settings.absoluteLogFile, Settings.absoluteLogFile, h]

theorem attachFile_eq (s : Settings) (store : Store) (tree : FileTree) (handlers : Handlers) :
    attachFile s store tree handlers = (treeAfter s store tree,
      { handlers with attached := handlers.attached ++ wantedFile s store tree }) := by
  rw [attachFile, treeAfter, wantedFile]
  by_cases hfile : s.fileLogging store
  · have hiff : (openLogFile tree).1 = true ↔ Opens tree := openLogFile_iff
    have hhandler := fileHandler_congr (workPlace_openLogFile tree)
    simp only [hfile, if_true, true_and]
    split
    · rename_i opened hopen
      rw [hopen] at hiff hhandler ⊢
      rw [if_pos (hiff.mp rfl), ← hhandler]
      rfl
    · rename_i failed hopen
      rw [hopen] at hiff ⊢
      rw [if_neg (fun h => Bool.false_ne_true (hiff.mpr h)), List.append_nil]
  · simp [hfile]

/-- Setting up logging leaves the handlers that are wanted, and closes all that were there. -/
theorem setUp_of_not_refused (h : ¬ Refused s store) (tree : FileTree) (handlers : Handlers) :
    setUp s store tree handlers = ⟨none, treeAfter s store tree,
      ⟨wanted s store tree, handlers.closed ++ handlers.attached⟩⟩ := by
  rw [setUp, attachConsole_of_not_refused h]
  simp only [attachFile_eq]
  rfl

/-- If it is refused none is left, and the files are as they were. -/
theorem setUp_of_refused (h : Refused s store) (tree : FileTree) (handlers : Handlers) :
    ∃ fault, setUp s store tree handlers = ⟨some fault, tree, handlers.detachAll⟩ := by
  obtain ⟨fault, hfault⟩ := attachConsole_of_refused h handlers.detachAll
  refine ⟨fault, ?_⟩
  rw [setUp, hfault]

theorem treeAfter_cases (s : Settings) (store : Store) (tree : FileTree) :
    (treeAfter s store tree).workPlace = tree.workPlace ∧
      (s.fileLogging store → (Opens (treeAfter s store tree) ↔ Opens tree)) := by
  rw [treeAfter]
  split
  · exact ⟨workPlace_openLogFile tree, fun _ => opens_openLogFile⟩
  · rename_i hfile
    exact ⟨rfl, fun h => absurd h hfile⟩

/-- If the log file gets no handler, the files are found as they are to be. -/
theorem treeAfter_again (h : wantedFile s store tree = []) :
    treeAfter s store (treeAfter s store tree) = treeAfter s store tree := by
  by_cases hfile : s.fileLogging store
  · have hnot : ¬ Opens tree := fun hopens => by
      rw [wantedFile, if_pos ⟨hfile, hopens⟩] at h
      cases h
    simp only [treeAfter, if_pos hfile, openLogFile_again hnot]
  · simp only [treeAfter, if_neg hfile]

/-- What is wanted stays wanted when the files have been changed by no more than rows. -/
theorem wantedFile_of_keeps (hkeeps : Keeps (treeAfter s store tree) other)
    (hfile : wantedFile s store tree = [] → other = treeAfter s store tree) :
    wantedFile s store other = wantedFile s store tree := by
  obtain ⟨hwork, hopens⟩ := treeAfter_cases s store tree
  have hiff : s.fileLogging store ∧ Opens other ↔ s.fileLogging store ∧ Opens tree := by
    by_cases h : s.fileLogging store ∧ Opens tree
    · exact ⟨fun _ => h, fun _ => ⟨h.1, hkeeps.opens ((hopens h.1).mpr h.2)⟩⟩
    · have hother := hfile (if_neg h)
      exact ⟨fun h' => ⟨h'.1, (hopens h'.1).mp (hother ▸ h'.2)⟩, fun h' => absurd h' h⟩
  have hhandler : fileHandler other = fileHandler tree :=
    fileHandler_congr (hkeeps.workPlace.trans hwork)
  simp only [wantedFile, hiff, hhandler]

/-- The log file has a handler iff one is wanted for it. -/
theorem writeFile_wanted (closed : List Handler) :
    Handlers.writeFile ⟨wanted s store tree, closed⟩ = !(wantedFile s store tree).isEmpty := by
  have hconsole : (wantedConsole s store).any Handler.writesFile = false := by
    rw [wantedConsole]
    split <;> rfl
  rw [Handlers.writeFile, wanted, List.any_append, hconsole, Bool.false_or, wantedFile]
  split <;> rfl

end Log

namespace Application

open Log (Handler Handlers wanted wantedFile treeAfter Keeps Refused)

/-! ## What is said -/

/-- Rows change only the files and the stream of the log file, and nothing at all as long as that is
not attached. -/
theorem changeJournal_append (app : Application) (r : Log.Record) : ∃ tree stream,
    app.changeJournal (·.append r) = { app with tree := tree, logStream := stream } ∧
      Keeps app.tree tree ∧ (app.logStream = none → tree = app.tree ∧ stream = none) := by
  rw [changeJournal]
  split
  · rename_i hnone
    exact ⟨app.tree, app.logStream, rfl, Keeps.refl _, fun h => ⟨rfl, h⟩⟩
  · rename_i stream hstream
    refine ⟨_, _, rfl, Log.Journal.keeps_append ⟨app.tree, stream⟩ r, fun h => ?_⟩
    rw [hstream] at h
    cases h

theorem noteAll_cases (app : Application) (notices : List Log.Notice) : ∃ tree stream,
    app.noteAll notices = { app with tree := tree, logStream := stream } ∧
      Keeps app.tree tree ∧ (app.logStream = none → tree = app.tree ∧ stream = none) := by
  induction notices generalizing app with
  | nil => exact ⟨app.tree, app.logStream, rfl, Keeps.refl _, fun h => ⟨rfl, h⟩⟩
  | cons notice notices ih =>
    obtain ⟨tree, stream, hnote, hkeeps, hnone⟩ :=
      changeJournal_append app (notice.record app.time app.elapsed)
    obtain ⟨tree', stream', hrest, hkeeps', hnone'⟩ := ih (app.note notice)
    rw [noteAll, List.foldl_cons]
    rw [noteAll] at hrest
    rw [hrest]
    rw [note, hnote] at hkeeps' hnone' ⊢
    refine ⟨tree', stream', rfl, hkeeps.trans hkeeps', fun h => ?_⟩
    obtain ⟨rfl, rfl⟩ := hnone h
    exact hnone' rfl

theorem handlers_noteAll (app : Application) (notices : List Log.Notice) :
    (app.noteAll notices).handlers = app.handlers := by
  obtain ⟨tree, stream, heq, -⟩ := noteAll_cases app notices
  rw [heq]

/-! ## Setting up -/

variable {app : Application} {s : Settings}

/-- A call that is not refused returns the handlers that are wanted and leaves just them. Besides
the handlers it changes the files, and the stream of the log file. -/
theorem setUpLogging_of_not_refused (app : Application) (h : ¬ Refused s (app.storeOf s)) :
    ∃ tree stream, app.setUpLogging s = (.ok (wanted s (app.storeOf s) app.tree),
      { app with
        tree := tree
        handlers := ⟨wanted s (app.storeOf s) app.tree,
          app.handlers.closed ++ app.handlers.attached⟩
        logStream := stream }) ∧
      Keeps (treeAfter s (app.storeOf s) app.tree) tree ∧
      (wantedFile s (app.storeOf s) app.tree = [] →
        tree = treeAfter s (app.storeOf s) app.tree ∧ stream = none) := by
  let handlers : Handlers :=
    ⟨wanted s (app.storeOf s) app.tree, app.handlers.closed ++ app.handlers.attached⟩
  -- the program before it says anything
  let ready : Application := { app with
    tree := treeAfter s (app.storeOf s) app.tree
    handlers := handlers
    logStream := if handlers.writeFile then some .placed else none }
  have hsetUp : app.setUpLogging s =
      (.ok handlers.attached, ready.noteAll (ready.setupNotices s)) := by
    rw [setUpLogging, Log.setUp_of_not_refused h]
  obtain ⟨tree, stream, hnoted, hkeeps, hnone⟩ := noteAll_cases ready (ready.setupNotices s)
  refine ⟨tree, stream, ?_, hkeeps, fun hfile => hnone ?_⟩
  · rw [hsetUp, hnoted]
  · have hwrite : handlers.writeFile = false := by rw [Log.writeFile_wanted, hfile]; rfl
    exact if_neg (by rw [hwrite]; exact Bool.false_ne_true)

/-- A call that is refused leaves no handlers. -/
theorem setUpLogging_of_refused (h : Refused s (app.storeOf s)) :
    ∃ fault, app.setUpLogging s = (.error fault,
      { app with handlers := app.handlers.detachAll, logStream := none }) := by
  obtain ⟨fault, hfault⟩ := Log.setUp_of_refused h app.tree app.handlers
  refine ⟨fault, ?_⟩
  rw [setUpLogging, hfault]
  rfl

/-- A call returns unless the console is wanted at what can be no level. -/
theorem exists_setUpLogging_iff :
    (∃ handlers, (app.setUpLogging s).1 = .ok handlers) ↔ ¬ Refused s (app.storeOf s) := by
  constructor
  · rintro ⟨handlers, hok⟩ h
    obtain ⟨fault, heq⟩ := setUpLogging_of_refused h
    rw [heq] at hok
    cases hok
  · intro h
    obtain ⟨tree, stream, heq, -⟩ := setUpLogging_of_not_refused app h
    exact ⟨_, by rw [heq]⟩

/-- Whether it returns or not, all handlers that were attached are closed after it. -/
theorem closed_setUpLogging (app : Application) (s : Settings) :
    (app.setUpLogging s).2.handlers.closed = app.handlers.closed ++ app.handlers.attached := by
  by_cases h : Refused s (app.storeOf s)
  · obtain ⟨fault, heq⟩ := setUpLogging_of_refused h
    rw [heq]
    rfl
  · obtain ⟨tree, stream, heq, -⟩ := setUpLogging_of_not_refused app h
    rw [heq]

/-- A second call gives the same handlers as the first. If none of them is for the log file, it
changes nothing but that those of the first are closed. -/
theorem setUpLogging_again (h : ¬ Refused s (app.storeOf s)) : ∃ tree stream,
    (app.setUpLogging s).2.setUpLogging s = (.ok (wanted s (app.storeOf s) app.tree),
      { (app.setUpLogging s).2 with
        tree := tree
        handlers := ⟨wanted s (app.storeOf s) app.tree,
          (app.setUpLogging s).2.handlers.closed ++ wanted s (app.storeOf s) app.tree⟩
        logStream := stream }) ∧
      (wantedFile s (app.storeOf s) app.tree = [] →
        tree = (app.setUpLogging s).2.tree ∧ stream = (app.setUpLogging s).2.logStream) := by
  obtain ⟨tree, stream, heq, hkeeps, hnone⟩ := setUpLogging_of_not_refused app h
  rw [heq]
  -- the settings are the same, and what is wanted for the files as they have become is too
  have hfile : wantedFile s (app.storeOf s) tree = wantedFile s (app.storeOf s) app.tree :=
    Log.wantedFile_of_keeps hkeeps fun h => (hnone h).1
  have hwanted : wanted s (app.storeOf s) tree = wanted s (app.storeOf s) app.tree :=
    congrArg (Log.wantedConsole s (app.storeOf s) ++ ·) hfile
  set called : Application := { app with tree := tree, handlers := _, logStream := stream }
  obtain ⟨tree', stream', heq', -, hnone'⟩ :=
    setUpLogging_of_not_refused called h
  change called.setUpLogging s = (.ok (wanted s (app.storeOf s) tree), { called with
    tree := tree'
    handlers := ⟨wanted s (app.storeOf s) tree, _⟩
    logStream := stream' }) at heq'
  rw [hwanted] at heq'
  refine ⟨tree', stream', heq', fun hnoFile => ?_⟩
  obtain ⟨rfl, rfl⟩ := hnone hnoFile
  obtain ⟨htree', hstream'⟩ := hnone' (hfile.trans hnoFile)
  exact ⟨htree'.trans (Log.treeAfter_again hnoFile), hstream'⟩

/-! ## Runs -/

/-- What can happen to the program. -/
inductive Action where
  /-- Settings are made under a name. -/
  | make (id : Text) (s : Settings)
  /-- A value is given to a name of the settings that have been made under `id`. -/
  | set (id name : Text) (value : Value)
  /-- The store of some settings gets another content. -/
  | putStore (s : Settings) (store : Store)
  /-- The files are changed from outside. -/
  | changeFiles (change : FileTree → Except Fault Unit × FileTree)
  /-- Settings are validated. -/
  | validate (s : Settings)
  /-- A table is loaded on its own. -/
  | load (s : Settings)
  /-- The shared table is loaded. -/
  | init (s : Settings)
  /-- It gets later. -/
  | wait (time elapsed : Number)
  /-- Logging is set up. -/
  | setUpLogging (s : Settings)

/-- It is a call that sets up logging. -/
def Action.SetsUp (action : Action) : Prop := ∃ s, action = .setUpLogging s

/-- The program after an action, whatever its outcome. -/
def apply (app : Application) : Action → Application
  | .make id s => app.make id s
  | .set id name value =>
    match app.session? id with
    | some session => (app.set id session name value).2
    | none => app
  | .putStore s store => app.putStore s store
  | .changeFiles change => (app.changeFiles change).2
  | .validate s => (app.validate s).2
  | .load s => (app.load s).2
  | .init s => (app.init s).2
  | .wait time elapsed => { app with time, elapsed }
  | .setUpLogging s => (app.setUpLogging s).2

/-- The program after a run of actions. -/
def run (app : Application) (actions : List Action) : Application := actions.foldl apply app

theorem handlers_changeJournal (app : Application) (change : Log.Journal → Log.Journal) :
    (app.changeJournal change).handlers = app.handlers := by
  rw [changeJournal]
  split <;> rfl

theorem handlers_set (app : Application) (id : Text) (session : Session) (name : Text)
    (value : Value) : (app.set id session name value).2.handlers = app.handlers := by
  rw [Application.set]
  split
  · split
    · rfl
    · split
      · simp only
        split
        · rfl
        · exact handlers_changeJournal _ _
      · rfl
  · split <;> rfl

theorem handlers_load (app : Application) (s : Settings) :
    (app.load s).2.handlers = app.handlers :=
  (handlers_noteAll _ _).trans (handlers_noteAll app _)

/-- An action that does not set up logging leaves the handlers as they are. -/
theorem handlers_apply (app : Application) {action : Action} (h : ¬ action.SetsUp) :
    (app.apply action).handlers = app.handlers := by
  cases action with
  | make id s => exact handlers_changeJournal _ _
  | set id name value =>
    rw [apply]
    split
    · exact handlers_set _ _ _ _ _
    · rfl
  | putStore s store => rfl
  | changeFiles change => exact handlers_changeJournal _ _
  | validate s =>
    rw [apply, validate]
    split
    · rfl
    · exact handlers_noteAll _ _
  | load s => exact handlers_load app s
  | init s =>
    have hload := handlers_load app s
    rw [apply, init]
    split
    · rfl
    · split
      all_goals
        rename_i heq
        rw [heq] at hload
        exact hload
  | wait time elapsed => rfl
  | setUpLogging s => exact absurd ⟨s, rfl⟩ h

theorem run_append (app : Application) (front back : List Action) :
    app.run (front ++ back) = (app.run front).run back := List.foldl_append

theorem run_cons (app : Application) (action : Action) (actions : List Action) :
    app.run (action :: actions) = (app.apply action).run actions := rfl

theorem handlers_run (app : Application) {actions : List Action}
    (h : ∀ action ∈ actions, ¬ action.SetsUp) : (app.run actions).handlers = app.handlers := by
  induction actions generalizing app with
  | nil => rfl
  | cons action actions ih =>
    obtain ⟨haction, hactions⟩ := List.forall_mem_cons.mp h
    rw [run_cons, ih _ hactions, handlers_apply app haction]

/-- No handler gets lost: one that is attached stays so until it is closed. -/
theorem prefix_handlers_run (app : Application) (actions : List Action) :
    app.handlers.closed ++ app.handlers.attached <+:
      (app.run actions).handlers.closed ++ (app.run actions).handlers.attached := by
  induction actions generalizing app with
  | nil => exact List.prefix_rfl
  | cons action actions ih =>
    have hrest := ih (app.apply action)
    by_cases h : action.SetsUp
    · obtain ⟨s, rfl⟩ := h
      refine List.IsPrefix.trans ?_ hrest
      rw [apply, closed_setUpLogging]
      exact List.prefix_append _ _
    · rwa [handlers_apply app h] at hrest

/-! ## Any sequence -/

/-- Setting up logging forgets the past. After any run of actions, from any handlers, a call returns
unless the console is wanted at what can be no level. Either way every handler that has been
attached at some time before is detached and closed. If the call returns, the handlers that are
wanted by the settings and the files as they are then are attached and no others, until the next
call; and calling again at once gives equal ones and changes nothing else but that rows are written,
which happens only if the log file has a handler. -/
theorem handlers_run_setUpLogging (start : Application) (front back : List Action) (s : Settings)
    (hback : ∀ action ∈ back, ¬ action.SetsUp) :
    let before := start.run front
    let call := before.setUpLogging s
    let after := start.run (front ++ .setUpLogging s :: back)
    let detached := before.handlers.attached.foldl Handlers.detach before.handlers
    ((∃ handlers, call.1 = .ok handlers) ↔ ¬ Refused s (before.storeOf s)) ∧
    detached.attached = [] ∧ after.handlers.closed = detached.closed ∧
    (∀ earlier, earlier <+: front →
      (start.run earlier).handlers.attached ⊆ after.handlers.closed) ∧
    ∀ handlers, call.1 = .ok handlers →
      handlers = wanted s (before.storeOf s) before.tree ∧
      after.handlers.attached = handlers ∧
      ∃ tree stream, call.2.setUpLogging s = (.ok handlers, { call.2 with
          tree := tree
          handlers := ⟨handlers, call.2.handlers.closed ++ handlers⟩
          logStream := stream }) ∧
        (wantedFile s (before.storeOf s) before.tree = [] →
          tree = call.2.tree ∧ stream = call.2.logStream) := by
  intro before call after detached
  have hafter : after.handlers = call.2.handlers := by
    have hrun : after = call.2.run back := by
      show start.run (front ++ .setUpLogging s :: back) = _
      rw [run_append, run_cons]
      rfl
    rw [hrun, handlers_run call.2 hback]
  have hclosed : after.handlers.closed = before.handlers.closed ++ before.handlers.attached := by
    rw [hafter, closed_setUpLogging]
  have hdetached : detached = before.handlers.detachAll := Log.foldl_detach before.handlers
  refine ⟨exists_setUpLogging_iff, by rw [hdetached]; rfl, by rw [hdetached, hclosed]; rfl, ?_, ?_⟩
  · rintro earlier ⟨rest, rfl⟩ handler hhandler
    have hprefix := prefix_handlers_run (start.run earlier) rest
    rw [← run_append] at hprefix
    rw [hclosed]
    exact hprefix.subset (List.mem_append_right _ hhandler)
  · intro handlers hok
    have hreturns : ¬ Refused s (before.storeOf s) := exists_setUpLogging_iff.mp ⟨handlers, hok⟩
    obtain ⟨tree, stream, hcall, -⟩ := setUpLogging_of_not_refused before hreturns
    have hwanted : handlers = wanted s (before.storeOf s) before.tree := by
      rw [show call = _ from hcall] at hok
      exact (Except.ok.inj hok).symm
    rw [hafter, hwanted]
    refine ⟨rfl, ?_, setUpLogging_again hreturns⟩
    rw [show call = _ from hcall]

/-- The settings of a profile. -/
def oneProfile : Settings := ⟨"one".toList, none⟩

/-- Handlers that do not come from setting up logging. -/
def foreign : List Handler := [⟨.console, Log.warning, .plain, []⟩,
  ⟨.file ⟨.root, ["old.log".toList]⟩ 0 0, Log.debug, .plain, []⟩]

/-- A tree with nothing but the working directory. -/
def home : FileTree := .empty ["home".toList]

/-- The program with these handlers attached. -/
def fromForeign : Application :=
  { start home (.whole 0) (.whole 0) 0 with handlers := ⟨foreign, []⟩ }

/-- Logging is set up for the console in color, and the settings are changed to a console without
color and the log file. -/
def towardsFile : List Action := [.make "a".toList oneProfile, .setUpLogging oneProfile,
  .set "a".toList "console_log_level".toList (.text "debug".toList),
  .set "a".toList "console_use_colors".toList (.bool false),
  .set "a".toList "file_logging".toList (.bool true)]

/-- The handlers that were there first and the one of the first call are closed, and the change of
the settings after the last call has no effect. -/
theorem handlers_run_setUpLogging_of_foreign :
    let back : List Action := [.set "a".toList "console_logging".toList (.bool false)]
    let first : Handler := ⟨.console, Log.info, .colored, Log.consolePattern⟩
    let second : Handler := ⟨.console, Log.debug, .plain, Log.consolePattern⟩
    (∀ action ∈ back, ¬ action.SetsUp) ∧
    ((fromForeign.run towardsFile).setUpLogging oneProfile).1 =
      .ok [second, Log.fileHandler home] ∧
    (fromForeign.run (towardsFile ++ .setUpLogging oneProfile :: back)).handlers =
      ⟨[second, Log.fileHandler home], foreign ++ [first]⟩ := by
  intro back first second
  have hback : ∀ action ∈ back, ¬ action.SetsUp := by
    intro action haction
    rw [List.mem_singleton.mp haction]
    exact nofun
  have hbefore : (fromForeign.run towardsFile).handlers =
      ⟨[⟨.console, Log.info, .colored, Log.consolePattern⟩], foreign⟩ := by rfl
  have htree : (fromForeign.run towardsFile).tree = home := by rfl
  have hconsole : oneProfile.consoleLogging
      ((fromForeign.run towardsFile).storeOf oneProfile) = true := by rfl
  have hlevel : oneProfile.consoleLogLevel
      ((fromForeign.run towardsFile).storeOf oneProfile) = "DEBUG".toList := by rfl
  have hcolors : oneProfile.consoleUseColors
      ((fromForeign.run towardsFile).storeOf oneProfile) = false := by rfl
  have hfile : oneProfile.fileLogging
      ((fromForeign.run towardsFile).storeOf oneProfile) = true := by rfl
  have hopens : Log.Opens home := Log.opens_empty rfl
  obtain ⟨hreturns, -, hclosed, -, hcall⟩ :=
    handlers_run_setUpLogging fromForeign towardsFile back oneProfile hback
  have hlevels : Text.upper "DEBUG".toList ∉ Log.noLevels := by decide
  obtain ⟨handlers, hok⟩ := hreturns.mpr fun hrefused => hlevels (hlevel ▸ hrefused.2)
  obtain ⟨hwanted, hattached, -⟩ := hcall handlers hok
  have hhandlers : handlers = [second, Log.fileHandler home] := by
    rw [hwanted, htree, wanted, wantedFile, if_pos ⟨hfile, hopens⟩, Log.wantedConsole, hconsole,
      hlevel, hcolors]
    rfl
  rw [hbefore] at hclosed
  exact ⟨hback, hok.trans (congrArg Except.ok hhandlers),
    congrArg₂ Handlers.mk (hattached.trans hhandlers) hclosed⟩

end Application

end ArenaData
