import ArenaData.Proofs.DecodedTable

/-!
# The lifecycle of loaders

A loader is used from two sides. From outside it is asked to load, for its table and for its phase,
and it is given other archives; `run` takes a loader through any sequence of such actions. From
inside it is called by the archive that it is reading from; `loadServing` is a load that puts these
calls to the loader itself, in the phase it is in by then, and keeps a record of them.

Two facts carry the theorem. No action leaves a loader loading or tells its phase apart from its
table (`AtRest`), so every run can be judged by its end. And to the calls from inside a loading
loader is a constant: it refuses each and is the same afterwards.
-/

namespace ArenaData.Loader

variable {σ : Type} {read : Reader σ} {l : Loader σ} {table : AssetTable}

/-! ## Calls from inside -/

/-- What a call comes to, and the loader afterwards. -/
def call (read : Reader σ) (l : Loader σ) : LoaderCall → Except Fault Unit × Loader σ
  | .load => ((load read l).1.map fun _ => (), (load read l).2)
  | .table => (l.table.map fun _ => (), l)

/-- A call that an archive has made. -/
structure Reentry (σ : Type) where
  /-- What was asked for. -/
  request : LoaderCall
  /-- The loader as it was called. -/
  before : Loader σ
  /-- What the archive was told. -/
  outcome : Except Fault Unit
  /-- The loader after the call. -/
  after : Loader σ

/-- The call came during a load, failed because of that, and changed nothing. -/
def Reentry.Refused (e : Reentry σ) : Prop :=
  e.before.phase = .loading ∧ Fails .tableState e.outcome ∧ e.after = e.before

/-- A loader and the calls it has had from its archive. -/
structure Session (σ : Type) where
  /-- The loader as it is now. -/
  loader : Loader σ
  /-- The calls in their order. -/
  calls : List (Reentry σ)

/-- The end of a reply whose calls are made to the loader. -/
def serve (read : Reader σ) : Reply σ → Session σ → Except Fault Bytes × Session σ
  | .answer data archive, w => (data, { w with loader := { w.loader with archive := archive } })
  | .call request resume, w =>
    let (outcome, after) := w.loader.call read request
    serve read (resume outcome) ⟨after, w.calls ++ [⟨request, w.loader, outcome, after⟩]⟩

/-- What a loading loader makes of the files if its archive calls the loader itself. -/
def attemptServing (read : Reader σ) (l : Loader σ) : Except Fault AssetTable × Session σ :=
  let fetch (file : GameFile) : Decoding (Session σ) Bytes := fun w =>
    serve read (read w.loader.archive file.matching file.name) w
  (build fetch l.sideData).run ⟨{ l with phase := .loading }, []⟩

/-- A load whose archive calls the loader itself. -/
def loadServing (read : Reader σ) (l : Loader σ) : Except Fault AssetTable × Session σ :=
  match l.settled? with
  | some outcome => (outcome, ⟨l, []⟩)
  | none =>
    let (outcome, w) := attemptServing read l
    (outcome, { w with loader := w.loader.closed outcome })

theorem call_of_loading (h : l.phase = .loading) (request : LoaderCall) :
    l.call read request = (.error (refusal request), l) := by
  obtain ⟨archive, sideData, phase, stored⟩ := l
  obtain rfl : phase = .loading := h
  cases request with
  | load => rfl
  | table => rfl

theorem closed_of_phase (l : Loader σ) (phase : Phase) (outcome : Except Fault AssetTable) :
    { l with phase := phase }.closed outcome = l.closed outcome := by
  cases outcome with
  | ok table => rfl
  | error fault => rfl

/-- The loader of the session is `l` during a load, the archive has come to the given state, and all
calls so far were refused. -/
def Session.Busy (l : Loader σ) (archive : σ) (w : Session σ) : Prop :=
  w.loader = { l with archive := archive, phase := .loading } ∧ ∀ e ∈ w.calls, e.Refused

theorem Session.Busy.after_call {archive : σ} {w : Session σ} (hw : w.Busy l archive)
    (request : LoaderCall) :
    Session.Busy l archive
      ⟨w.loader, w.calls ++ [⟨request, w.loader, .error (refusal request), w.loader⟩]⟩ := by
  refine ⟨hw.1, fun e he => ?_⟩
  rcases List.mem_append.mp he with he | he
  · exact hw.2 e he
  · obtain rfl := List.mem_singleton.mp he
    refine ⟨?_, fails_error.mpr (kind_refusal request), rfl⟩
    show w.loader.phase = .loading
    rw [hw.1]

theorem serve_of_busy (read : Reader σ) (reply : Reply σ) {archive : σ} {w : Session σ}
    (hw : w.Busy l archive) :
    AgreeUpTo Eq (conclude (fun request => .error (refusal request)) reply).1
        (serve read reply w).1 ∧
      (serve read reply w).2.Busy l
        (conclude (fun request => .error (refusal request)) reply).2 := by
  induction reply generalizing w with
  | answer data state =>
    refine ⟨agreeUpTo_eq_iff.mpr rfl, ?_, hw.2⟩
    simp only [serve, conclude, hw.1]
  | call request resume ih =>
    have hphase : w.loader.phase = .loading := by rw [hw.1]
    -- The loader is the same after the call, so the rest of the reply is served by it as well.
    rw [serve, conclude, call_of_loading hphase]
    exact ih _ (hw.after_call request)

theorem attemptServing_spec (read : Reader σ) (l : Loader σ) :
    (attemptServing read l).1 = (attempt read l).1 ∧
      (attemptServing read l).2.Busy l (attempt read l).2 := by
  have hstart : Session.Busy l l.archive ⟨{ l with phase := .loading }, []⟩ :=
    ⟨rfl, fun e he => absurd he List.not_mem_nil⟩
  have hread (file : GameFile) : Alike (fun archive w => Session.Busy l archive w) Eq
      (fun archive => answer read archive file)
      (fun w => serve read (read w.loader.archive file.matching file.name) w) := by
    intro archive w hw
    have harchive : w.loader.archive = archive := by rw [hw.1]
    have hserve := serve_of_busy read (read archive file.matching file.name) hw
    rw [← harchive] at hserve ⊢
    exact hserve
  have hbuild := build_alike hread (decodersFailOnly_of_refl Eq (fun _ => rfl) l.sideData)
  obtain ⟨hagree, hbusy⟩ := hbuild l.archive _ hstart
  exact ⟨(agreeUpTo_eq_iff.mp hagree).symm, hbusy⟩

/-- Putting the calls of the archive to the loader makes no difference to a load, because every one
of them is refused. -/
theorem loadServing_spec (read : Reader σ) (l : Loader σ) :
    (loadServing read l).1 = (load read l).1 ∧
      (loadServing read l).2.loader = (load read l).2 ∧
      ∀ e ∈ (loadServing read l).2.calls, e.Refused := by
  cases hl : l.settled? with
  | some outcome =>
    rw [loadServing, load, hl]
    exact ⟨rfl, rfl, fun e he => absurd he List.not_mem_nil⟩
  | none =>
    obtain ⟨houtcome, hloader, hrefused⟩ := attemptServing_spec read l
    rw [load_of_unsettled hl, loadServing, hl]
    refine ⟨houtcome, ?_, hrefused⟩
    show (attemptServing read l).2.loader.closed (attemptServing read l).1 = _
    rw [hloader, houtcome]
    exact closed_of_phase { l with archive := (attempt read l).2 } .loading _

/-! ## Actions from outside -/

/-- What is done with a loader. -/
inductive Action (σ : Type) where
  /-- It is asked to load. -/
  | load
  /-- It is asked for its table. -/
  | table
  /-- It is asked for its phase. -/
  | phase
  /-- It is given another archive. -/
  | replace (archive : σ)

/-- What comes of an action. -/
inductive Shown where
  /-- A table, or a fault. -/
  | outcome (result : Except Fault AssetTable)
  /-- A phase. -/
  | phase (now : Phase)
  /-- Nothing. -/
  | silence

/-- What is shown fits a loader that has this table for good. -/
def Shown.Fits (table : AssetTable) : Shown → Prop
  | .outcome result => result = .ok table
  | .phase now => now = .ready
  | .silence => True

/-- One action: what comes of it, and the loader afterwards. -/
def step (read : Reader σ) (l : Loader σ) : Action σ → Shown × Loader σ
  | .load => (.outcome (load read l).1, (load read l).2)
  | .table => (.outcome l.table, l)
  | .phase => (.phase l.phase, l)
  | .replace archive => (.silence, { l with archive := archive })

/-- Actions one after the other. -/
def run (read : Reader σ) : List (Action σ) → Loader σ → List Shown × Loader σ
  | [], l => ([], l)
  | action :: rest, l =>
    let (shown, l) := step read l action
    let (others, l) := run read rest l
    (shown :: others, l)

/-- The loader is not loading, and it is ready iff it has a table. -/
def AtRest (l : Loader σ) : Prop := l.phase ≠ .loading ∧ (l.phase = .ready ↔ l.stored.isSome)

/-- The loader has the table for good. -/
def Keeps (l : Loader σ) (table : AssetTable) : Prop := l.phase = .ready ∧ l.stored = some table

theorem atRest_new (archive : σ) (sideData : SideData) : AtRest (new archive sideData) := by
  refine ⟨?_, ?_⟩
  · simp [new]
  · simp [new]

theorem Keeps.atRest (h : l.Keeps table) : l.AtRest := by
  refine ⟨?_, ?_⟩
  · simp [h.1]
  · simp [h.1, h.2]

/-- A loader at rest has nothing, or a table for good. -/
theorem AtRest.cases (h : l.AtRest) :
    (l.phase = .uninitialized ∧ l.stored = none) ∨ ∃ table, l.Keeps table := by
  obtain ⟨hphase, hready⟩ := h
  cases hstored : l.stored with
  | none =>
    left
    refine ⟨?_, rfl⟩
    cases hl : l.phase with
    | uninitialized => rfl
    | loading => exact absurd hl hphase
    | ready => exact absurd (hready.mp hl) (by simp [hstored])
  | some table =>
    exact Or.inr ⟨table, hready.mpr (by simp [hstored]), hstored⟩

theorem settled_of_uninitialized (h : l.phase = .uninitialized) : l.settled? = none := by
  rw [settled?, h]

theorem Keeps.load_eq (h : l.Keeps table) : load read l = (.ok table, l) := by
  rw [load, settled?, h.1, h.2]

theorem Keeps.table_eq (h : l.Keeps table) : l.table = .ok table := by
  rw [Loader.table, h.1, h.2]

/-- A load ends with a table, which is kept from then on, or with a fault and without any table. -/
theorem AtRest.load_cases (h : l.AtRest) (read : Reader σ) :
    (∃ table, (load read l).1 = .ok table ∧ (load read l).2.Keeps table) ∨
      ∃ fault, (load read l).1 = .error fault ∧ (load read l).2.phase = .uninitialized ∧
        (load read l).2.stored = none := by
  rcases h.cases with ⟨hphase, hstored⟩ | ⟨table, hkeeps⟩
  · rw [load_of_unsettled (settled_of_uninitialized hphase)]
    cases (attempt read l).1 with
    | ok table => exact Or.inl ⟨table, rfl, rfl, rfl⟩
    | error fault => exact Or.inr ⟨fault, rfl, rfl, hstored⟩
  · rw [hkeeps.load_eq]
    exact Or.inl ⟨table, rfl, hkeeps⟩

theorem AtRest.load (h : l.AtRest) : AtRest (Loader.load read l).2 := by
  rcases h.load_cases read with ⟨table, -, hkeeps⟩ | ⟨fault, -, hphase, hstored⟩
  · exact hkeeps.atRest
  · simp [AtRest, hphase, hstored]

theorem sideData_load (read : Reader σ) (l : Loader σ) : (load read l).2.sideData = l.sideData := by
  cases hl : l.settled? with
  | some outcome => rw [Loader.load, hl]
  | none =>
    rw [load_of_unsettled hl]
    cases (attempt read l).1 with
    | ok table => rfl
    | error fault => rfl

theorem AtRest.step (h : l.AtRest) (action : Action σ) : AtRest (Loader.step read l action).2 := by
  cases action with
  | load => exact h.load
  | table => exact h
  | phase => exact h
  | replace archive => exact h

theorem Keeps.step (h : l.Keeps table) (action : Action σ) :
    (Loader.step read l action).1.Fits table ∧ (Loader.step read l action).2.Keeps table := by
  cases action with
  | load =>
    rw [Loader.step, h.load_eq]
    exact ⟨rfl, h⟩
  | table => exact ⟨h.table_eq, h⟩
  | phase => exact ⟨h.1, h⟩
  | replace archive => exact ⟨trivial, h⟩

theorem sideData_step (l : Loader σ) (action : Action σ) :
    (step read l action).2.sideData = l.sideData := by
  cases action with
  | load => exact sideData_load read l
  | table => rfl
  | phase => rfl
  | replace archive => rfl

/-! ## Whole runs -/

theorem AtRest.run (h : l.AtRest) (actions : List (Action σ)) :
    AtRest (Loader.run read actions l).2 := by
  induction actions generalizing l with
  | nil => exact h
  | cons action rest ih => exact ih (h.step action)

theorem sideData_run (l : Loader σ) (actions : List (Action σ)) :
    (run read actions l).2.sideData = l.sideData := by
  induction actions generalizing l with
  | nil => rfl
  | cons action rest ih => exact (ih _).trans (sideData_step l action)

theorem Keeps.run (h : l.Keeps table) (actions : List (Action σ)) :
    ∀ shown ∈ (Loader.run read actions l).1, shown.Fits table := by
  induction actions generalizing l with
  | nil => exact fun shown hshown => absurd hshown List.not_mem_nil
  | cons action rest ih =>
    intro shown hshown
    rcases List.mem_cons.mp hshown with rfl | hshown
    · exact (h.step action).1
    · exact ih (h.step action).2 shown hshown

/-- The lifecycle of a loader, whatever has been done with it before. It is not loading, and it is
ready iff it has a table. Calls that its archive makes during a load are refused and change nothing,
so the load goes as if they were refused outright. A load that fails leaves it without a table. As
long as it has none, a load ends as on a new loader whose archive answers alike. And once a load has
succeeded, its table is what every later load and every look at the table gives. -/
theorem run_lifecycle (read : Reader σ) (archive : σ) (sideData : SideData)
    (actions : List (Action σ)) (l : Loader σ)
    (hl : (run read actions (new archive sideData)).2 = l) :
    (l.phase ≠ .loading ∧ (l.phase = .ready ↔ l.stored.isSome)) ∧
    ((loadServing read l).1 = (load read l).1 ∧
      (loadServing read l).2.loader = (load read l).2 ∧
      ∀ e ∈ (loadServing read l).2.calls,
        e.before.phase = .loading ∧ Fails .tableState e.outcome ∧ e.after = e.before) ∧
    (∀ fault, (load read l).1 = .error fault →
      (load read l).2.phase = .uninitialized ∧ (load read l).2.stored = none) ∧
    (∀ (τ : Type) (other : Reader τ) (fresh : τ) (R : σ → τ → Prop),
      l.phase = .uninitialized → R l.archive fresh → AnswerAlike R Eq read other →
        (load read l).1 = (load other (new fresh sideData)).1) ∧
    ∀ table, (load read l).1 = .ok table → ∀ later,
      ∀ shown ∈ (run read later (load read l).2).1, shown.Fits table := by
  have hrest : l.AtRest := hl ▸ (atRest_new archive sideData).run actions
  have hside : l.sideData = sideData := hl ▸ sideData_run (new archive sideData) actions
  refine ⟨hrest, loadServing_spec read l, ?_, ?_, ?_⟩
  · intro fault hfault
    rcases hrest.load_cases read with ⟨table, htable, -⟩ | ⟨-, -, hafter⟩
    · exact absurd (htable.symm.trans hfault) (by simp)
    · exact hafter
  · intro τ other fresh R hphase hR hread
    have hfresh : (new fresh sideData).settled? = none := rfl
    have hagree := (load_alike (settled_of_uninitialized hphase) hfresh hside hR hread
      (decodersFailOnly_of_refl Eq (fun _ => rfl) _)).1
    exact agreeUpTo_eq_iff.mp hagree
  · intro table htable later
    rcases hrest.load_cases read with ⟨kept, hkept, hkeeps⟩ | ⟨fault, hfault, -⟩
    · obtain rfl : kept = table := Except.ok.inj (hkept.symm.trans htable)
      exact hkeeps.run later
    · exact absurd (hfault.symm.trans htable) (by simp)

/-- An archive that fails as often as its state says, and then answers from memory. Before it does
either, it calls the loader; a read that fails does so with what it was told. -/
def impatient (content : GameFile → Bytes) : Reader Nat
  | 0, how, name => .call .load fun _ =>
    .answer ((Archive.memory (Collection.ofGame content)).read (.empty []) how name).1 0
  | left + 1, _, _ => .call .load fun loaded => .call .table fun shown =>
    .answer (loaded.bind fun _ => shown.map fun _ => []) left

theorem answer_impatient (content : GameFile → Bytes) (file : GameFile) :
    answer (impatient content) 0 file = (.ok (content file), 0) := by
  show (((Archive.memory (Collection.ofGame content)).read _ file.matching file.name).1, 0) = _
  rw [Archive.read_ofGame]

/-- A load fails because the archive passes on that its calls were refused; the next one succeeds
although the archive still calls the loader, and its table stays when the archive is replaced by one
that would fail. -/
theorem run_impatient : ∃ (table : AssetTable) (l : Loader Nat),
    (loadServing (impatient GameFile.leastContent) (new 1 SideData.permissive)).2.calls.map
      Reentry.request = [.load, .table] ∧
    run (impatient GameFile.leastContent) [.load, .table] (new 1 SideData.permissive) =
      ([.outcome (.error .alreadyLoading), .outcome (.error (.tableNotReady .uninitialized))], l) ∧
    (load (impatient GameFile.leastContent) l).1 = .ok table ∧
    ∀ shown ∈ (run (impatient GameFile.leastContent) [.replace 5, .load, .table, .phase]
      (load (impatient GameFile.leastContent) l).2).1, shown.Fits table := by
  obtain ⟨table, htable⟩ := AssetTable.exists_decodedFrom_least
  obtain ⟨-, -, -, hfresh, hkept⟩ := run_lifecycle (impatient GameFile.leastContent) 1
    SideData.permissive [.load, .table] (new 0 SideData.permissive) rfl
  set memory := Archive.memory (Collection.ofGame GameFile.leastContent)
  -- Once it has used up its failures, the archive answers like the files in memory.
  have hread : AnswerAlike (fun left a => left = 0 ∧ a = memory) Eq
      (impatient GameFile.leastContent) (Archive.reader (.empty [])) := by
    rintro left a ⟨rfl, rfl⟩ file
    rw [answer_impatient, answer_ofGame]
    exact ⟨rfl, rfl, rfl⟩
  have hload := hfresh Archive (Archive.reader (.empty [])) memory _ rfl ⟨rfl, rfl⟩ hread
  rw [load_ofGame htable] at hload
  exact ⟨table, new 0 SideData.permissive, rfl, rfl, hload, hkept table hload _⟩

end ArenaData.Loader
