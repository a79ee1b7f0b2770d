import StageGate.Proofs.Artifacts
import StageGate.Proofs.Clients
import StageGate.Proofs.Disk.Tree
import StageGate.Proofs.Refused

/-!
Making a project. Init looks for the project file and refuses to go on when anything is found there; else
it makes the folder, and writes a new project. From then on it refuses, for as long as the file stays. The
look comes before the folder is made: where the path of the folder goes up from a folder that is not there
yet, it finds nothing, and what the path leads to afterwards is written over.
-/

set_option autoImplicit false

namespace StageGate

open Session Store

/-! ### The new project -/

/-- A project with these texts, trimmed: it has passed init in one round at this time, and no work has been
done on it. -/
structure Project.IsNew (p : Project) (name description : String) (mode : Mode) (now : Instant) : Prop where
  name : Text.TrimsTo name p.name
  description : Text.TrimsTo description p.description
  version : p.version = "0.1.0"
  mode : p.mode = mode
  score : p.score = 0
  stage : p.stage = .propose
  createdAt : p.createdAt = now
  updatedAt : p.updatedAt = now
  passed : p.entries .init = ⟨.completed, some now, some now, 1⟩
  others : ∀ s, s ≠ .init → p.entries s = ⟨.pending, none, none, 0⟩

theorem Command.isNew_created (name description : String) (mode : Mode) (now : Instant) :
    (created name description mode now).IsNew name description mode now where
  name := Text.trimsTo_trimmed name
  description := Text.trimsTo_trimmed description
  version := rfl
  mode := rfl
  score := rfl
  stage := rfl
  createdAt := rfl
  updatedAt := rfl
  passed := rfl
  others _ hs := if_neg hs

/-! ### When init succeeds -/

def Text.Says (text : String) : Prop := ∃ c ∈ text.toList, isBlank c = false

theorem Text.trimmed_ne_empty_iff {text : String} : trimmed text ≠ "" ↔ Says text := by
  rw [ne_eq, trimmed_eq_empty_iff, Bool.not_eq_true, Command.isBlankText_eq_false, Says]

variable {l : Layout} {d made : Disk} {p q : Project} {now : Instant} {w : Surroundings}
  {name description : String} {mode : Mode}

theorem Disk.exists_eq_false_iff {path : Path} :
    d.exists path = false ↔ ∀ item, d.find path ≠ .ok item := by
  cases h : d.find path <;> simp [«exists», h]

theorem Store.read_eq_notInitialized_iff :
    read l d = .error (.notInitialized l.projectFile) ↔ ∀ item, d.find l.projectFile ≠ .ok item := by
  cases hf : d.find l.projectFile with
  | error e => simp [read, hf]
  | ok item =>
    cases ht : Disk.textOf item with
    | error e => simp [read, hf, ht]
    | ok text => cases hp : Project.ofText text <;> simp [read, hf, ht, hp]

theorem Store.writable_of_saved (h : saved l p d now = (.ok q, made)) : l.Writable d := by
  obtain ⟨next, hx, -⟩ := (performs_save l p).exec_eq (w := fresh d now) h
  exact .of_save hx

namespace Command

theorem prepared_init_iff {r : Project × Outcome} :
    prepared l d now (init name description mode) = .ok r ↔
      (Text.Says name ∧ Text.Says description) ∧ d.exists l.projectFile = false ∧
        r = (Project.create (Text.trimmed name) (Text.trimmed description) mode now, .done) := by
  rw [prepared, ← Text.trimmed_ne_empty_iff, ← Text.trimmed_ne_empty_iff]
  by_cases hn : Text.trimmed name = ""
  · simp [hn]
  by_cases hd : Text.trimmed description = ""
  · simp [hn, hd]
  cases he : d.exists l.projectFile with
  | true => simp [hn, hd]
  | false => simp [hn, hd, eq_comm]

theorem isOk_init_iff : ((init name description mode).call l w).result.isOk = true ↔
    (Text.Says name ∧ Text.Says description) ∧ w.disk.exists l.projectFile = false ∧
      l.Writable w.disk := by
  rw [call_result]
  constructor
  · intro h
    cases hp : prepared l w.disk w.now (init name description mode) with
    | error e => simp [performed_of_prepared_error hp] at h
    | ok r =>
      rw [performed_of_prepared_ok hp (by simp)] at h
      obtain ⟨htexts, he, -⟩ := prepared_init_iff.1 hp
      cases hc : (committed l r w.disk w.now).1 with
      | error e => simp [hc] at h
      | ok o =>
        obtain ⟨q, hs⟩ := committed_eq_ok hc
        exact ⟨htexts, he, writable_of_saved hs⟩
  · rintro ⟨htexts, he, hw⟩
    obtain ⟨made, hm, -⟩ := committed_of_writable hw _ w.now
    rw [performed_of_prepared_ok (prepared_init_iff.2 ⟨htexts, he, rfl⟩) (by simp), hm, isOk_ok]

theorem exec_init_of_exists (h : w.disk.exists l.projectFile = true) (name description : String)
    (mode : Mode) :
    ∃ e, exec (run l (init name description mode)) w = (.error e, w) ∧
      (Text.Says name → Text.Says description → e = .alreadyInitialized l.projectFile) := by
  rw [← Text.trimmed_ne_empty_iff, ← Text.trimmed_ne_empty_iff]
  by_cases hn : Text.trimmed name = ""
  · exact ⟨.blankName, by simp [run, begin, hn], fun hne => absurd hn hne⟩
  by_cases hd : Text.trimmed description = ""
  · exact ⟨.blankDescription, by simp [run, begin, hn, hd], fun _ hne => absurd hd hne⟩
  · exact ⟨_, by simp [run, begin, hn, hd, isInitialized, h, exec_bind], fun _ _ => rfl⟩

end Command

/-! ### What a save writes over -/

namespace Store

variable {place : Place} {item : Item}

theorem kept_of_saved (hw : l.Writable d) (hi : d.item? place = some item) (p : Project) (now : Instant) :
    (saved l p d now).2.item? place = some item ∨
      (saved l p d now).2.walk ((saved l p d now).2.start l.projectFile) l.projectFile.steps = .ok place := by
  obtain ⟨folder, hent, hfree, hs⟩ := saved_eq_put hw
  rw [hs p now]
  by_cases hp : place = folder ++ [Layout.projectFileName]
  · subst hp
    exact Or.inr (Disk.walk_join isName_projectFileName (Disk.walk_put hfree hent)
      (by simp [Disk.item?_put_self]))
  · rw [Disk.item?_put_of_ne _ _ hp]
    exact Or.inl ((Disk.Grows.of_makeFolders d l.folder).item?_of_some hi)

/-- A path that does not go up leads to nothing that it did not lead to before. -/
theorem kept_of_saved_down (hw : l.Writable d) (htree : d.IsTree) (hup : ".." ∉ l.folder.steps)
    (hn : d.exists l.projectFile = false) (hi : d.item? place = some item) (p : Project) (now : Instant) :
    (saved l p d now).2.item? place = some item := by
  obtain ⟨folder, hent, hfree, hs⟩ := saved_eq_put hw
  have hgrows := Disk.Grows.of_makeFolders d l.folder
  have hp : place ≠ folder ++ [Layout.projectFileName] := by
    rintro rfl
    have henter := htree.enter_of_made hgrows.here hup hent (by rw [hi]; rfl)
    have hfind := find_projectFile_of_enter henter
    rw [hi] at hfind
    simp [exists_of_find hfind] at hn
  rw [hs p now, Disk.item?_put_of_ne _ _ hp]
  exact hgrows.item?_of_some hi

end Store

/-! ### Later calls -/

namespace Command

theorem exists_of_performed (h : d.exists l.projectFile = true) (c : Command) (now : Instant) :
    (performed l d now c).2.exists l.projectFile = true := by
  cases hr : (performed l d now c).1 with
  | ok o => exact exists_of_performed_ok hr
  | error e =>
    cases hi : c.isInit with
    | false =>
      rw [performed_of_error hi hr]
      exact h
    | true =>
      obtain ⟨name, description, mode, rfl⟩ := isInit_iff.1 hi
      cases hp : prepared l d now (init name description mode) with
      | error e =>
        rw [performed_of_prepared_error hp]
        exact h
      | ok r => simp [(prepared_init_eq_ok hp).1] at h

end Command

/-- The work of others leaves something in the place of the project file if it finds something there. -/
def Move.LeavesFile (l : Layout) : Move → Prop
  | work change => ∀ d, d.exists l.projectFile = true → (change d).exists l.projectFile = true
  | call _ | clock _ => True

theorem Move.exists_next {m : Move} (hm : m.LeavesFile l) (h : w.disk.exists l.projectFile = true) :
    (m.next l w).disk.exists l.projectFile = true := by
  cases m with
  | call c =>
    rw [next, Command.call_disk]
    exact Command.exists_of_performed h c w.now
  | clock now => exact h
  | work change => exact hm w.disk h

theorem Run.exists_before_calls {ms : List Move} (hms : ∀ m ∈ ms, m.LeavesFile l)
    (h : w.disk.exists l.projectFile = true) :
    ∀ c ∈ calls l w ms, c = c.command.call l c.before ∧ c.before.disk.exists l.projectFile = true := by
  induction ms generalizing w with
  | nil => simp [calls]
  | cons m ms ih =>
    have hrest := ih (fun m hm => hms m (List.mem_cons_of_mem _ hm)) (Move.exists_next (hms m (by simp)) h)
    intro c hc
    rcases List.mem_append.1 hc with hc | hc
    · cases m with
      | call b =>
        obtain rfl := List.mem_singleton.1 hc
        exact ⟨rfl, h⟩
      | clock now => simp [Move.call?] at hc
      | work change => simp [Move.call?] at hc
    · exact hrest c hc

/-- A call of init that failed before it did anything; where its texts say something, because of what it
found. -/
structure Call.RefusesInit (l : Layout) (name description : String) (c : Call) : Prop where
  refused : ∃ e, c.result = .error e
  after : c.after = c.before
  reason : Text.Says name → Text.Says description →
    c.result = .error (.alreadyInitialized l.projectFile)

theorem Command.refusesInit_call (h : w.disk.exists l.projectFile = true) (name description : String)
    (mode : Mode) : ((init name description mode).call l w).RefusesInit l name description := by
  obtain ⟨e, hx, hreason⟩ := exec_init_of_exists h name description mode
  rw [call, hx]
  exact ⟨⟨e, rfl⟩, rfl, fun hn hd => congrArg Except.error (hreason hn hd)⟩

/-! ### Making a project once -/

/-- What init leaves behind when it has made a project. -/
structure Call.Creates (l : Layout) (name description : String) (mode : Mode) (c : Call) : Prop where
  loaded : ∃ p, p.IsNew name description mode c.before.now ∧
    ∀ w, w.disk = c.after.disk → (exec (load l) w).1 = .ok p
  /-- One place at most was written over, to which the path of the project file leads now. -/
  kept : ∀ place item, c.before.disk.item? place = some item →
    c.after.disk.item? place = some item ∨
      c.after.disk.walk (c.after.disk.start l.projectFile) l.projectFile.steps = .ok place
  /-- Nothing was, if the path of the folder does not go up. -/
  kept_down : c.before.disk.IsTree → ".." ∉ l.folder.steps → ∀ place item,
    c.before.disk.item? place = some item → c.after.disk.item? place = some item
  /-- Init is refused from now on, whatever else is called, for as long as the file is there. -/
  once : ∀ ms, (∀ m ∈ ms, m.LeavesFile l) → ∀ b ∈ Run.calls l c.after ms, ∀ name description mode,
    b.command = .init name description mode → b.RefusesInit l name description

theorem Command.disk_of_call_init (hn : Text.Says name) (hd : Text.Says description)
    (he : w.disk.exists l.projectFile = false) (mode : Mode) :
    ((init name description mode).call l w).after.disk = (saved l
      (Project.create (Text.trimmed name) (Text.trimmed description) mode w.now) w.disk w.now).2 := by
  rw [call_disk, performed_of_prepared_ok (prepared_init_iff.2 ⟨⟨hn, hd⟩, he, rfl⟩) (by simp)]
  rfl

theorem Command.creates_call (hn : Text.Says name) (hd : Text.Says description)
    (he : w.disk.exists l.projectFile = false) (hw : l.Writable w.disk) (mode : Mode) :
    ((init name description mode).call l w).Creates l name description mode := by
  have hdisk := disk_of_call_init hn hd he mode
  obtain ⟨made, hs, hf⟩ := saved_of_writable hw
    (Project.create (Text.trimmed name) (Text.trimmed description) mode w.now) w.now
  have hfile : ((init name description mode).call l w).after.disk.find l.projectFile =
      .ok (.file (created name description mode w.now).toText.toUTF8) := by
    rw [hdisk, hs]
    exact hf
  constructor
  case loaded =>
    refine ⟨_, isNew_created name description mode w.now, fun v hv => ?_⟩
    rw [(computes_load l v).1, hv]
    exact read_of_find hfile
  case kept =>
    intro place item hi
    rw [hdisk]
    exact kept_of_saved hw hi _ _
  case kept_down =>
    intro htree hup place item hi
    rw [hdisk]
    exact kept_of_saved_down hw htree hup he hi _ _
  case once =>
    intro ms hms b hb name description mode hc
    obtain ⟨hcall, hexists⟩ := Run.exists_before_calls hms (exists_of_find hfile) b hb
    rw [hcall, hc]
    exact refusesInit_call hexists name description mode

/-- Init succeeds exactly when both texts say something, nothing is found at the path of the project file,
which is where loading finds no project, and the file can be written. Where anything is found it is
refused and does nothing. When it succeeds, the new project can be loaded, and init is refused from then
on. -/
theorem init_creates_once (l : Layout) (w : Surroundings) (name description : String) (mode : Mode) :
    let call := (Command.init name description mode).call l w
    ((exec (load l) w).1 = .error (.notInitialized l.projectFile) ↔
      ∀ item, w.disk.find l.projectFile ≠ .ok item) ∧
    (call.result.isOk = true ↔ (Text.Says name ∧ Text.Says description) ∧
      (exec (load l) w).1 = .error (.notInitialized l.projectFile) ∧ l.Writable w.disk) ∧
    (∀ item, w.disk.find l.projectFile = .ok item → call.RefusesInit l name description) ∧
    (call.result.isOk = true → call.Creates l name description mode) := by
  intro call
  have hload : (exec (load l) w).1 = .error (.notInitialized l.projectFile) ↔
      w.disk.exists l.projectFile = false := by
    rw [(computes_load l w).1, read_eq_notInitialized_iff, Disk.exists_eq_false_iff]
  refine ⟨hload.trans Disk.exists_eq_false_iff, ?_, fun item hf => ?_, fun hok => ?_⟩
  · rw [hload]
    exact Command.isOk_init_iff
  · exact Command.refusesInit_call (exists_of_find hf) name description mode
  · obtain ⟨⟨hn, hd⟩, he, hw⟩ := Command.isOk_init_iff.1 hok
    exact Command.creates_call hn hd he hw mode

theorem init_creates_once_emptyRoot :
    let l := Layout.standard ⟨""⟩
    let first := (Command.init "\u3000shop " "a shop" .expert).call l (fresh emptyRoot newYear)
    let again := (Command.init "shop" "another shop" .guided).call l first.after
    first.result.isOk = true ∧ first.Creates l "\u3000shop " "a shop" .expert ∧
    emptyRoot.IsTree ∧ ".." ∉ l.folder.steps ∧
    (∃ item, first.after.disk.find l.projectFile = .ok item) ∧ again.RefusesInit l "shop" "another shop" := by
  intro l first again
  obtain ⟨-, hok, -, hcreates⟩ :=
    init_creates_once l (fresh emptyRoot newYear) "\u3000shop " "a shop" .expert
  have hn : Text.Says "\u3000shop " := Text.trimmed_ne_empty_iff.1 (by decide)
  have hd : Text.Says "a shop" := Text.trimmed_ne_empty_iff.1 (by decide)
  have hload : (exec (load l) (fresh emptyRoot newYear)).1 = .error (.notInitialized l.projectFile) := by
    rw [(computes_load l _).1, read_eq_notInitialized_iff]
    exact Disk.exists_eq_false_iff.1 missing_emptyRoot
  have hfirst : first.result.isOk = true := hok.2 ⟨⟨hn, hd⟩, hload, writable_emptyRoot⟩
  obtain ⟨p, -, hp⟩ := (hcreates hfirst).loaded
  obtain ⟨bytes, hfound⟩ := find_of_read ((computes_load l _).1.symm.trans (hp first.after rfl))
  exact ⟨hfirst, hcreates hfirst, Disk.isTree_empty _, by decide, ⟨_, hfound⟩,
    (init_creates_once l first.after "shop" "another shop" .guided).2.2.1 _ hfound⟩

/-! ### A project that is written over -/

def keptRoot (bytes : ByteArray) : Disk :=
  (emptyRoot.put ["root", "kept"] .folder).put ["root", "kept", "sdd.json"] (.file bytes)

theorem isTree_keptRoot (bytes : ByteArray) : (keptRoot bytes).IsTree := by
  have hkept : (emptyRoot.put (["root"] ++ ["kept"]) .folder).IsTree :=
    (Disk.isTree_empty ["root"]).put rfl (Or.inr rfl)
  have hfile : ((emptyRoot.put ["root", "kept"] .folder).put (["root", "kept"] ++ ["sdd.json"])
      (.file bytes)).IsTree := hkept.put rfl (Or.inl rfl)
  exact hfile

/-- Two ways to the folder, the second one through a folder that is not there. -/
def kept : Layout := .of ⟨""⟩ "kept"
def keptThroughNew : Layout := .of ⟨""⟩ "new/../kept"

theorem find_keptRoot (bytes : ByteArray) :
    (keptRoot bytes).find kept.projectFile = .ok (.file bytes) := rfl

theorem exists_keptRoot (bytes : ByteArray) :
    (keptRoot bytes).exists keptThroughNew.projectFile = false := rfl

theorem makeFolders_keptRoot (bytes : ByteArray) :
    (keptRoot bytes).makeFolders keptThroughNew.folder =
      (.ok (), (keptRoot bytes).put ["root", "new"] .folder) := rfl

theorem enter_keptRoot (bytes : ByteArray) :
    ((keptRoot bytes).makeFolders keptThroughNew.folder).2.enter keptThroughNew.folder =
      .ok ["root", "kept"] ∧
    ((keptRoot bytes).makeFolders keptThroughNew.folder).2.enter kept.folder = .ok ["root", "kept"] := by
  rw [makeFolders_keptRoot]
  exact ⟨rfl, rfl⟩

theorem writable_keptRoot (bytes : ByteArray) : keptThroughNew.Writable (keptRoot bytes) where
  made := by rw [makeFolders_keptRoot]
  entered := ⟨_, (enter_keptRoot bytes).1⟩
  no_folder := by
    rw [find_projectFile_of_enter (enter_keptRoot bytes).1]
    exact nofun

/-- Init finds nothing, makes the folder `new`, and writes over the project in the folder `kept`. -/
theorem project_overwritten :
    let w := fresh (keptRoot strange.toText.toUTF8) newYear
    let call := (Command.init "shop" "a shop" .guided).call keptThroughNew w
    w.disk.IsTree ∧ (exec (load kept) w).1 = .ok strange ∧
    (exec (load keptThroughNew) w).1 = .error (.notInitialized keptThroughNew.projectFile) ∧
    call.result = .ok .done ∧
    (exec (load kept) call.after).1 = .ok (Command.created "shop" "a shop" .guided newYear) := by
  intro w call
  have hn : Text.trimmed "shop" ≠ "" := by decide
  have hd : Text.trimmed "a shop" ≠ "" := by decide
  have hmissing := exists_keptRoot strange.toText.toUTF8
  have hw := writable_keptRoot strange.toText.toUTF8
  refine ⟨isTree_keptRoot _, ?_, ?_, ?_, ?_⟩
  · rw [(computes_load kept w).1]
    exact read_of_find (find_keptRoot _)
  · rw [(computes_load keptThroughNew w).1, read_eq_notInitialized_iff]
    exact Disk.exists_eq_false_iff.1 hmissing
  · obtain ⟨made, hm, -⟩ := Command.performed_init hn hd hw hmissing .guided newYear
    rw [Command.call_result, show w.disk = keptRoot _ from rfl, show w.now = newYear from rfl, hm]
  · have hdisk := Command.disk_of_call_init (w := w) (Text.trimmed_ne_empty_iff.1 hn)
      (Text.trimmed_ne_empty_iff.1 hd) hmissing .guided
    obtain ⟨place, hent, hfree, hs⟩ := saved_eq_put hw
    obtain ⟨hnew, hkept⟩ := enter_keptRoot strange.toText.toUTF8
    obtain rfl : ["root", "kept"] = place := Except.ok.inj (hnew.symm.trans hent)
    rw [(computes_load kept call.after).1, hdisk]
    refine read_of_find ?_
    rw [show w.disk = keptRoot _ from rfl, hs, find_projectFile_of_enter (Disk.walk_put hfree hkept),
      Disk.item?_put_self _ _ (by simp)]
    rfl

end StageGate
