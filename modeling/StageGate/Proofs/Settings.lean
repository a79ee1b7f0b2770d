import StageGate.Proofs.Artifacts
import StageGate.Proofs.History
import StageGate.Proofs.Toml.Keys
import StageGate.Settings.Load

/-!
Settings are read strictly. Without a settings file the standard settings hold. A file that is there must be
the text of a table with no keys but the two that settings know, each with a value of its kind; whatever
else it is, it is a fault. A key that is there gives its value, and one that is not there leaves the
standard, whatever the other one does.
-/

set_option autoImplicit false

namespace StageGate.Settings

open SettingsFault Session

variable {s before next : Settings} {field : String × Toml} {fields rest : List (String × Toml)}
  {v : Toml} {m : Mode} {d : Disk} {root : Path}

/-! ### Single fields -/

theorem readText_eq_ok {text : String} : readText v = .ok text ↔ v = .string text := by
  cases v <;> simp [readText]

theorem readMode_eq_ok (hv : ∀ inner, v ≠ .table inner) : readMode v = .ok m ↔ v = .string m.name := by
  cases v with
  | string word =>
    rw [readMode, knownMode, Toml.string.injEq, ← Mode.ofName?_eq_some_iff]
    cases Mode.ofName? word <;> simp
  | table inner => exact absurd rfl (hv inner)
  | _ => simp [readMode]

theorem exists_readMode_eq_ok (hv : ∀ inner, v ≠ .table inner) :
    (∃ m, readMode v = .ok m) ↔ v = .string "guided" ∨ v = .string "expert" := by
  simp only [readMode_eq_ok hv]
  constructor
  · rintro ⟨m, rfl⟩
    cases m
    · exact Or.inl rfl
    · exact Or.inr rfl
  · rintro (rfl | rfl)
    · exact ⟨.guided, rfl⟩
    · exact ⟨.expert, rfl⟩

theorem folderKey_ne_modeKey : folderKey ≠ modeKey := by decide

/-- All that a field can do: it sets the folder to its text, or the mode to its mode. -/
theorem take_eq_ok : take before field = .ok next ↔
    (field.1 = folderKey ∧ ∃ text, field.2 = .string text ∧ next = { before with folder := text }) ∨
    (field.1 = modeKey ∧ ∃ m, readMode field.2 = .ok m ∧ next = { before with mode := m }) := by
  have hne := folderKey_ne_modeKey
  unfold take
  by_cases hf : field.1 = folderKey
  · cases hr : readText field.2 with
    | error e =>
      have hno (text : String) : field.2 ≠ .string text := fun h => by simp [h, readText] at hr
      simp [hf, hne, hno]
    | ok text =>
      rw [readText_eq_ok] at hr
      simp [hf, hne, hr, eq_comm]
  · by_cases hm : field.1 = modeKey
    · cases hr : readMode field.2 with
      | error e => simp [hm, hne.symm]
      | ok m => simp [hm, hne.symm, eq_comm]
    · simp [hf, hm]

/-! ### Tables -/

theorem foldlM_eq_ok_cons : (field :: rest).foldlM take before = .ok s ↔
    ∃ next, take before field = .ok next ∧ rest.foldlM take next = .ok s := by
  rw [List.foldlM_cons]
  cases ht : take before field <;> simp [bind, Except.bind]

def IsSetting (field : String × Toml) : Prop :=
  (field.1 = folderKey ∧ ∃ text, field.2 = .string text) ∨
    (field.1 = modeKey ∧ ∃ m, readMode field.2 = .ok m)

theorem isSetting_of_take (h : take before field = .ok next) : IsSetting field := by
  rcases take_eq_ok.1 h with ⟨hk, text, ht, -⟩ | ⟨hk, m, hm, -⟩
  · exact Or.inl ⟨hk, text, ht⟩
  · exact Or.inr ⟨hk, m, hm⟩

theorem IsSetting.exists_take (h : IsSetting field) (before : Settings) :
    ∃ next, take before field = .ok next := by
  rcases h with ⟨hk, text, ht⟩ | ⟨hk, m, hm⟩
  · exact ⟨_, take_eq_ok.2 (Or.inl ⟨hk, text, ht, rfl⟩)⟩
  · exact ⟨_, take_eq_ok.2 (Or.inr ⟨hk, m, hm, rfl⟩)⟩

theorem exists_foldlM_eq_ok :
    (∃ s, fields.foldlM take before = .ok s) ↔ ∀ field ∈ fields, IsSetting field := by
  induction fields generalizing before with
  | nil => simpa using ⟨before, rfl⟩
  | cons field rest ih =>
    simp only [foldlM_eq_ok_cons, List.forall_mem_cons]
    constructor
    · rintro ⟨s, next, ht, hrest⟩
      exact ⟨isSetting_of_take ht, ih.1 ⟨s, hrest⟩⟩
    · rintro ⟨hfield, hrest⟩
      obtain ⟨next, ht⟩ := hfield.exists_take before
      obtain ⟨s, hs⟩ := ih.2 hrest
      exact ⟨s, next, ht, hs⟩

/-- Each key that is there has given its setting, and the settings of the others are as they were before. -/
structure Follows (fields : List (String × Toml)) (before s : Settings) : Prop where
  folder : ∀ v, (folderKey, v) ∈ fields → v = .string s.folder
  mode : ∀ v, (modeKey, v) ∈ fields → readMode v = .ok s.mode
  no_folder : folderKey ∉ fields.map Prod.fst → s.folder = before.folder
  no_mode : modeKey ∉ fields.map Prod.fst → s.mode = before.mode

theorem follows_of_foldlM (hd : Toml.Distinct fields) (h : fields.foldlM take before = .ok s) :
    Follows fields before s := by
  induction fields generalizing before with
  | nil =>
    obtain rfl : before = s := Except.ok.inj h
    exact ⟨by simp, by simp, fun _ => rfl, fun _ => rfl⟩
  | cons field rest ih =>
    obtain ⟨key, w⟩ := field
    rw [Toml.distinct_cons] at hd
    obtain ⟨next, ht, hs⟩ := foldlM_eq_ok_cons.1 h
    have hrest := ih hd.2 hs
    have hne := folderKey_ne_modeKey
    rcases take_eq_ok.1 ht with ⟨rfl, text, rfl, rfl⟩ | ⟨rfl, m, hm, rfl⟩
    · have hfolder : s.folder = text := hrest.no_folder hd.1
      constructor
      case folder => simpa [hfolder] using hrest.folder
      case mode => simpa [hne.symm] using hrest.mode
      case no_folder => simp
      case no_mode => simpa [hne.symm] using hrest.no_mode
    · have hmode : s.mode = m := hrest.no_mode hd.1
      constructor
      case folder => simpa [hne] using hrest.folder
      case mode => simpa [hmode, hm] using hrest.mode
      case no_folder => simpa [hne] using hrest.no_folder
      case no_mode => simp

/-- The table has no keys but those of the settings, and each of them has a value of its kind. -/
structure Proper (fields : List (String × Toml)) : Prop where
  known : ∀ key v, (key, v) ∈ fields → key = "state_dir" ∨ key = "default_mode"
  folder : ∀ v, ("state_dir", v) ∈ fields → ∃ text, v = .string text
  mode : ∀ v, ("default_mode", v) ∈ fields → v = .string "guided" ∨ v = .string "expert"

theorem forall_isSetting_iff (hno : ∀ inner, ("default_mode", .table inner) ∉ fields) :
    (∀ field ∈ fields, IsSetting field) ↔ Proper fields := by
  have hmode (v : Toml) (hv : ("default_mode", v) ∈ fields) :
      (∃ m, readMode v = .ok m) ↔ v = .string "guided" ∨ v = .string "expert" := by
    refine exists_readMode_eq_ok ?_
    rintro inner rfl
    exact hno inner hv
  constructor
  · intro h
    constructor
    case known =>
      intro key v hv
      exact (h _ hv).imp And.left And.left
    case folder =>
      intro v hv
      rcases h _ hv with ⟨-, ht⟩ | ⟨hk, -⟩
      · exact ht
      · exact absurd hk folderKey_ne_modeKey
    case mode =>
      intro v hv
      rcases h _ hv with ⟨hk, -⟩ | ⟨-, hm⟩
      · exact absurd hk.symm folderKey_ne_modeKey
      · exact (hmode v hv).1 hm
  · rintro h ⟨key, v⟩ hv
    rcases h.known key v hv with rfl | rfl
    · exact Or.inl ⟨rfl, h.folder v hv⟩
    · exact Or.inr ⟨rfl, (hmode v hv).2 (h.mode v hv)⟩

/-- Each key that is there gives its setting, and each other setting is the standard one. -/
structure Reads (fields : List (String × Toml)) (s : Settings) : Prop where
  folder : ∀ v, ("state_dir", v) ∈ fields → v = .string s.folder
  mode : ∀ v, ("default_mode", v) ∈ fields → v = .string s.mode.name
  no_folder : "state_dir" ∉ fields.map Prod.fst → s.folder = "sdd"
  no_mode : "default_mode" ∉ fields.map Prod.fst → s.mode = .guided

theorem reads_of_ofTable (hd : Toml.Distinct fields)
    (hno : ∀ inner, ("default_mode", .table inner) ∉ fields) (h : ofTable fields = .ok s) :
    Reads fields s := by
  have hf := follows_of_foldlM hd h
  refine ⟨hf.folder, fun v hv => ?_, hf.no_folder, hf.no_mode⟩
  refine (readMode_eq_ok ?_).1 (hf.mode v hv)
  rintro inner rfl
  exact hno inner hv

/-! ### Files -/

theorem exec_load (root : Path) (w : Surroundings) : exec (load root) w = (find w.disk root, w) := by
  rw [load, exec_bind, exec_disk]
  dsimp only
  cases find w.disk root <;> rfl

theorem find_eq_standard (h : ∀ item, d.find (file root) ≠ .ok item) :
    find d root = .ok ⟨"sdd", .guided⟩ := by
  cases hf : d.find (file root) with
  | error e => simp [find, Disk.exists, hf, standard, Layout.standardFolder, Mode.standard]
  | ok item => exact absurd hf (h item)

theorem find_of_item {item : Item} (h : d.find (file root) = .ok item) :
    find d root = match Disk.textOf item with
      | .ok text => (ofText text).mapError (.badSettings (file root))
      | .error fault => .error (.onDisk .readSettings (file root) fault) := by
  have htext : d.readText (file root) = Disk.textOf item := by
    rw [Disk.readText, h]
    rfl
  rw [find, if_pos (by simp [Disk.exists, h]), htext]
  cases Disk.textOf item with
  | error fault => rfl
  | ok text =>
    dsimp only
    cases ofText text <;> rfl

/-- The file holds the text of a document, and this is its table. -/
def Holds (item : Item) (fields : List (String × Toml)) : Prop :=
  ∃ bytes text, item = .file bytes ∧ String.fromUTF8? bytes = some text ∧
    Toml.parse? text = some fields

theorem find_of_holds {item : Item} (hi : d.find (file root) = .ok item) (h : Holds item fields) :
    find d root = (ofTable fields).mapError (.badSettings (file root)) := by
  obtain ⟨bytes, text, rfl, ht, hp⟩ := h
  simp [find_of_item hi, Disk.textOf, ht, ofText, hp]

theorem exists_holds_of_find {item : Item} (hi : d.find (file root) = .ok item)
    (h : find d root = .ok s) : ∃ fields, Holds item fields := by
  rw [find_of_item hi] at h
  cases item with
  | folder => simp [Disk.textOf] at h
  | file bytes =>
    cases ht : String.fromUTF8? bytes with
    | none => simp [Disk.textOf, ht] at h
    | some text =>
      cases hp : Toml.parse? text with
      | none => simp [Disk.textOf, ht, ofText, hp] at h
      | some fields => exact ⟨fields, bytes, text, rfl, ht, hp⟩

theorem isOk_iff_exists {ε α : Type} {r : Except ε α} : r.isOk = true ↔ ∃ a, r = .ok a := by
  cases r <;> simp

/-- Without a settings file the standard settings hold. Where the file does not hold a document, reading it
fails. A document gives settings exactly if it is proper, and then those that it names; a mode can also be
written as a table, of which nothing is said here. -/
theorem settings_read_strictly (root : Path) (w : Surroundings) :
    let result := (exec (load root) w).1
    (exec (load root) w).2 = w ∧
    ((∀ item, w.disk.find (file root) ≠ .ok item) → result = .ok ⟨"sdd", .guided⟩) ∧
    (∀ item, w.disk.find (file root) = .ok item → (¬ ∃ fields, Holds item fields) →
      ∃ e, result = .error e) ∧
    (∀ item fields, w.disk.find (file root) = .ok item → Holds item fields →
      (fields.map Prod.fst).Nodup ∧
      ((∀ inner, ("default_mode", .table inner) ∉ fields) →
        (result.isOk = true ↔ Proper fields) ∧ ∀ s, result = .ok s → Reads fields s)) := by
  intro result
  have hresult : result = find w.disk root := congrArg Prod.fst (exec_load root w)
  refine ⟨congrArg Prod.snd (exec_load root w), fun h => hresult.trans (find_eq_standard h), ?_, ?_⟩
  · intro item hi hno
    cases hf : result with
    | error e => exact ⟨e, rfl⟩
    | ok s => exact absurd (exists_holds_of_find hi (hresult.symm.trans hf)) hno
  · intro item fields hi hholds
    have hd : Toml.Distinct fields := by
      obtain ⟨bytes, text, -, -, hp⟩ := hholds
      exact Toml.distinct_of_parse hp
    have htable : result = (ofTable fields).mapError (.badSettings (file root)) :=
      hresult.trans (find_of_holds hi hholds)
    have hok (s : Settings) : result = .ok s ↔ ofTable fields = .ok s := by
      rw [htable]
      cases ofTable fields <;> simp
    refine ⟨hd, fun hno => ⟨?_, fun s hs => reads_of_ofTable hd hno ((hok s).1 hs)⟩⟩
    calc result.isOk = true ↔ ∃ s, result = .ok s := isOk_iff_exists
      _ ↔ ∃ s, ofTable fields = .ok s := exists_congr hok
      _ ↔ ∀ field ∈ fields, IsSetting field := exists_foldlM_eq_ok
      _ ↔ Proper fields := forall_isSetting_iff hno

theorem holds_of_field (text key : String) (value : Option String)
    (h : (Toml.parse? text).map (·.map fun f => (f.1, (readText f.2).toOption)) = some [(key, value)]) :
    ∃ v, Holds (.file text.toUTF8) [(key, v)] ∧ (readText v).toOption = value := by
  obtain ⟨fields, hp, hfields⟩ := Option.map_eq_some_iff.1 h
  obtain ⟨f, rfl, hf⟩ := List.map_eq_singleton_iff.1 hfields
  obtain ⟨rfl, rfl⟩ := Prod.mk.inj hf
  exact ⟨f.2, ⟨_, text, rfl, Disk.fromUTF8?_toUTF8 _, hp⟩, rfl⟩

def settledRoot (text : String) : Surroundings :=
  fresh (emptyRoot.put ["root", "specgate.toml"] (.file text.toUTF8)) newYear

theorem find_settledRoot (text : String) :
    (settledRoot text).disk.find (file ⟨""⟩) = .ok (.file text.toUTF8) := rfl

/-- One key is enough; a value of the wrong kind is not passed over. -/
theorem settings_read_strictly_settledRoot :
    let strict := "default_mode = \"expert\"\n"
    let numbered := "state_dir = 3\n"
    (exec (load ⟨""⟩) (settledRoot strict)).1 = .ok ⟨"sdd", .expert⟩ ∧
    (exec (load ⟨""⟩) (settledRoot numbered)).1.isOk = false := by
  intro strict numbered
  constructor
  · obtain ⟨v, hholds, hv⟩ :=
      holds_of_field strict "default_mode" (some "expert") (by decide +kernel)
    obtain rfl : v = .string "expert" := by
      cases v <;> simp_all [readText, Except.toOption]
    obtain ⟨-, hread⟩ :=
      (settings_read_strictly ⟨""⟩ (settledRoot strict)).2.2.2 _ _ (find_settledRoot _) hholds
    obtain ⟨hok, hreads⟩ := hread (by simp)
    have hproper : Proper [("default_mode", .string "expert")] := ⟨by simp, by simp, by simp⟩
    obtain ⟨s, hs⟩ := isOk_iff_exists.1 (hok.2 hproper)
    obtain ⟨-, hmode, hfolder, -⟩ := hreads s hs
    have hname : "expert" = s.mode.name := Toml.string.inj (hmode _ (by simp))
    have hexpert : s.mode = .expert := by
      rw [← Mode.ofName?_eq_some_iff] at hname
      exact (Option.some.inj hname).symm
    rw [hs, show s = ⟨s.folder, s.mode⟩ from rfl, hfolder (by simp), hexpert]
  · obtain ⟨v, hholds, hv⟩ :=
      holds_of_field numbered "state_dir" none (by decide +kernel)
    obtain ⟨-, hrefuse⟩ :=
      (settings_read_strictly ⟨""⟩ (settledRoot numbered)).2.2.2 _ _ (find_settledRoot _) hholds
    obtain ⟨hok, -⟩ := hrefuse (by simp)
    rw [Bool.eq_false_iff, ne_eq, hok]
    intro hproper
    obtain ⟨text, rfl⟩ := hproper.folder v (by simp)
    cases hv

end StageGate.Settings
