import StageGate.Proofs.Disk.Making
import StageGate.Proofs.Project.RoundTrip
import StageGate.Proofs.Session
import StageGate.Store

/-!
The project file. What a load gives is decided by what stands at its path (`Store.read`); a save that
succeeds leaves there the text of the project it was given, stamped with the time, and one that fails
leaves no file there at all. Over a file that is there, a save succeeds.
-/

set_option autoImplicit false

namespace StageGate

open Session

theorem isName_projectFileName : IsName Layout.projectFileName where
  ne_empty := by decide
  ne_dot := by decide
  ne_up := by decide
  no_slash := by decide

/-- The folder of a layout is there or can be made, and then no folder stands where the project file
belongs. -/
structure Layout.Writable (l : Layout) (d : Disk) : Prop where
  made : (d.makeFolders l.folder).1 = .ok ()
  entered : ∃ q, (d.makeFolders l.folder).2.enter l.folder = .ok q
  no_folder : (d.makeFolders l.folder).2.find l.projectFile ≠ .ok .folder

def Project.stamped (p : Project) (now : Instant) : Project := { p with updatedAt := now }

namespace Store

def read (l : Layout) (d : Disk) : Except Failure Project :=
  match d.find l.projectFile with
  | .error _ => .error (.notInitialized l.projectFile)
  | .ok item =>
    match Disk.textOf item with
    | .error e => .error (.onDisk .readFile l.projectFile e)
    | .ok text => (Project.ofText text).mapError (.badProject l.projectFile)

def project? (l : Layout) (d : Disk) : Option Project := (read l d).toOption

variable {l : Layout} {d made : Disk} {p : Project} {w : Surroundings}

theorem project?_eq_some : project? l d = some p ↔ read l d = .ok p := by
  cases h : read l d <;> simp [project?, h, Except.toOption]

theorem read_congr {d' : Disk}
    (h : (d'.find l.projectFile).toOption = (d.find l.projectFile).toOption) : read l d' = read l d := by
  cases hf : d.find l.projectFile <;> cases hf' : d'.find l.projectFile <;>
    simp_all [read, Except.toOption]

theorem read_of_find (h : d.find l.projectFile = .ok (.file p.toText.toUTF8)) : read l d = .ok p := by
  simp only [read, h, Disk.textOf_toUTF8, Project.ofText_toText]
  rfl

theorem project?_of_no_file (h : ∀ bytes, d.find l.projectFile ≠ .ok (.file bytes)) :
    project? l d = none := by
  cases hf : d.find l.projectFile with
  | error e => simp [project?, read, hf, Except.toOption]
  | ok item =>
    cases item with
    | folder => simp [project?, read, hf, Disk.textOf, Except.toOption]
    | file bytes => exact absurd hf (h bytes)

theorem find_of_read (h : read l d = .ok p) : ∃ bytes, d.find l.projectFile = .ok (.file bytes) := by
  cases hf : d.find l.projectFile with
  | error e => simp [read, hf] at h
  | ok item =>
    cases item with
    | folder => simp [read, hf, Disk.textOf] at h
    | file bytes => exact ⟨bytes, rfl⟩

theorem enter_of_find {item : Item} (h : d.find l.projectFile = .ok item) :
    ∃ q, d.enter l.folder = .ok q := by
  rw [Layout.projectFile, Disk.find_join isName_projectFileName] at h
  cases he : d.enter l.folder with
  | error e => simp [he, Except.bind] at h
  | ok q => exact ⟨q, rfl⟩

theorem computes_load (l : Layout) : Computes (load l) fun d _ => read l d := by
  intro w
  cases hf : w.disk.find l.projectFile with
  | error e =>
    simp [load, isInitialized, Disk.exists, read, hf, exec_bind]
  | ok item =>
    cases ht : Disk.textOf item with
    | error e =>
      simp [load, isInitialized, Disk.exists, readText, read, hf, ht, exec_bind, Except.isOk,
        Except.toBool]
    | ok text =>
      cases hp : Project.ofText text <;>
        simp [load, isInitialized, Disk.exists, readText, read, hf, ht, hp, exec_bind, Except.isOk,
          Except.toBool, Except.map]

theorem load_of_find (h : w.disk.find l.projectFile = .ok (.file p.toText.toUTF8)) :
    (exec (load l) w).1 = .ok p :=
  (computes_load l w).1.trans (read_of_find h)

/-! ### Saving -/

theorem exec_save (l : Layout) (p : Project) (w : Surroundings) :
    exec (save l p) w =
      match w.disk.makeFolders l.folder with
      | (.error e, made) => (.error (.onDisk .makeFolder l.folder e), { w with disk := made })
      | (.ok (), made) =>
        match made.write l.projectFile (p.stamped w.now).toText.toUTF8 with
        | .error e => (.error (.onDisk .openForWriting l.projectFile e), { w with disk := made })
        | .ok d => (.ok (p.stamped w.now),
            { w with disk := d, journal := w.journal ++ [.saved l.projectFile p.stage] }) := by
  cases hm : w.disk.makeFolders l.folder with
  | mk r made =>
    cases r with
    | error e => simp [save, exec_bind, hm]
    | ok u =>
      cases hw : made.write l.projectFile (p.stamped w.now).toText.toUTF8 with
      | error e =>
        rw [Project.stamped, String.toUTF8_eq_toByteArray] at hw
        simp [save, writeText, exec_bind, hm, hw, Project.stamped]
      | ok d =>
        rw [Project.stamped, String.toUTF8_eq_toByteArray] at hw
        simp [save, writeText, exec_bind, hm, hw, Except.map, Project.stamped]

theorem find_projectFile_of_enter {q : Place} (h : d.enter l.folder = .ok q) :
    d.find l.projectFile = match d.item? (q ++ [Layout.projectFileName]) with
      | some i => .ok i
      | none => .error .notFound := by
  rw [Layout.projectFile, Disk.find_join isName_projectFileName, h]
  rfl

theorem write_projectFile_of_enter {q : Place} (h : d.enter l.folder = .ok q) (content : ByteArray) :
    d.write l.projectFile content =
      if d.item? (q ++ [Layout.projectFileName]) = some .folder then .error .isFolder
      else .ok (d.put (q ++ [Layout.projectFileName]) (.file content)) := by
  rw [Layout.projectFile, Disk.write_join isName_projectFileName, h]
  rfl

/-- Only where the folder is there, and no folder in the place of the file, the file is written; what
stood there before does not matter. -/
theorem write_projectFile_eq_ok (content : ByteArray) (hq : ∃ q, d.enter l.folder = .ok q)
    (hn : d.find l.projectFile ≠ .ok .folder) : ∃ d', d.write l.projectFile content = .ok d' := by
  obtain ⟨q, hq⟩ := hq
  rw [find_projectFile_of_enter hq] at hn
  rw [write_projectFile_of_enter hq, if_neg fun h => hn (by simp [h])]
  exact ⟨_, rfl⟩

theorem find_of_write_error {content : ByteArray} {e : DiskFault}
    (h : d.write l.projectFile content = .error e) (bytes : ByteArray) :
    d.find l.projectFile ≠ .ok (.file bytes) := by
  intro hf
  obtain ⟨d', hw⟩ := write_projectFile_eq_ok content (enter_of_find hf) (by simp [hf])
  simp [hw] at h

theorem find_of_makeFolders_error {e : DiskFault} (h : d.makeFolders l.folder = (.error e, made))
    (bytes : ByteArray) : made.find l.projectFile ≠ .ok (.file bytes) := by
  intro hf
  obtain ⟨q, hq⟩ := enter_of_find hf
  exact Disk.enter_of_makeFolders_error h hq

def saved (l : Layout) (p : Project) (d : Disk) (now : Instant) : Except Failure Project × Disk :=
  match d.makeFolders l.folder with
  | (.error e, made) => (.error (.onDisk .makeFolder l.folder e), made)
  | (.ok (), made) =>
    match made.write l.projectFile (p.stamped now).toText.toUTF8 with
    | .error e => (.error (.onDisk .openForWriting l.projectFile e), made)
    | .ok d => (.ok (p.stamped now), d)

theorem performs_save (l : Layout) (p : Project) : Performs (save l p) (saved l p) := by
  intro w
  rw [exec_save, saved]
  cases w.disk.makeFolders l.folder with
  | mk r made =>
    cases r with
    | error e => exact ⟨rfl, rfl, rfl⟩
    | ok u =>
      simp only
      cases made.write l.projectFile (p.stamped w.now).toText.toUTF8 <;> exact ⟨rfl, rfl, rfl⟩

/-- A save writes the stamped project, or leaves no project file. -/
theorem saved_cases (l : Layout) (p : Project) (d : Disk) (now : Instant) :
    (∃ made, saved l p d now = (.ok (p.stamped now), made) ∧
      made.find l.projectFile = .ok (.file (p.stamped now).toText.toUTF8)) ∨
    ∃ e made, saved l p d now = (.error e, made) ∧
      ∀ bytes, made.find l.projectFile ≠ .ok (.file bytes) := by
  rw [saved]
  cases hm : d.makeFolders l.folder with
  | mk r made =>
    cases r with
    | error e => exact Or.inr ⟨_, _, rfl, find_of_makeFolders_error hm⟩
    | ok u =>
      cases hw : made.write l.projectFile (p.stamped now).toText.toUTF8 with
      | error e =>
        simp only [hw]
        exact Or.inr ⟨_, _, rfl, find_of_write_error hw⟩
      | ok d =>
        simp only [hw]
        exact Or.inl ⟨_, rfl, Disk.find_of_write hw⟩

theorem saved_of_find {bytes : ByteArray} (h : d.find l.projectFile = .ok (.file bytes)) (p : Project)
    (now : Instant) :
    ∃ place, d.walk (d.start l.projectFile) l.projectFile.steps = .ok place ∧
      saved l p d now =
        (.ok (p.stamped now), d.put place (.file (p.stamped now).toText.toUTF8)) := by
  obtain ⟨q, hq⟩ := enter_of_find h
  rw [find_projectFile_of_enter hq] at h
  cases hi : d.item? (q ++ [Layout.projectFileName]) with
  | none => simp [hi] at h
  | some item =>
    obtain rfl : item = .file bytes := by simpa [hi] using h
    refine ⟨_, Disk.walk_join isName_projectFileName hq (by simp [hi]), ?_⟩
    rw [saved, Disk.makeFolders_of_enter hq]
    simp only [write_projectFile_of_enter hq, hi, Option.some.injEq, reduceCtorEq, if_false]

/-- Where the project file can be written, a save makes the folder and puts the file into it; what stood in
its place, if anything, was no folder. -/
theorem saved_eq_put (h : l.Writable d) :
    ∃ place, (d.makeFolders l.folder).2.enter l.folder = .ok place ∧
      (d.makeFolders l.folder).2.item? (place ++ [Layout.projectFileName]) ≠ some .folder ∧
      ∀ p now, saved l p d now =
        (.ok (p.stamped now), (d.makeFolders l.folder).2.put (place ++ [Layout.projectFileName])
          (.file (p.stamped now).toText.toUTF8)) := by
  cases hm : d.makeFolders l.folder with
  | mk r made =>
    obtain ⟨hr, ⟨place, hent⟩, hfile⟩ := h
    rw [hm] at hr hent hfile
    obtain rfl : r = .ok () := hr
    have hfree : made.item? (place ++ [Layout.projectFileName]) ≠ some .folder := by
      intro hi
      rw [find_projectFile_of_enter hent, hi] at hfile
      exact hfile rfl
    refine ⟨place, hent, hfree, fun p now => ?_⟩
    simp only [saved, hm, write_projectFile_of_enter hent, if_neg hfree]

theorem saved_of_writable (h : l.Writable d) (p : Project) (now : Instant) :
    ∃ made, saved l p d now = (.ok (p.stamped now), made) ∧
      made.find l.projectFile = .ok (.file (p.stamped now).toText.toUTF8) := by
  obtain ⟨place, hent, hfree, hs⟩ := saved_eq_put h
  have hw := (write_projectFile_of_enter hent (p.stamped now).toText.toUTF8).trans (if_neg hfree)
  exact ⟨_, hs p now, Disk.find_of_write hw⟩

theorem save_of_writable (h : l.Writable w.disk) (p : Project) :
    ∃ next, exec (save l p) w = (.ok (p.stamped w.now), next) ∧ next.now = w.now ∧
      next.disk.find l.projectFile =
        .ok (.file (p.stamped w.now).toText.toUTF8) := by
  obtain ⟨made, hs, hf⟩ := saved_of_writable h p w.now
  obtain ⟨next, hx, rfl, hn⟩ := (performs_save l p).exec_eq hs
  exact ⟨next, hx, hn, hf⟩

end Store

namespace Layout.Writable

variable {l : Layout} {d : Disk}

theorem of_enter {q : Place} (hq : d.enter l.folder = .ok q) (hn : d.find l.projectFile ≠ .ok .folder) :
    l.Writable d where
  made := by rw [Disk.makeFolders_of_enter hq]
  entered := by rw [Disk.makeFolders_of_enter hq]; exact ⟨q, hq⟩
  no_folder := by rw [Disk.makeFolders_of_enter hq]; exact hn

theorem of_made (ht : l.folder.text ≠ "") (hm : (d.makeFolders l.folder).1 = .ok ())
    (hn : (d.makeFolders l.folder).2.find l.projectFile ≠ .ok .folder) : l.Writable d where
  made := hm
  entered := Disk.enter_of_makeFolders ht (Prod.ext hm rfl)
  no_folder := hn

theorem of_file {bytes : ByteArray} (h : d.find l.projectFile = .ok (.file bytes)) : l.Writable d := by
  obtain ⟨q, hq⟩ := Store.enter_of_find h
  exact of_enter hq (by simp [h])

theorem of_save {p q : Project} {w next : Surroundings} (h : exec (Store.save l p) w = (.ok q, next)) :
    l.Writable w.disk := by
  rw [Store.exec_save] at h
  cases hm : w.disk.makeFolders l.folder with
  | mk r made =>
    cases r with
    | error e => simp [hm] at h
    | ok u =>
      cases hw : made.write l.projectFile (p.stamped w.now).toText.toUTF8 with
      | error e => simp only [hm, hw] at h; simp at h
      | ok d =>
        rw [projectFile, Disk.write_join isName_projectFileName] at hw
        cases hq : made.enter l.folder with
        | error e => simp [hq, Except.bind] at hw
        | ok q =>
          simp only [hq, Except.bind] at hw
          split at hw
          · simp at hw
          · next hi =>
            refine ⟨by rw [hm], ⟨q, by rw [hm]; exact hq⟩, ?_⟩
            rw [hm, Store.find_projectFile_of_enter hq]
            cases hf : made.item? (q ++ [projectFileName]) <;> simp_all

end Layout.Writable

end StageGate
