import StageGate.Proofs.Store.Basic

/-!
Saving and loading. A save gives a project that later loads give back, whatever the file held before;
from then on, saving what was loaded at the same time of the clock leaves the disk as it is.
-/

set_option autoImplicit false

namespace StageGate

namespace Disk

theorem put_of_item? {d : Disk} {place : Place} {item : Item} (hp : place ≠ [])
    (h : d.item? place = some item) : d.put place item = d := by
  have hb : (fun q => if q = place then some item else d.below q) = d.below := by
    funext q
    split
    · next hq => simp_all [item?]
    · rfl
  rw [put, hb]

end Disk

namespace Store

open Session

variable {l : Layout} {d : Disk} {p : Project} {w : Surroundings}

def resave (l : Layout) : Nat → Session Unit
  | 0 => return ()
  | n + 1 => do
    let _ ← save l (← load l)
    resave l n

theorem write_of_find {content : ByteArray} (h : d.find l.projectFile = .ok (.file content)) :
    d.write l.projectFile content = .ok d := by
  obtain ⟨q, hq⟩ := enter_of_find h
  rw [find_projectFile_of_enter hq] at h
  have hi : d.item? (q ++ [Layout.projectFileName]) = some (.file content) := by
    cases hi : d.item? (q ++ [Layout.projectFileName]) <;> simp_all
  rw [write_projectFile_of_enter hq, if_neg (by simp [hi]), Disk.put_of_item? (by simp) hi]

theorem exec_save_of_stamped (h : w.disk.find l.projectFile = .ok (.file p.toText.toUTF8))
    (hp : p.updatedAt = w.now) :
    ∃ next, exec (save l p) w = (.ok p, next) ∧ next.disk = w.disk ∧ next.now = w.now := by
  obtain ⟨q, hq⟩ := enter_of_find h
  have hs : p.stamped w.now = p := by rw [← hp]; rfl
  rw [exec_save, Disk.makeFolders_of_enter hq, hs]
  simp only [write_of_find h]
  exact ⟨_, rfl, rfl, rfl⟩

theorem exec_resave_succ {p p' : Project} {n : Nat} {saved : Surroundings}
    (h : ∃ loaded, exec (load l) w = (.ok p, loaded) ∧ exec (save l p) loaded = (.ok p', saved)) :
    exec (resave l (n + 1)) w = exec (resave l n) saved := by
  obtain ⟨loaded, hl, hs⟩ := h
  simp [resave, exec_bind, hl, hs]

/-- The second time and every later one, what is written is what stands there. -/
theorem exec_resave_of_stamped (h : w.disk.find l.projectFile = .ok (.file p.toText.toUTF8))
    (hp : p.updatedAt = w.now) (n : Nat) :
    ∃ next, exec (resave l n) w = (.ok (), next) ∧ next.disk = w.disk := by
  induction n generalizing w with
  | zero => exact ⟨w, rfl, rfl⟩
  | succ n ih =>
    obtain ⟨loaded, hl, hd, ht⟩ := (computes_load l).ok (read_of_find h)
    obtain ⟨saved, hs, hd', ht'⟩ := exec_save_of_stamped (w := loaded) (hd ▸ h) (hp.trans ht.symm)
    obtain ⟨next, hn, hd''⟩ := ih (w := saved) (by rw [hd', hd]; exact h) (by rw [ht', ht]; exact hp)
    exact ⟨next, (exec_resave_succ ⟨loaded, hl, hs⟩).trans hn, by rw [hd'', hd', hd]⟩

/-- A save succeeds wherever the project file can be written, whatever it held before, and a saved
project is loaded as it was saved, stamped with the time of the clock. Once a project has been loaded and
saved, doing so again at the same time leaves the disk as it is. -/
theorem load_of_save (l : Layout) (w : Surroundings) :
    (∀ p : Project, ((∃ q next, exec (save l p) w = (.ok q, next)) ↔ l.Writable w.disk) ∧
      ∀ q next, exec (save l p) w = (.ok q, next) → q = { p with updatedAt := w.now } ∧
        ∀ later : Surroundings, later.disk = next.disk →
          (exec (load l) later).1 = .ok { p with updatedAt := w.now }) ∧
    ∀ p : Project, (exec (load l) w).1 = .ok p →
      ∃ first : Disk,
        first.find l.projectFile =
          .ok (.file ({ p with updatedAt := w.now } : Project).toText.toUTF8) ∧
        ∀ n, ∃ next, exec (resave l (n + 1)) w = (.ok (), next) ∧ next.disk = first := by
  constructor
  · refine fun p => ⟨⟨fun ⟨q, next, hs⟩ => .of_save hs, fun h => ?_⟩, fun q next hs => ?_⟩
    · obtain ⟨next, hs, -⟩ := save_of_writable h p
      exact ⟨_, next, hs⟩
    · obtain ⟨next', hs', -, hf⟩ := save_of_writable (.of_save hs) p
      obtain ⟨⟨⟩, ⟨⟩⟩ := Prod.mk.inj (hs'.symm.trans hs)
      refine ⟨rfl, fun later hd => ?_⟩
      rw [(computes_load l later).1, hd]
      exact read_of_find hf
  · intro p hp
    have hr : read l w.disk = .ok p := (computes_load l w).1.symm.trans hp
    obtain ⟨bytes, hb⟩ := find_of_read hr
    obtain ⟨loaded, hl, hd, ht⟩ := (computes_load l).ok hr
    obtain ⟨saved, hs, ht', hf⟩ := save_of_writable (w := loaded) (.of_file (hd ▸ hb)) p
    rw [ht] at hf
    refine ⟨saved.disk, hf, fun n => ?_⟩
    obtain ⟨next, hn, hd'⟩ := exec_resave_of_stamped hf (ht.symm.trans ht'.symm) n
    exact ⟨next, (exec_resave_succ ⟨loaded, hl, hs⟩).trans hn, hd'⟩

def halfWritten : Disk :=
  ((Disk.empty ["root"]).put ["root", "sdd"] .folder).put ["root", "sdd", "sdd.json"]
    (.file "\x7b".toUTF8)

def leapSecond : Instant :=
  ⟨⟨2016, 12, 31, by decide⟩, 86399, 1500000000, by decide, by decide, by decide⟩

/-- No command makes such a project. -/
def strange : Project where
  name := "a \"quoted\" name\n\u0007"
  description := ""
  version := "\\"
  mode := .expert
  stage := .init
  createdAt := leapSecond
  updatedAt := leapSecond
  entries := fun s => ⟨.skipped, none, if s.isFinal then some leapSecond else none, 0xFFFFFFFF⟩
  score := 255

theorem load_of_save_strange :
    let l := Layout.standard ⟨""⟩
    let w := Session.fresh halfWritten leapSecond
    l.Writable w.disk ∧ ∃ next, exec (save l strange) w = (.ok strange, next) ∧
      (exec (load l) next).1 = .ok strange ∧
      ∃ first : Disk, ∀ n, ∃ last, exec (resave l (n + 1)) next = (.ok (), last) ∧
        last.disk = first := by
  intro l w
  have hf : w.disk.find l.projectFile = .ok (.file "\x7b".toUTF8) := by decide +kernel
  have h : l.Writable w.disk := .of_file hf
  obtain ⟨q, next, hs⟩ := ((load_of_save l w).1 strange).1.2 h
  obtain ⟨rfl, hl⟩ := ((load_of_save l w).1 strange).2 q next hs
  obtain ⟨first, -, hf⟩ := (load_of_save l next).2 strange (hl next rfl)
  exact ⟨h, next, hs, hl next rfl, first, hf⟩

end Store

end StageGate
