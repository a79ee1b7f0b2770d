import StageGate.Proofs.Json.Cut
import StageGate.Proofs.Store.RoundTrip

/-!
Project files that are not written to their end. A save writes the text of a project over what the file
held before, so one that is stopped leaves the beginning of that text. A load never takes it for a
project: either it ends within a character, or the object that it begins is never closed.
-/

set_option autoImplicit false

namespace StageGate

namespace Text

theorem exists_append_of_extract {text front : String} {n : Nat} (hn : n < text.toUTF8.size)
    (h : String.fromUTF8? (text.toUTF8.extract 0 n) = some front) :
    ∃ more, more ≠ [] ∧ front.toList ++ more = text.toList := by
  have hf : front.toByteArray = text.toUTF8.extract 0 n := by
    unfold String.fromUTF8? at h
    split at h
    · cases h
      rfl
    · cases h
  have ha : front.toList.utf8Encode ++ text.toUTF8.extract n text.toUTF8.size =
      text.toList.utf8Encode := by
    rw [String.utf8Encode_toList, String.utf8Encode_toList, hf,
      ← ByteArray.extract_eq_extract_append_extract n (by omega) (by omega),
      ByteArray.extract_zero_size, String.toUTF8_eq_toByteArray]
  obtain ⟨more, hm⟩ := List.isPrefix_of_utf8Encode_append_eq_utf8Encode _ ha
  refine ⟨more, ?_, hm⟩
  rintro rfl
  rw [List.append_nil] at hm
  have hs := congrArg ByteArray.size (hf.symm.trans (congrArg String.toByteArray (String.toList_inj.1 hm)))
  rw [ByteArray.size_extract, ← String.toUTF8_eq_toByteArray] at hs
  omega

end Text

/-- A text that lacks the end of a project's text is no JSON. -/
theorem Project.ofText_of_cut (p : Project) {text : String} {more : List Char} (hm : more ≠ [])
    (ht : text.toList ++ more = p.toText.toList) : ofText text = .error .notJson := by
  have hw : text.toList ++ more = Json.write 0 p.toJson := by
    rw [ht, toText, Json.pretty, String.toList_ofList]
  rw [ofText, Json.parse?_of_cut (p.plain_toJson 124) hm hw]

namespace Store

open Session

theorem read_of_torn {l : Layout} {d : Disk} {p : Project} {n : Nat} (hn : n < p.toText.toUTF8.size)
    (hf : d.find l.projectFile = .ok (.file (p.toText.toUTF8.extract 0 n))) :
    read l d = .error (if (String.fromUTF8? (p.toText.toUTF8.extract 0 n)).isSome
      then .badProject l.projectFile .notJson else .onDisk .readFile l.projectFile .notText) := by
  cases ht : String.fromUTF8? (p.toText.toUTF8.extract 0 n) with
  | none =>
    simp only [read, hf, Disk.textOf, ht, Option.isSome_none, Bool.false_eq_true, if_false]
  | some front =>
    obtain ⟨more, hm, ha⟩ := Text.exists_append_of_extract hn ht
    simp only [read, hf, Disk.textOf, ht, p.ofText_of_cut hm ha, mapError_error, Option.isSome_some,
      if_true]

/-- Where less than the whole of what a save writes stands in the project file, cut off at any byte, a
load fails: what is left is not a text or, if it is, not JSON. -/
theorem load_of_torn (l : Layout) (p : Project) (w : Surroundings) :
    let written := ({ p with updatedAt := w.now } : Project).toText.toUTF8
    (∀ q next, exec (save l p) w = (.ok q, next) →
      next.disk.find l.projectFile = .ok (.file written)) ∧
    ∀ n < written.size, ∀ later : Surroundings,
      later.disk.find l.projectFile = .ok (.file (written.extract 0 n)) →
      (exec (load l) later).1 = .error (if (String.fromUTF8? (written.extract 0 n)).isSome
        then .badProject l.projectFile .notJson else .onDisk .readFile l.projectFile .notText) := by
  intro written
  constructor
  · intro q next hs
    obtain ⟨next', hs', -, hf⟩ := save_of_writable (.of_save hs) p
    obtain ⟨-, rfl⟩ := Prod.mk.inj (hs'.symm.trans hs)
    exact hf
  · intro n hn later hf
    rw [(computes_load l later).1]
    exact read_of_torn hn hf

def holding (bytes : ByteArray) : Disk :=
  ((Disk.empty ["root"]).put ["root", "sdd"] .folder).put ["root", "sdd", "sdd.json"] (.file bytes)

theorem find_holding (bytes : ByteArray) :
    (holding bytes).find (Layout.standard ⟨""⟩).projectFile = .ok (.file bytes) := rfl

theorem find_halfWritten :
    halfWritten.find (Layout.standard ⟨""⟩).projectFile = .ok (.file "\x7b".toUTF8) := by
  decide +kernel

/-- The fourteenth byte of its text is the first one of a letter that has two. -/
def ears : Project := { strange with name := "ährenbäckerei" }

theorem updatedAt_ears :
    ({ ears with updatedAt := (fresh halfWritten leapSecond).now } : Project) = ears := rfl

theorem save_ears : ∃ next, exec (save (Layout.standard ⟨""⟩) ears) (fresh halfWritten leapSecond) =
    (.ok ears, next) := by
  have hw : (Layout.standard ⟨""⟩).Writable (fresh halfWritten leapSecond).disk :=
    .of_file find_halfWritten
  obtain ⟨next, hs, -⟩ := save_of_writable hw ears
  rw [Project.stamped, updatedAt_ears] at hs
  exact ⟨next, hs⟩

theorem toText_ears : ∃ tail, ears.toText = "\x7b\n  \"name\": \"ä" ++ tail := by
  have hw : ∃ tail, Json.write 0 ears.toJson = "\x7b\n  \"name\": \"ä".toList ++ tail := ⟨_, rfl⟩
  obtain ⟨tail, hw⟩ := hw
  exact ⟨.ofList tail, by rw [Project.toText, Json.pretty, hw, String.ofList_append, String.ofList_toList]⟩

theorem load_of_torn_ears :
    let l := Layout.standard ⟨""⟩
    let written := ears.toText.toUTF8
    let later := fresh (holding (written.extract 0 14)) leapSecond
    (∃ next, exec (save l ears) (fresh halfWritten leapSecond) = (.ok ears, next) ∧
      next.disk.find l.projectFile = .ok (.file written)) ∧
    14 < written.size ∧ later.disk.find l.projectFile = .ok (.file (written.extract 0 14)) ∧
      (exec (load l) later).1 = .error (.onDisk .readFile l.projectFile .notText) := by
  intro l written later
  obtain ⟨next, hsave⟩ := save_ears
  have hfile := (load_of_torn l ears (fresh halfWritten leapSecond)).1 ears next hsave
  rw [updatedAt_ears] at hfile
  obtain ⟨tail, ht⟩ := toText_ears
  generalize hf : "\x7b\n  \"name\": \"ä".toUTF8 = front at *
  have hw : written = front ++ tail.toUTF8 := by
    simp only [written, ht, String.toUTF8_eq_toByteArray, String.toByteArray_append] at hf ⊢
    rw [hf]
  have hs : front.size = 15 := by subst hf; decide +kernel
  have hn : 14 < written.size := by
    rw [hw, ByteArray.size_append]
    omega
  have hx : written.extract 0 14 = front.extract 0 14 := by
    rw [hw, ByteArray.extract_append, hs]
    simp
  have hu : (String.fromUTF8? (written.extract 0 14)).isSome = false := by
    rw [hx]
    subst hf
    decide +kernel
  refine ⟨⟨next, hsave, hfile⟩, hn, find_holding _, ?_⟩
  have h := (load_of_torn l ears later).2 14 hn later (find_holding _)
  rwa [if_neg] at h
  exact Bool.eq_false_iff.1 hu

end Store

end StageGate
