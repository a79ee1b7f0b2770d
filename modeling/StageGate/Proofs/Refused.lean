import Mathlib.Data.List.Forall2
import StageGate.Proofs.Disk.Growth
import StageGate.Proofs.Run

/-!
Refused commands. A command that needs a project saves it only when nothing can fail any more, so with
an error it leaves the disk as it was. Init can fail while it saves; then it has made folders at most.
Hence a run goes on as if the refused commands other than init had not been called.
-/

set_option autoImplicit false

namespace StageGate

open Session Store

variable {l : Layout} {d made : Disk} {p : Project} {now : Instant} {w v : Surroundings}

theorem Store.grows_of_saved_error {e : Failure} (h : saved l p d now = (.error e, made)) :
    d.Grows made := by
  have hg := Disk.Grows.of_makeFolders d l.folder
  rw [saved] at h
  split at h
  · next hm =>
    cases h
    rwa [hm] at hg
  · next hm =>
    rw [hm] at hg
    split at h
    · cases h
      exact hg
    · cases h

namespace Command

variable {c : Command}

theorem performed_of_error {e : Failure} (hi : c.isInit = false)
    (h : (performed l d now c).1 = .error e) : (performed l d now c).2 = d := by
  by_cases hs : c = status
  · rw [hs, performed_status]
  cases hp : prepared l d now c with
  | error e => rw [performed_of_prepared_error hp]
  | ok r =>
    obtain ⟨p, hr, -⟩ :=
      bind_eq_ok.1 ((prepared_of_isRevision (isRevision_of_ne hi hs)).symm.trans hp)
    obtain ⟨made, hm, -⟩ := committed_of_writable (writable_of_read hr) r now
    rw [performed_of_prepared_ok hp hs, hm] at h
    cases h

theorem grows_of_performed_error {e : Failure} (h : (performed l d now c).1 = .error e) :
    d.Grows (performed l d now c).2 := by
  by_cases hs : c = status
  · rw [hs, performed_status]
    exact .refl d
  cases hp : prepared l d now c with
  | error e =>
    rw [performed_of_prepared_error hp]
    exact .refl d
  | ok r =>
    rw [performed_of_prepared_ok hp hs] at h ⊢
    exact grows_of_saved_error (committed_eq_error h)

end Command

namespace Call

/-- The call was refused, and it was not one of init. -/
def isVain (c : Call) : Bool := !c.command.isInit && !c.result.isOk

end Call

theorem Move.next_of_isVain {m : Move} (h : (m.call? l w).any Call.isVain = true) :
    w.Alike (m.next l w) := by
  cases m with
  | call c =>
    simp only [call?, Option.any_some, Call.isVain, Bool.and_eq_true, Bool.not_eq_true'] at h
    obtain ⟨hi, hr⟩ := h
    rw [Command.call_result] at hr
    cases hp : (Command.performed l w.disk w.now c).1 with
    | error e =>
      exact ⟨(Command.call_disk l c w).trans (Command.performed_of_error hi hp), Command.call_now l c w⟩
    | ok o => simp [hp] at hr
  | clock now => simp [call?] at h
  | work change => simp [call?] at h

namespace Run

/-- A run without its calls that were refused, but for those of init. -/
def withoutRefused (l : Layout) (w : Surroundings) : List Move → List Move
  | [] => []
  | m :: ms =>
    if (m.call? l w).any Call.isVain then withoutRefused l (m.next l w) ms
    else m :: withoutRefused l (m.next l w) ms

theorem filter_call? (l : Layout) (w : Surroundings) (m : Move) :
    (m.call? l w).toList.filter (fun c => !c.isVain) =
      if (m.call? l w).any Call.isVain then [] else (m.call? l w).toList := by
  cases m with
  | call c => cases h : (c.call l w).isVain <;> simp [Move.call?, h]
  | clock now => rfl
  | work change => rfl

theorem call?_alike (h : w.Alike v) (m : Move) :
    List.Forall₂ Call.Alike (m.call? l w).toList (m.call? l v).toList := by
  cases m with
  | call c => exact .cons (Command.call_alike h l c) .nil
  | clock now => exact .nil
  | work change => exact .nil

theorem withoutRefused_alike (h : w.Alike v) (ms : List Move) :
    List.Forall₂ Call.Alike ((calls l w ms).filter fun c => !c.isVain)
      (calls l v (withoutRefused l w ms)) ∧
    (ending l w ms).Alike (ending l v (withoutRefused l w ms)) := by
  induction ms generalizing w v with
  | nil => exact ⟨.nil, h⟩
  | cons m ms ih =>
    rw [withoutRefused]
    by_cases hv : (m.call? l w).any Call.isVain = true
    -- the move is left out: the second run stays where it is, and so does the first for all that it sees
    · have hn := Move.next_of_isVain hv
      rw [if_pos hv, calls, List.filter_append, filter_call?, if_pos hv]
      exact ih ⟨h.disk.trans hn.disk.symm, h.now.trans hn.now.symm⟩
    · obtain ⟨hc, he⟩ := ih (Move.next_alike h l m)
      rw [if_neg hv, calls, List.filter_append, filter_call?, if_neg hv]
      exact ⟨List.rel_append (call?_alike h m) hc, he⟩

/-- A command other than init that is refused leaves the disk as it was, status always does, and init makes
folders at most when it is refused. A run goes the same way without the refused calls of all commands but
init. -/
theorem refused_leave_no_trace (l : Layout) :
    (∀ (c : Command) (w : Surroundings) (e : Failure), c.isInit = false →
      (c.call l w).result = .error e → (c.call l w).after.disk = w.disk) ∧
    (∀ w : Surroundings, (Command.status.call l w).after.disk = w.disk) ∧
    (∀ (name description : String) (mode : Mode) (w : Surroundings) (e : Failure),
      ((Command.init name description mode).call l w).result = .error e →
        w.disk.Grows ((Command.init name description mode).call l w).after.disk ∧
        ∀ place bytes,
          ((Command.init name description mode).call l w).after.disk.item? place = some (.file bytes) ↔
            w.disk.item? place = some (.file bytes)) ∧
    (∀ (w : Surroundings) (ms : List Move),
      List.Forall₂ Call.Alike ((calls l w ms).filter fun c => !c.isVain)
        (calls l w (withoutRefused l w ms)) ∧
      (ending l w (withoutRefused l w ms)).disk = (ending l w ms).disk) := by
  refine ⟨fun c w e hi he => ?_, fun w => ?_, fun name description mode w e he => ?_, fun w ms => ?_⟩
  · rw [Command.call_result] at he
    rw [Command.call_disk]
    exact Command.performed_of_error hi he
  · rw [Command.call_disk, Command.performed_status]
  · rw [Command.call_result] at he
    have hg := Command.grows_of_performed_error he
    rw [Command.call_disk]
    exact ⟨hg, fun place bytes => hg.item?_eq_file⟩
  · obtain ⟨hc, he⟩ := withoutRefused_alike (l := l) (w := w) ⟨rfl, rfl⟩ ms
    exact ⟨hc, he.disk⟩

theorem exists_error {α : Type} {r : Except Failure α} (h : r.isOk = false) : ∃ e, r = .error e := by
  cases r with
  | error e => exact ⟨e, rfl⟩
  | ok a => simp at h

def filedRoot : Surroundings := fresh (emptyRoot.put ["root", "kept"] (.file "notes".toUTF8)) newYear

/-- Init makes the folder `new` before it finds that it cannot make the next one. -/
theorem refused_leave_no_trace_filedRoot :
    let l := Layout.of ⟨""⟩ "new/../kept/sdd"
    let begins := Command.init "shop" "a shop" .guided
    (∃ e, (Command.validate.call l filedRoot).result = .error e) ∧
    (Command.validate.call l filedRoot).after.disk = filedRoot.disk ∧
    (∃ e, (begins.call l filedRoot).result = .error e) ∧
    filedRoot.disk.Grows (begins.call l filedRoot).after.disk ∧
    (begins.call l filedRoot).after.disk.item? ["root", "new"] = some .folder := by
  intro l begins
  obtain ⟨e, hv⟩ := exists_error (r := (Command.validate.call l filedRoot).result) (by decide +kernel)
  obtain ⟨e', hb⟩ := exists_error (r := (begins.call l filedRoot).result) (by decide +kernel)
  obtain ⟨hrefused, -, hinit, -⟩ := refused_leave_no_trace l
  exact ⟨⟨e, hv⟩, hrefused .validate filedRoot e rfl hv, ⟨e', hb⟩,
    (hinit "shop" "a shop" .guided filedRoot e' hb).1, by decide +kernel⟩

end Run

end StageGate
