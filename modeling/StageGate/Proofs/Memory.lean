import StageGate.Proofs.Artifacts
import StageGate.Proofs.Run
import StageGate.Proofs.Store.RoundTrip

/-!
Keeping a project in memory. A machine that holds the project itself, and no file of it, gives the same
results as the commands do, and what it holds is what they would load. It works on a copy of its project
and takes over the copy only when the command succeeds; the documents it reads where they are.
-/

set_option autoImplicit false

namespace StageGate

open Session Store

namespace Memory

variable {l : Layout} {d : Disk} {now : Instant} {m : Option Project}

/-- What a command makes of a copy of the project in memory. -/
def attempt (l : Layout) (documents : Disk) (now : Instant) (m : Option Project) :
    Command → Except Failure (Project × Outcome)
  | .init name description mode =>
    if Text.trimmed name = "" then .error .blankName
    else if Text.trimmed description = "" then .error .blankDescription
    else match m with
      | some _ => .error (.alreadyInitialized l.projectFile)
      | none => .ok (Project.create (Text.trimmed name) (Text.trimmed description) mode now, .done)
  | c => match m with
    | some p => c.change l documents now p
    | none => .error (.notInitialized l.projectFile)

def step (l : Layout) (documents : Disk) (now : Instant) (m : Option Project) (c : Command) :
    Except Failure Outcome × Option Project :=
  match attempt l documents now m c with
  | .error e => (.error e, m)
  | .ok (p, o) => (.ok o, if c = .status then m else some (p.stamped now))

/-- The machine looks at no file but the documents. -/
theorem step_congr {d' : Disk}
    (h : ∀ s path, l.artifact? s = some path → d'.readText path = d.readText path)
    (now : Instant) (m : Option Project) (c : Command) : step l d' now m c = step l d now m c := by
  have hfault : Command.artifactsFault l d' = Command.artifactsFault l d :=
    Command.artifactsFault_congr fun s _ => h s
  have hattempt : attempt l d' now m c = attempt l d now m c := by
    cases m with
    | none => cases c <;> rfl
    | some p =>
      cases c with
      | validate => simp only [attempt, Command.change, hfault]
      | _ => rfl
  rw [step, step, hattempt]

def results (l : Layout) (m : Option Project) : List Call → List (Except Failure Outcome)
  | [] => []
  | c :: cs =>
    let next := step l c.before.disk c.before.now m c.command
    next.1 :: results l next.2 cs

def after (l : Layout) (m : Option Project) : List Call → Option Project
  | [] => m
  | c :: cs => after l (step l c.before.disk c.before.now m c.command).2 cs

/-! ### The disk holds what is in memory -/

/-- The project in memory is the one on the disk; where there is none, one can be made. -/
def Held (l : Layout) (d : Disk) : Option Project → Prop
  | some p => read l d = .ok p
  | none => d.exists l.projectFile = false ∧ l.Writable d

namespace Held

theorem writable (h : Held l d m) : l.Writable d := by
  cases m with
  | none => exact h.2
  | some p => exact writable_of_read h

theorem exists_eq (h : Held l d m) : d.exists l.projectFile = m.isSome := by
  cases m with
  | none => exact h.1
  | some p => exact exists_of_read h

theorem read_eq (h : Held l d m) : read l d = m.elim (.error (.notInitialized l.projectFile)) .ok := by
  cases m with
  | none =>
    have hn := h.1
    cases hf : d.find l.projectFile with
    | error e => simp [Store.read, hf]
    | ok item => simp [Disk.exists, hf] at hn
  | some p => exact h

theorem prepared_eq (h : Held l d m) (now : Instant) (c : Command) :
    c.prepared l d now = attempt l d now m c := by
  have hr := h.read_eq
  have he := h.exists_eq
  cases m with
  | none => cases c <;> simp [Command.prepared, attempt, hr, he, Except.bind]
  | some p => cases c <;> simp [Command.prepared, attempt, hr, he, Except.bind]

theorem step (h : Held l d m) (now : Instant) (c : Command) :
    (c.performed l d now).1 = (Memory.step l d now m c).1 ∧
      Held l (c.performed l d now).2 (Memory.step l d now m c).2 := by
  rw [Command.performed, Memory.step, h.prepared_eq]
  cases attempt l d now m c with
  | error e => exact ⟨rfl, h⟩
  | ok r =>
    simp only
    split
    · exact ⟨rfl, h⟩
    · obtain ⟨made, hm, hr⟩ := Command.committed_of_writable h.writable r now
      rw [hm]
      exact ⟨rfl, hr⟩

end Held

/-! ### Runs -/

/-- The project file stays as it is, and nothing comes in the way of one that is still to be made. -/
structure Harmless (l : Layout) (d d' : Disk) : Prop where
  untouched : Untouched l d d'
  writable : l.Writable d → l.Writable d'

namespace Held

theorem harmless {d' : Disk} (hd : Harmless l d d') (h : Held l d m) : Held l d' m := by
  cases m with
  | none =>
    refine ⟨?_, hd.writable h.2⟩
    have hu := hd.untouched
    have hn := h.1
    rw [Untouched] at hu
    cases hf : d.find l.projectFile <;> cases hf' : d'.find l.projectFile <;>
      simp_all [Disk.exists, Except.toOption]
  | some p => exact (read_congr hd.untouched).trans h

theorem run {w : Surroundings} {ms : List Move} (h : Held l w.disk m)
    (hw : ∀ change, Move.work change ∈ ms → ∀ d, Harmless l d (change d)) :
    (Run.calls l w ms).map (·.result) = results l m (Run.calls l w ms) ∧
      Held l (Run.ending l w ms).disk (after l m (Run.calls l w ms)) := by
  -- on the moves; what carries it from one to the next is that the disk holds what is in memory
  induction ms generalizing w m with
  | nil => exact ⟨rfl, h⟩
  | cons move ms ih =>
    have hms : ∀ change, Move.work change ∈ ms → ∀ d, Harmless l d (change d) :=
      fun change hc => hw change (List.mem_cons_of_mem _ hc)
    cases move with
    | call c =>
      obtain ⟨hr, hh⟩ := h.step w.now c
      rw [← Command.call_result] at hr
      rw [← Command.call_disk] at hh
      obtain ⟨hrs, he⟩ := ih hh hms
      refine ⟨?_, he⟩
      rw [Run.calls_call, List.map_cons, hr, hrs]
      rfl
    | clock now => exact ih h hms
    | work change => exact ih (h.harmless (hw change (by simp) _)) hms

end Held

/-! ### An empty root -/

def IsEmptyFolder (d : Disk) (root : Path) : Prop :=
  ∃ q, d.enter root = .ok q ∧ ∀ name rest, d.item? (q ++ name :: rest) = none

theorem isName_standardFolder : IsName Layout.standardFolder where
  ne_empty := by decide
  ne_dot := by decide
  ne_up := by decide
  no_slash := by decide

theorem missing_of_isEmptyFolder {root : Path} (h : IsEmptyFolder d root) :
    d.exists (Layout.standard root).projectFile = false := by
  obtain ⟨q, hq, hn⟩ := h
  have hfind : d.find (Layout.standard root).projectFile = .error .notFound := by
    rw [Layout.projectFile, Disk.find_join isName_projectFileName, Layout.standard, Layout.of,
      Disk.enter_join isName_standardFolder, hq]
    simp [Except.bind, hn _ []]
  simp [Disk.exists, hfind]

theorem made_of_isEmptyFolder {root : Path} (h : IsEmptyFolder d root) :
    ∃ made place, d.makeFolders (Layout.standard root).folder = (.ok (), made) ∧
      made.enter (Layout.standard root).folder = .ok place ∧
      ∀ name, made.item? (place ++ [name]) = none := by
  obtain ⟨q, hq, hn⟩ := h
  have hmissing : d.item? (q ++ [Layout.standardFolder]) = none := hn _ []
  refine ⟨d.put (q ++ [Layout.standardFolder]) .folder, q ++ [Layout.standardFolder], ?_, ?_,
    fun name => ?_⟩
  · have hmake := Disk.makeFolder_join isName_standardFolder d root
    simp only [hq, Except.bind, hmissing] at hmake
    rw [Layout.standard, Layout.of, Disk.makeFolders,
      if_neg (Path.text_join_ne isName_standardFolder root), Disk.makeFirst, hmake]
    rfl
  · have hq' : (d.put (q ++ [Layout.standardFolder]) .folder).enter root = .ok q :=
      Disk.walk_put (by simp [hmissing]) hq
    rw [Layout.standard, Layout.of, Disk.enter_join isName_standardFolder, hq']
    simp [Except.bind, Disk.item?_put_self, Disk.step_blank_eq_ok]
  · rw [Disk.item?_put_of_ne d _ (by simp), List.append_assoc]
    exact hn _ _

theorem writable_of_isEmptyFolder {root : Path} (h : IsEmptyFolder d root) :
    (Layout.standard root).Writable d := by
  obtain ⟨made, place, hmade, hent, hfree⟩ := made_of_isEmptyFolder h
  refine ⟨by rw [hmade], ⟨place, by rw [hmade]; exact hent⟩, ?_⟩
  rw [hmade, find_projectFile_of_enter hent, hfree]
  simp

theorem harmless_of_write_artifact {d' : Disk} {s : Stage} {path : Path} {content : ByteArray}
    (hp : l.artifact? s = some path) (h : d.write path content = .ok d') : Harmless l d d' where
  untouched := untouched_of_write_artifact hp h
  writable hw := by
    have hu := untouched_of_write_artifact hp h
    obtain ⟨name, -, hname, -, rfl⟩ := Layout.exists_name hp
    rw [Disk.write_join hname] at h
    cases he : d.enter l.folder with
    | error e => simp [he, Except.bind] at h
    | ok q =>
      simp only [he, Except.bind] at h
      split at h
      · cases h
      · next hf =>
        cases h
        refine .of_enter (Disk.walk_put hf he) fun hfolder => hw.no_folder ?_
        rw [Disk.makeFolders_of_enter he]
        rw [Untouched, hfolder] at hu
        cases hp : d.find l.projectFile <;> simp_all [Except.toOption]

/-- Commands, changes of the clock and work on other files, in a root that is empty at first: the
results are those that the machine gives, the project that is loaded then is the one that it holds, and
the store reports one exactly when it holds one. -/
theorem persistence_transparent {root : Path} {w : Surroundings} (hr : IsEmptyFolder w.disk root)
    {ms : List Move} (hw : ∀ change, Move.work change ∈ ms →
      ∀ d, Harmless (Layout.standard root) d (change d)) :
    let l := Layout.standard root
    let cs := Run.calls l w ms
    let last := Run.ending l w ms
    cs.map (·.result) = results l none cs ∧
    (exec (load l) last).1 =
      (after l none cs).elim (.error (.notInitialized l.projectFile)) .ok ∧
    (exec (isInitialized l) last).1 = .ok (after l none cs).isSome := by
  intro l cs last
  have hheld : Held l w.disk none := ⟨missing_of_isEmptyFolder hr, writable_of_isEmptyFolder hr⟩
  obtain ⟨hresults, hlast⟩ := hheld.run hw
  refine ⟨hresults, ?_, ?_⟩
  · rw [(computes_load l last).1]
    exact hlast.read_eq
  · show Except.ok (last.disk.exists l.projectFile) = _
    rw [hlast.exists_eq]

/-- What others leave when they write a file, or try to. -/
def written (path : Path) (content : ByteArray) (d : Disk) : Disk :=
  match d.write path content with
  | .ok made => made
  | .error _ => d

theorem harmless_written {s : Stage} {path : Path} (hp : l.artifact? s = some path)
    (content : ByteArray) (d : Disk) : Harmless l d (written path content d) := by
  rw [written]
  split
  · next h => exact harmless_of_write_artifact hp h
  · exact ⟨rfl, id⟩

theorem isEmptyFolder_emptyRoot : IsEmptyFolder emptyRoot ⟨""⟩ := by
  refine ⟨["root"], by decide, fun name rest => ?_⟩
  simp [emptyRoot, Disk.empty, Disk.item?]

/-- A first round on the proposal, with a command before there is a project and one that comes too
early. -/
def firstMoves : List Move :=
  [.call .status, .call (.init " shop " "a shop" .guided),
    .work (written ⟨"sdd/proposal.md"⟩ "why".toUTF8), .clock leapSecond, .call (.start .propose),
    .call (.clarify none), .call (.advance .propose)]

theorem harmless_of_mem_firstMoves {change : Disk → Disk} (h : Move.work change ∈ firstMoves) (d : Disk) :
    Harmless (Layout.standard ⟨""⟩) d (change d) := by
  obtain rfl : change = written ⟨"sdd/proposal.md"⟩ "why".toUTF8 := by
    simpa only [firstMoves, List.mem_cons, reduceCtorEq, Move.work.injEq, List.not_mem_nil, false_or,
      or_false] using h
  have hp : (Layout.standard ⟨""⟩).artifact? .propose = some ⟨"sdd/proposal.md"⟩ := by decide
  exact harmless_written hp _ d

theorem persistence_transparent_emptyRoot :
    let l := Layout.standard ⟨""⟩
    let cs := Run.calls l (fresh emptyRoot newYear) firstMoves
    let last := Run.ending l (fresh emptyRoot newYear) firstMoves
    (results l none cs).map (·.isOk) = [false, true, true, false, true] ∧
    cs.map (·.result) = results l none cs ∧
    (exec (load l) last).1 = (after l none cs).elim (.error (.notInitialized l.projectFile)) .ok ∧
    (exec (isInitialized l) last).1 = .ok (after l none cs).isSome :=
  ⟨by decide +kernel, persistence_transparent isEmptyFolder_emptyRoot fun _ =>
    harmless_of_mem_firstMoves⟩

end Memory

end StageGate
