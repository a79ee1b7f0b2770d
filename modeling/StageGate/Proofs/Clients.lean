import Mathlib.Logic.Function.Basic
import StageGate.Proofs.Run
import StageGate.Proofs.Store.RoundTrip

/-!
Two clients on one disk. Each load and each save is one step, and between the steps of one client those
of the other may come. A client whose steps follow each other works as if it were alone. Where both load
before either of them saves, nothing holds the second save back: both succeed, and what the first one
saved is gone.
-/

set_option autoImplicit false

namespace StageGate

open Session Store

/-! ### Saving twice -/

theorem Disk.put_put (d : Disk) (place : Place) (i j : Item) :
    (d.put place i).put place j = d.put place j := by
  have hb : ((d.put place i).put place j).below = (d.put place j).below := by
    funext q
    by_cases hq : q = place
    · subst hq
      simp
    · simp [put_below_of_ne _ _ hq]
  exact congrArg (Disk.mk · d.here) hb

namespace Store

variable {l : Layout} {d : Disk}

theorem saved_saved (h : l.Writable d) (p q : Project) (s t : Instant) :
    saved l q (saved l p d s).2 t = saved l q d t := by
  obtain ⟨place, hent, hfree, hs⟩ := saved_eq_put h
  rw [hs p s, hs q t]
  generalize (d.makeFolders l.folder).2 = made at hent hfree ⊢
  -- walks lead through folders only, so they do not see the file that the first save has left
  have hagain : (made.put (place ++ [Layout.projectFileName]) (.file (p.stamped s).toText.toUTF8)).enter
      l.folder = .ok place := Disk.walk_put hfree hent
  have hself : (made.put (place ++ [Layout.projectFileName]) (.file (p.stamped s).toText.toUTF8)).item?
      (place ++ [Layout.projectFileName]) ≠ some .folder := by
    rw [Disk.item?_put_self _ _ (by simp)]
    simp
  rw [saved, Disk.makeFolders_of_enter hagain]
  simp only [write_projectFile_of_enter hagain, if_neg hself, Disk.put_put]

end Store

namespace Command

variable {l : Layout} {d : Disk}

theorem committed_committed (h : l.Writable d) (r r' : Project × Outcome) (s t : Instant) :
    committed l r' (committed l r d s).2 t = committed l r' d t := by
  simp only [committed, saved_saved h]

/-- What another command did to the disk before does not matter to a save. -/
theorem committed_performed (h : l.Writable d) (c : Command) (r : Project × Outcome) (s t : Instant) :
    committed l r (performed l d s c).2 t = committed l r d t := by
  by_cases hc : c = status
  · rw [hc, performed_status]
  cases hp : prepared l d s c with
  | error e => rw [performed_of_prepared_error hp]
  | ok r' => rw [performed_of_prepared_ok hp hc, committed_committed h]

theorem exists_of_performed_ok {c : Command} {now : Instant} {o : Outcome}
    (h : (performed l d now c).1 = .ok o) : (performed l d now c).2.exists l.projectFile = true := by
  by_cases hc : c = status
  · rw [hc, performed_status] at h ⊢
    cases hr : read l d with
    | error e => simp [hr, Except.map] at h
    | ok p => exact exists_of_read hr
  cases hp : prepared l d now c with
  | error e =>
    rw [performed_of_prepared_error hp] at h
    cases h
  | ok r =>
    rw [performed_of_prepared_ok hp hc] at h ⊢
    obtain ⟨p, hs⟩ := committed_eq_ok h
    exact exists_of_saved hs

end Command

/-! ### Clients and their turns -/

structure Client where
  command : Command
  now : Instant

inductive Progress where
  | waiting
  /-- It has loaded, and holds what it will save. -/
  | holding (r : Project × Outcome)
  | ended (result : Except Failure Outcome)

namespace Client

variable {l : Layout} {d : Disk} {c : Client}

/-- The next step of a client: first it loads, then it saves. -/
def step (l : Layout) (c : Client) : Progress → Disk → Progress × Disk
  | .waiting, d =>
    match exec (c.command.prepare l) (fresh d c.now) with
    | (.ok r, w) => (.holding r, w.disk)
    | (.error e, w) => (.ended (.error e), w.disk)
  | .holding r, d =>
    let (result, w) := exec (c.command.commit l r) (fresh d c.now)
    (.ended result, w.disk)
  | .ended result, d => (.ended result, d)

/-- What its command gives, and the disk it leaves, when nobody comes between. -/
def whole (l : Layout) (c : Client) (d : Disk) : Except Failure Outcome × Disk :=
  let call := c.command.call l (fresh d c.now)
  (call.result, call.after.disk)

def loaded (l : Layout) (c : Client) (d : Disk) : Progress :=
  match c.command.prepared l d c.now with
  | .ok r => .holding r
  | .error e => .ended (.error e)

theorem whole_eq (l : Layout) (c : Client) (d : Disk) :
    c.whole l d = c.command.performed l d c.now :=
  Prod.ext (Command.call_result l c.command _) (Command.call_disk l c.command _)

theorem step_waiting (l : Layout) (c : Client) (d : Disk) :
    c.step l .waiting d = (c.loaded l d, d) := by
  obtain ⟨hr, hd, -⟩ := Command.computes_prepare l c.command (fresh d c.now)
  rw [step, loaded]
  cases hx : exec (c.command.prepare l) (fresh d c.now) with
  | mk r w =>
    rw [hx] at hr hd
    obtain rfl : w.disk = d := hd
    replace hr : r = c.command.prepared l w.disk c.now := hr
    rw [← hr]
    cases r <;> rfl

theorem step_holding (l : Layout) (c : Client) (r : Project × Outcome) (d : Disk) :
    c.step l (.holding r) d =
      (.ended (Command.committed l r d c.now).1, (Command.committed l r d c.now).2) := by
  obtain ⟨hr, hd, -⟩ := Command.performs_commit l c.command r (fresh d c.now)
  exact Prod.ext (congrArg Progress.ended hr) hd

theorem step_loaded (hc : c.command ≠ .status) :
    c.step l (c.loaded l d) d = (.ended (c.whole l d).1, (c.whole l d).2) := by
  rw [whole_eq, loaded]
  cases hp : c.command.prepared l d c.now with
  | error e =>
    rw [Command.performed_of_prepared_error hp]
    rfl
  | ok r => rw [Command.performed_of_prepared_ok hp hc, step_holding]

/-- When another client has saved since it loaded, what that one left is not there any more. -/
theorem step_loaded_after (hc : c.command ≠ .status) (hw : l.Writable d) (b : Client) :
    c.step l (c.loaded l d) (b.whole l d).2 =
      (.ended (c.whole l d).1,
        if (c.whole l d).1.isOk then (c.whole l d).2 else (b.whole l d).2) := by
  rw [whole_eq, whole_eq, loaded]
  cases hp : c.command.prepared l d c.now with
  | error e =>
    rw [Command.performed_of_prepared_error hp]
    rfl
  | ok r =>
    obtain ⟨made, hm, -⟩ := Command.committed_of_writable hw r c.now
    rw [Command.performed_of_prepared_ok hp hc, step_holding, Command.committed_performed hw, hm]
    rfl

end Client

/-! ### The orders in which they take their turns -/

inductive Turn where
  | first | second
  deriving DecidableEq, Repr

namespace Turn

def other : Turn → Turn
  | first => second
  | second => first

def apart (t : Turn) : List Turn := [t, t, t.other, t.other]

/-- Both load, and only then they save. -/
def overlapping (t u : Turn) : List Turn := [t, t.other, u, u.other]

theorem apart_or_overlapping {ts : List Turn} (h : ts.Perm [first, first, second, second]) :
    (∃ t, ts = apart t) ∨ ∃ t u, ts = overlapping t u := by
  match ts, h.length_eq with
  | [t, u, v, w], _ =>
    cases t <;> cases u <;> cases v <;> cases w
    all_goals first
      | exact absurd h (by decide)
      | exact Or.inl ⟨_, rfl⟩
      | exact Or.inr ⟨_, _, rfl⟩

end Turn

structure Scene where
  progress : Turn → Progress
  disk : Disk

namespace Scene

variable {l : Layout} {d : Disk} {clients : Turn → Client}

def turn (l : Layout) (clients : Turn → Client) (s : Scene) (t : Turn) : Scene :=
  let next := (clients t).step l (s.progress t) s.disk
  ⟨Function.update s.progress t next.1, next.2⟩

def run (l : Layout) (clients : Turn → Client) (d : Disk) (ts : List Turn) : Scene :=
  ts.foldl (turn l clients) ⟨fun _ => .waiting, d⟩

theorem turn_of_progress {progress : Turn → Progress} {t : Turn} {p : Progress}
    (h : progress t = p) : turn l clients ⟨progress, d⟩ t =
      ⟨Function.update progress t ((clients t).step l p d).1, ((clients t).step l p d).2⟩ := by
  subst h
  rfl

theorem turn_turn {progress : Turn → Progress} {t : Turn} (hc : (clients t).command ≠ .status)
    (ht : progress t = .waiting) :
    turn l clients (turn l clients ⟨progress, d⟩ t) t =
      ⟨Function.update progress t (.ended ((clients t).whole l d).1), ((clients t).whole l d).2⟩ := by
  rw [turn_of_progress ht, Client.step_waiting, turn_of_progress (Function.update_self ..),
    Client.step_loaded hc, Function.update_idem]

theorem run_apart (hc : ∀ t, (clients t).command ≠ .status) (t : Turn) :
    let first := (clients t).whole l d
    let second := (clients t.other).whole l first.2
    run l clients d (Turn.apart t) = ⟨fun u => .ended (if u = t then first.1 else second.1), second.2⟩ := by
  intro first second
  have hwaiting : Function.update (fun _ => Progress.waiting) t (.ended first.1) t.other = .waiting := by
    cases t <;> rfl
  have hfirst : turn l clients (turn l clients ⟨fun _ => .waiting, d⟩ t) t =
      ⟨Function.update (fun _ => .waiting) t (.ended first.1), first.2⟩ := turn_turn (hc t) rfl
  rw [run, Turn.apart, List.foldl_cons, List.foldl_cons, hfirst, List.foldl_cons, List.foldl_cons,
    turn_turn (hc t.other) hwaiting, List.foldl_nil, Scene.mk.injEq]
  refine ⟨funext fun u => ?_, rfl⟩
  cases t <;> cases u <;> rfl

theorem turns_load (l : Layout) (clients : Turn → Client) (d : Disk) (t : Turn) :
    turn l clients (turn l clients ⟨fun _ => .waiting, d⟩ t) t.other =
      ⟨fun v => (clients v).loaded l d, d⟩ := by
  have hwaiting : Function.update (fun _ => Progress.waiting) t ((clients t).loaded l d) t.other =
      .waiting := by
    cases t <;> rfl
  have hfirst : turn l clients ⟨fun _ => .waiting, d⟩ t =
      ⟨Function.update (fun _ => .waiting) t ((clients t).loaded l d), d⟩ := by
    rw [turn_of_progress rfl, Client.step_waiting]
  rw [hfirst, turn_of_progress hwaiting, Client.step_waiting, Scene.mk.injEq]
  refine ⟨funext fun v => ?_, rfl⟩
  cases t <;> cases v <;> rfl

theorem run_overlapping (hc : ∀ t, (clients t).command ≠ .status) (hw : l.Writable d) (t u : Turn) :
    let first := (clients u).whole l d
    let second := (clients u.other).whole l d
    run l clients d (Turn.overlapping t u) = ⟨fun v => .ended ((clients v).whole l d).1,
      if second.1.isOk then second.2 else first.2⟩ := by
  intro first second
  have hother : Function.update (fun v => (clients v).loaded l d) u (.ended first.1) u.other =
      (clients u.other).loaded l d := by
    cases u <;> rfl
  rw [run, Turn.overlapping, List.foldl_cons, List.foldl_cons, turns_load, List.foldl_cons,
    turn_of_progress rfl, Client.step_loaded (hc u), List.foldl_cons, turn_of_progress hother,
    Client.step_loaded_after (hc u.other) hw (clients u), List.foldl_nil, Scene.mk.injEq]
  refine ⟨funext fun v => ?_, rfl⟩
  cases u <;> cases v <;> rfl

/-! ### Rounds that both begin -/

def rounds (l : Layout) (d : Disk) (s : Stage) : Option UInt32 :=
  (project? l d).map fun p => (p.entries s).rounds

theorem rounds_of_read {p : Project} (h : read l d = .ok p) (s : Stage) :
    rounds l d s = some (p.entries s).rounds := by
  rw [rounds, project?_eq_some.2 h]
  rfl

theorem rounds_congr {d' : Disk} (h : project? l d' = project? l d) (s : Stage) :
    rounds l d' s = rounds l d s := by
  rw [rounds, rounds, h]

theorem whole_start {p : Project} {c : Client} (hc : c.command = .start p.stage)
    (h : read l d = .ok p) :
    (c.whole l d).1 = .ok .done ∧ ∃ q, read l (c.whole l d).2 = .ok q ∧ q.stage = p.stage ∧
      q.current.rounds = Entry.countRound p.current.rounds := by
  have hstage : p.requireStage p.stage = .ok () := Project.requireStage_eq_ok.2 rfl
  have hq : Command.change l d c.now p (.start p.stage) = .ok (p.enterRound c.now, .done) := by
    rw [Command.change, hstage]
    rfl
  obtain ⟨made, hm, hr⟩ := Command.performed_of_change rfl h hq
  rw [Client.whole_eq, hc, hm]
  refine ⟨rfl, _, hr, rfl, ?_⟩
  simp [Project.stamped, Project.enterRound, Project.current, Entry.enter]

variable {p : Project}

theorem ne_status (hc : ∀ t, (clients t).command = .start p.stage) (t : Turn) :
    (clients t).command ≠ .status := by
  rw [hc t]
  simp

theorem rounds_apart (hc : ∀ t, (clients t).command = .start p.stage) (h : read l d = .ok p) (t : Turn) :
    rounds l (run l clients d (Turn.apart t)).disk p.stage =
      some (Entry.countRound (Entry.countRound p.current.rounds)) := by
  obtain ⟨-, q, hr, hs, hq⟩ := whole_start (hc t) h
  obtain ⟨-, r, hr', hs', hq'⟩ := whole_start ((hc t.other).trans (by rw [hs])) hr
  rw [run_apart (ne_status hc) t, rounds_of_read hr', ← hq, ← hq', ← hs, ← hs']
  rfl

theorem rounds_overlapping (hc : ∀ t, (clients t).command = .start p.stage) (h : read l d = .ok p)
    (t u : Turn) : rounds l (run l clients d (Turn.overlapping t u)).disk p.stage =
      some (Entry.countRound p.current.rounds) := by
  obtain ⟨hok, q, hr, hs, hq⟩ := whole_start (hc u.other) h
  have hlast : (run l clients d (Turn.overlapping t u)).disk = ((clients u.other).whole l d).2 := by
    rw [run_overlapping (ne_status hc) (writable_of_read h) t u]
    simp [hok]
  rw [hlast, rounds_of_read hr, ← hq, ← hs]
  rfl

def begunRoot : Disk :=
  ((Command.init "shop" "a shop" .guided).call (Layout.standard ⟨""⟩) (fresh emptyRoot newYear)).after.disk

theorem read_begunRoot : read (Layout.standard ⟨""⟩) begunRoot =
    .ok (Command.created "shop" "a shop" .guided newYear) := by
  have hn : Text.trimmed "shop" ≠ "" := by decide
  have hd : Text.trimmed "a shop" ≠ "" := by decide
  obtain ⟨made, hm, hr⟩ :=
    Command.performed_init hn hd writable_emptyRoot missing_emptyRoot .guided newYear
  have hmade : begunRoot = made := (Command.call_disk _ _ _).trans (congrArg Prod.snd hm)
  rw [hmade, hr]

def starters (t : Turn) : Client := ⟨.start .propose, if t = .first then newYear else leapSecond⟩

def makers (t : Turn) : Client :=
  ⟨.init "shop" "a shop" .guided, if t = .first then newYear else leapSecond⟩

/-! ### What becomes of two commands -/

/-- All orders in which two clients can take their turns. When one of them is done before the other one
begins, they have worked one after the other, and of two inits one has failed. When both have loaded before
one saves, each result is what its client would have got alone, and what the second one saves is all that
is left, if there was anything for it to save. -/
theorem two_clients (hw : l.Writable d) (hc : ∀ t, (clients t).command ≠ .status) {ts : List Turn}
    (hts : ts.Perm [.first, .first, .second, .second]) :
    (∃ t, ts = Turn.apart t ∧
      let first := (clients t).whole l d
      let second := (clients t.other).whole l first.2
      run l clients d ts = ⟨fun u => .ended (if u = t then first.1 else second.1), second.2⟩ ∧
      ((∀ u, (clients u).command.isInit = true) →
        ∃ u e, (run l clients d ts).progress u = .ended (.error e))) ∨
    (∃ t u, ts = Turn.overlapping t u ∧
      let first := (clients u).whole l d
      let second := (clients u.other).whole l d
      run l clients d ts = ⟨fun v => .ended ((clients v).whole l d).1,
        if second.1.isOk then second.2 else first.2⟩) := by
  rcases Turn.apart_or_overlapping hts with ⟨t, rfl⟩ | ⟨t, u, rfl⟩
  · refine Or.inl ⟨t, rfl, run_apart hc t, fun hinit => ?_⟩
    rw [run_apart hc t]
    cases hfirst : ((clients t).whole l d).1 with
    | error e => exact ⟨t, e, by simp⟩
    | ok o =>
      have hne : t.other ≠ t := by cases t <;> decide
      rw [Client.whole_eq] at hfirst
      obtain ⟨e, he⟩ := Command.performed_init_of_exists (hinit t.other)
        (Command.exists_of_performed_ok hfirst)
      refine ⟨t.other, e, ?_⟩
      simp only [if_neg hne, Client.whole_eq]
      rw [he]
  · exact Or.inr ⟨t, u, rfl, run_overlapping hc hw t u⟩

theorem two_clients_begunRoot :
    let l := Layout.standard ⟨""⟩
    l.Writable begunRoot ∧ (∀ t, (starters t).command ≠ .status) ∧
    [Turn.second, .first, .second, .first].Perm [.first, .first, .second, .second] ∧
    (run l starters begunRoot [.second, .first, .second, .first]).disk =
      ((starters .first).whole l begunRoot).2 ∧
    (∀ t, (makers t).command.isInit = true) ∧
    ∃ u e, (run l makers emptyRoot [.first, .first, .second, .second]).progress u = .ended (.error e) := by
  intro l
  have hw : l.Writable begunRoot := writable_of_read read_begunRoot
  have hc (t : Turn) : (starters t).command =
      .start (Command.created "shop" "a shop" .guided newYear).stage := rfl
  have hts : [Turn.second, .first, .second, .first].Perm [.first, .first, .second, .second] := by decide
  have hmakers (t : Turn) : (makers t).command ≠ .status := by simp [makers]
  refine ⟨hw, ne_status hc, hts, ?_, fun t => rfl, ?_⟩
  · rcases two_clients hw (ne_status hc) hts with ⟨t, ht, -⟩ | ⟨t, u, ht, he⟩
    · cases t <;> simp [Turn.apart, Turn.other] at ht
    · obtain rfl : Turn.second = u := Option.some.inj (congrArg (·[2]?) ht)
      have hok : ((starters .first).whole l begunRoot).1.isOk = true :=
        congrArg Except.isOk (whole_start (hc .first) read_begunRoot).1
      have hother : Turn.second.other = .first := rfl
      rw [he]
      simp only [hother]
      rw [if_pos hok]
  · rcases two_clients (l := l) writable_emptyRoot hmakers (List.Perm.refl _) with
      ⟨t, -, -, hinits⟩ | ⟨t, u, ht, -⟩
    · exact hinits fun _ => rfl
    · cases t <;> simp [Turn.overlapping, Turn.other] at ht

/-- Both clients are told that their round has begun, but only one is counted; and of two projects that are
made the first one is lost. -/
theorem round_lost :
    let l := Layout.standard ⟨""⟩
    let e := run l starters begunRoot (Turn.overlapping .first .second)
    (∃ p, read l begunRoot = .ok p) ∧
    (∀ t, e.progress t = .ended (.ok .done)) ∧
    rounds l e.disk .propose = some 1 ∧
    (∀ t, rounds l (run l starters begunRoot (Turn.apart t)).disk .propose = some 2) ∧
    (∀ t, project? l e.disk ≠ project? l (run l starters begunRoot (Turn.apart t)).disk) ∧
    ∀ t, (run l makers emptyRoot (Turn.overlapping .first .second)).progress t = .ended (.ok .done) := by
  have hc (t : Turn) : (starters t).command =
      .start (Command.created "shop" "a shop" .guided newYear).stage := rfl
  have hoverlap : rounds (Layout.standard ⟨""⟩)
      (run (Layout.standard ⟨""⟩) starters begunRoot (Turn.overlapping .first .second)).disk .propose =
        some 1 := rounds_overlapping hc read_begunRoot .first .second
  have hapart (t : Turn) : rounds (Layout.standard ⟨""⟩)
      (run (Layout.standard ⟨""⟩) starters begunRoot (Turn.apart t)).disk .propose = some 2 :=
    rounds_apart hc read_begunRoot t
  refine ⟨⟨_, read_begunRoot⟩, fun t => ?_, hoverlap, hapart, fun t he => ?_, fun t => ?_⟩
  · rw [run_overlapping (ne_status hc) (writable_of_read read_begunRoot)]
    exact congrArg Progress.ended (whole_start (hc t) read_begunRoot).1
  · have hsame := (rounds_congr he .propose).symm.trans hoverlap
    exact absurd ((hapart t).symm.trans hsame) (by decide)
  · have hmakers (t : Turn) : (makers t).command ≠ .status := by simp [makers]
    have hn : Text.trimmed "shop" ≠ "" := by decide
    have hd : Text.trimmed "a shop" ≠ "" := by decide
    obtain ⟨made, hm, -⟩ :=
      Command.performed_init hn hd writable_emptyRoot missing_emptyRoot .guided (makers t).now
    have hok : ((makers t).whole (Layout.standard ⟨""⟩) emptyRoot).1 = .ok .done := by
      rw [Client.whole_eq]
      exact congrArg Prod.fst hm
    rw [run_overlapping hmakers writable_emptyRoot]
    exact congrArg Progress.ended hok

end Scene

end StageGate
