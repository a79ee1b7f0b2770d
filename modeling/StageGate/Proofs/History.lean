import StageGate.Proofs.Command.Run

/-!
Histories: commands are called one after the other, and between two calls time goes on and anything may
happen to the disk but a change of the project file. What holds of every new project and is kept by
every step holds of the project on the disk, as soon as one has been made.
-/

set_option autoImplicit false

namespace StageGate

open Session Store

structure Call where
  command : Command
  result : Except Failure Outcome
  before : Surroundings
  after : Surroundings

def Command.call (l : Layout) (c : Command) (w : Surroundings) : Call :=
  ⟨c, (exec (c.run l) w).1, w, (exec (c.run l) w).2⟩

namespace Call

def Begins (c : Call) : Prop :=
  ∃ name description mode, c.command = .init name description mode ∧ c.result = .ok .done

/-- The call succeeded, and not only by a look at the project. -/
def isEffective (c : Call) : Bool := c.result.isOk && c.command != .status

theorem isEffective_of_error {c : Call} {e : Failure} (h : c.result = .error e) :
    c.isEffective = false := by
  simp [isEffective, h]

theorem isEffective_of_ok {c : Call} {o : Outcome} (h : c.result = .ok o) (hc : c.command ≠ .status) :
    c.isEffective = true := by
  simp [isEffective, h, hc]

theorem isEffective_of_status {c : Call} (h : c.command = .status) : c.isEffective = false := by
  simp [isEffective, h]

end Call

/-- What stands at the path of the project file is the same on both disks. -/
def Untouched (l : Layout) (d d' : Disk) : Prop :=
  (d'.find l.projectFile).toOption = (d.find l.projectFile).toOption

/-- The calls that led from some surroundings to others. -/
inductive History (l : Layout) (start : Surroundings) : List Call → Surroundings → Prop
  | nil : History l start [] start
  | call {calls : List Call} {w : Surroundings} (c : Command) (h : History l start calls w) :
    History l start (calls ++ [c.call l w]) (c.call l w).after
  | between {calls : List Call} {w w' : Surroundings} (h : History l start calls w)
    (hu : Untouched l w.disk w'.disk) : History l start calls w'

variable {l : Layout} {start w : Surroundings} {calls : List Call}

theorem project?_of_untouched {d d' : Disk} (h : Untouched l d d') : project? l d' = project? l d := by
  rw [project?, project?, read_congr h]

theorem Layout.exists_name {s : Stage} {path : Path} (h : l.artifact? s = some path) :
    ∃ name, s.artifact? = some name ∧ IsName name ∧ name ≠ Layout.projectFileName ∧
      path = l.folder.join name := by
  obtain ⟨name, hname, rfl⟩ := Option.map_eq_some_iff.1 h
  refine ⟨name, hname, ?_, ?_, rfl⟩
  · cases s <;> cases hname
    all_goals exact ⟨by decide, by decide, by decide, by decide⟩
  · cases s <;> cases hname
    all_goals decide

theorem untouched_of_write_artifact {d d' : Disk} {s : Stage} {path : Path} {content : ByteArray}
    (hp : l.artifact? s = some path) (h : d.write path content = .ok d') : Untouched l d d' := by
  obtain ⟨name, -, hname, hne, rfl⟩ := Layout.exists_name hp
  rw [Untouched, Layout.projectFile,
    Disk.find_write_join_of_ne isName_projectFileName hname hne.symm h]

theorem Command.effect_call (l : Layout) (c : Command) (w : Surroundings) :
    c.Effect l w (c.call l w).result (c.call l w).after := effect_run l c w

/-- A call on a project leaves it as it is, or takes a step. -/
theorem Command.call_cases {p q : Project} {c : Command} (hp : project? l w.disk = some p)
    (hq : project? l (c.call l w).after.disk = some q) :
    q = p ∨ ∃ r o, Command.Step l w.disk w.now p c r o ∧ q = r.stamped w.now ∧
      (c.call l w).result = .ok o := by
  have he := effect_call l c w
  generalize (c.call l w).result = result, (c.call l w).after = after at he hq ⊢
  cases he with
  | refused e _ h => exact Or.inl (by simpa [h, hp] using hq.symm)
  | looked _ _ h => exact Or.inl (by simpa [h, hp] using hq.symm)
  | began _ _ _ _ _ h _ => simp [h] at hp
  | changed p' r o _ h hs hn =>
    obtain rfl : p = p' := by simpa [hp] using h
    exact Or.inr ⟨r, o, hs, by simpa [hn] using hq.symm, rfl⟩

theorem Command.call_of_step {p q : Project} {c : Command} {o : Outcome}
    (hp : project? l w.disk = some p) (hs : Command.Step l w.disk w.now p c q o) :
    (c.call l w).result = .ok o ∧ project? l (c.call l w).after.disk = some (q.stamped w.now) := by
  obtain ⟨next, hx, hn⟩ := Command.exec_run_of_change_ok hs.isRevision (project?_eq_some.1 hp)
    ((Command.change_eq_ok hs.isRevision).2 hs)
  rw [Command.call, hx]
  exact ⟨rfl, project?_eq_some.2 hn⟩

theorem Command.exists_call_passed {p : Project} {scores : Option String} {list : String}
    (hp : project? l w.disk = some p) (hc : p.stage = .clarify) (hg : givenScores scores = some list)
    (hs : p.threshold ≤ roundScore list) :
    ∃ q, project? l ((Command.clarify scores).call l w).after.disk = some q ∧ q.stage = .design ∧
      q.score = roundScore list :=
  ⟨_, (call_of_step hp (.passed scores list hc hg hs)).2, rfl, rfl⟩

theorem Command.call_fresh_of_step {d : Disk} {now : Instant} {p q : Project} {c : Command} {o : Outcome}
    (hp : project? l d = some p) (hs : Command.Step l d now p c q o) :
    (c.call l (fresh d now)).result = .ok o ∧
      project? l (c.call l (fresh d now)).after.disk = some (q.stamped now) :=
  call_of_step (w := fresh d now) hp hs

namespace History

theorem project?_of_begins {c : Command} {w : Surroundings} (h : (c.call l w).Begins) :
    ∃ name description mode, c = .init name description mode ∧ project? l w.disk = none ∧
      project? l (c.call l w).after.disk = some (Command.created name description mode w.now) := by
  obtain ⟨name, description, mode, hc, hr⟩ := h
  obtain rfl : c = .init name description mode := hc
  rcases Command.performed_init_cases l name description mode w.disk w.now with
    ⟨e, made, hf, -⟩ | ⟨made, hf, hp, hn⟩
  · obtain ⟨next, hx, -⟩ := (Command.performs_run l _).exec_eq hf
    simp [Command.call, hx] at hr
  · obtain ⟨next, hx, rfl, -⟩ := (Command.performs_run l _).exec_eq hf
    refine ⟨name, description, mode, rfl, hp, ?_⟩
    rw [Command.call, hx]
    exact hn

theorem isEffective_of_none (h : History l start calls w) (hn : project? l w.disk = none) :
    ∀ c ∈ calls, c.isEffective = false := by
  induction h with
  | nil => simp
  | @call calls w c _ ih =>
    have he := Command.effect_call l c w
    have hc : (c.call l w).command = c := rfl
    generalize c.call l w = call at hn he hc ⊢
    suffices hs : project? l w.disk = none ∧ call.isEffective = false by
      intro b hb
      rcases List.mem_append.1 hb with hb | hb
      · exact ih hs.1 b hb
      · rw [List.mem_singleton.1 hb]
        exact hs.2
    generalize hr : call.result = result at he
    cases he with
    | refused e _ h => exact ⟨h.symm.trans hn, Call.isEffective_of_error hr⟩
    | looked _ hs h => exact ⟨by rw [← h, hn], Call.isEffective_of_status (hc.trans hs)⟩
    | began _ _ _ _ _ _ hp => simp [hn] at hp
    | changed _ _ _ _ _ _ hq => simp [hn] at hq
  | between _ hu ih => exact ih ((project?_of_untouched hu).symm.trans hn)

/-- From the first successful init on there is a project, and it stands to the calls up to then in every
relation in which new projects stand to them, and which is kept by steps and by calls without effect. -/
theorem traced {I : List Call → Project → Prop}
    (hnew : ∀ idle c name description mode, (∀ b ∈ idle, b.isEffective = false) →
      c.command = .init name description mode → c.result = .ok .done →
      I (idle ++ [c]) (Command.created name description mode c.before.now))
    (hidle : ∀ calls c p, I calls p → c.isEffective = false → I (calls ++ [c]) p)
    (hstep : ∀ calls c p q o, I calls p → c.result = .ok o →
      Command.Step l c.before.disk c.before.now p c.command q o →
      I (calls ++ [c]) (q.stamped c.before.now))
    (h : History l start calls w) (hb : ∃ c ∈ calls, c.Begins) :
    ∃ p, project? l w.disk = some p ∧ I calls p := by
  induction h with
  | nil => simp at hb
  | @call calls w c h ih =>
    by_cases hc : (c.call l w).Begins
    · obtain ⟨name, description, mode, hi, hn, hp⟩ := project?_of_begins hc
      obtain ⟨-, -, -, -, hr⟩ := hc
      exact ⟨_, hp, hnew calls (c.call l w) name description mode (h.isEffective_of_none hn) hi hr⟩
    · obtain ⟨p, hp, hi⟩ := ih (by simpa [hc] using hb)
      have he := Command.effect_call l c w
      have hcmd : (c.call l w).command = c := rfl
      have hbefore : (c.call l w).before = w := rfl
      generalize c.call l w = call at he hcmd hbefore ⊢
      subst hcmd hbefore
      generalize hr : call.result = result at he
      cases he with
      | refused e _ h => exact ⟨p, h.trans hp, hidle calls call p hi (Call.isEffective_of_error hr)⟩
      | looked _ hs h => exact ⟨p, by rw [h, hp], hidle calls call p hi (Call.isEffective_of_status hs)⟩
      | began _ _ _ _ _ h _ => simp [h] at hp
      | changed r q o _ h hs hn =>
        obtain rfl : p = r := by simpa [hp] using h
        exact ⟨_, hn, hstep calls call p q o hi hr hs⟩
  | between _ hu ih =>
    rw [project?_of_untouched hu]
    exact ih hb

theorem invariant {I : Project → Prop}
    (hnew : ∀ name description mode now, I (Command.created name description mode now))
    (hstep : ∀ d now p c q o, I p → Command.Step l d now p c q o → I (q.stamped now))
    (h : History l start calls w) (hb : ∃ c ∈ calls, c.Begins) :
    ∃ p, project? l w.disk = some p ∧ I p :=
  h.traced (I := fun _ => I) (fun _ _ _ _ _ _ _ _ => hnew _ _ _ _) (fun _ _ _ hi _ => hi)
    (fun _ _ _ _ _ hi _ hs => hstep _ _ _ _ _ _ hi hs) hb

/-- A history can be continued with every step that its project allows, at any time and on any disk with
the same project file. -/
theorem extend {p q : Project} {d : Disk} {c : Command} {o : Outcome}
    (h : History l start calls w) (hp : project? l w.disk = some p) (hu : Untouched l w.disk d)
    (now : Instant) (hs : Command.Step l d now p c q o) :
    ∃ calls' w', History l start calls' w' ∧ project? l w'.disk = some (q.stamped now) := by
  have hf : History l start calls (fresh d now) := .between h hu
  have hd : project? l d = some p := (project?_of_untouched hu).trans hp
  exact ⟨_, _, .call c hf, (Command.call_fresh_of_step hd hs).2⟩

end History

/-! ### Where a history can begin -/

theorem begins_of_writable {name description : String} (hn : Text.trimmed name ≠ "")
    (hd : Text.trimmed description ≠ "") (hw : l.Writable w.disk)
    (he : w.disk.exists l.projectFile = false) (mode : Mode) :
    ((Command.init name description mode).call l w).Begins := by
  obtain ⟨made, hf, -⟩ := Command.performed_init hn hd hw he mode w.now
  obtain ⟨next, hx, -⟩ := (Command.performs_run l _).exec_eq hf
  exact ⟨name, description, mode, rfl, by rw [Command.call, hx]⟩

/-- Half past twelve on the first day of a year, half a second after the minute. -/
def newYear : Instant :=
  ⟨⟨2025, 1, 1, by decide⟩, 45000, 500000000, by decide, by decide, by decide⟩

def emptyRoot : Disk := Disk.empty ["root"]

theorem writable_emptyRoot : (Layout.standard ⟨""⟩).Writable emptyRoot :=
  .of_made (by decide) (by decide +kernel) (by decide +kernel)

theorem missing_emptyRoot : emptyRoot.exists (Layout.standard ⟨""⟩).projectFile = false := by
  decide +kernel

theorem begins_emptyRoot {name description : String} (hn : Text.trimmed name ≠ "")
    (hd : Text.trimmed description ≠ "") (mode : Mode) (now : Instant) :
    ((Command.init name description mode).call (Layout.standard ⟨""⟩) (fresh emptyRoot now)).Begins :=
  begins_of_writable hn hd writable_emptyRoot missing_emptyRoot mode

namespace History

/-- A score list that meets every threshold. -/
def fullScores : String :=
  ",".intercalate (Clarity.Dimension.all.map fun d => d.name ++ ":100")

theorem givenScores_fullScores : Command.givenScores (some fullScores) = some fullScores := by
  decide +kernel

theorem roundScore_fullScores : Command.roundScore fullScores = 100 := by decide +kernel

theorem threshold_le_fullScores (mode : Mode) : mode.threshold ≤ Command.roundScore fullScores := by
  rw [roundScore_fullScores]
  cases mode <;> decide

theorem exists_at_gate : ∃ calls w p,
    History (Layout.standard ⟨""⟩) (fresh emptyRoot newYear) calls w ∧ (∃ c ∈ calls, c.Begins) ∧
      project? (Layout.standard ⟨""⟩) w.disk = some p ∧ p.stage = .clarify := by
  have hb : ((Command.init "shop" "sells flowers" .guided).call (Layout.standard ⟨""⟩)
      (fresh emptyRoot newYear)).Begins := begins_emptyRoot (by decide) (by decide) _ _
  obtain ⟨_, _, _, -, -, hp⟩ := project?_of_begins hb
  obtain ⟨-, hp⟩ := Command.call_of_step hp (.advanced .propose .specify rfl (by simp) rfl)
  obtain ⟨-, hp⟩ := Command.call_of_step hp (.advanced .specify .clarify rfl (by simp) rfl)
  exact ⟨_, _, _, .call _ (.call _ (.call _ .nil)), ⟨_, List.mem_cons_self, hb⟩, hp, rfl⟩

theorem exists_past_gate : ∃ calls w p,
    History (Layout.standard ⟨""⟩) (fresh emptyRoot newYear) calls w ∧ (∃ c ∈ calls, c.Begins) ∧
      project? (Layout.standard ⟨""⟩) w.disk = some p ∧ p.stage = .design := by
  obtain ⟨_, _, p, h, ⟨c, hm, hb⟩, hp, hc⟩ := exists_at_gate
  obtain ⟨q, hq, hd, -⟩ :=
    Command.exists_call_passed hp hc givenScores_fullScores (threshold_le_fullScores p.mode)
  exact ⟨_, _, q, h.call _, ⟨c, List.mem_append_left _ hm, hb⟩, hq, hd⟩

end History

end StageGate
