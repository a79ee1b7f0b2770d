import StageGate.Proofs.Project.Frame
import StageGate.Proofs.Store.RoundTrip

/-!
Transitions in place. Here a project is not given back changed but changed where it is kept, by one write
after the other, and its entries stand in a row of slots that are found by the place of their stage in the
order. What was written stays when a later part fails, and a stage might be missing from the order. Neither
matters: the transitions are those of the pipeline, every refusal comes before the first write, and what is
written is what the transition is about.
-/

set_option autoImplicit false

namespace StageGate

namespace Project

def slots (p : Project) : List Entry := Stage.order.map p.entries

def withSlots (p : Project) (slots : List Entry) : Project :=
  { p with entries := fun s => slots.getD s.position .untouched }

theorem getElem?_slots (p : Project) (s : Stage) : p.slots[s.position]? = some (p.entries s) := by
  rw [slots, List.getElem?_map, Stage.getElem?_order_position]
  rfl

/-- No two stages share a slot, so a write to one is a change of one entry. -/
theorem withSlots_modify (p : Project) (s : Stage) (f : Entry → Entry) :
    p.withSlots (p.slots.modify s.position f) = p.updateEntry s f := by
  have hentry (t : Stage) : (p.slots.modify s.position f).getD t.position .untouched =
      if t = s then f (p.entries t) else p.entries t := by
    rw [List.getD_eq_getElem?_getD, List.getElem?_modify, getElem?_slots]
    by_cases h : t = s
    · subst h
      simp
    · have hpos : s.position ≠ t.position := fun he => h (Stage.position_inj he).symm
      simp [h, hpos]
  simp only [withSlots, updateEntry, hentry]

end Project

/-- Why a transition in place is not made: it is refused, or the stage has no place in the order. -/
inductive Obstacle where
  | refused (reason : Refusal)
  | unknownStage (name : String)

abbrev InPlace := ExceptT Obstacle (StateM Project)

namespace InPlace

variable {α β : Type} {p : Project} {now : Instant}

def exec (x : InPlace α) (p : Project) : Except Obstacle α × Project := StateT.run (ExceptT.run x) p

def write (s : Stage) (f : Entry → Entry) : InPlace Unit :=
  modify fun p => p.withSlots (p.slots.modify s.position f)

def setStage (s : Stage) : InPlace Unit := modify fun p => { p with stage := s }

/-- The stage behind the one at which the project stands, by a search in the order. -/
def destination (p : Project) : Except Obstacle Stage :=
  if p.stage = .clarify ∧ p.score < p.threshold then
    .error (.refused (.gateNotMet p.score p.threshold p.mode))
  else match Stage.order.idxOf? p.stage with
    | none => .error (.unknownStage p.stage.name)
    | some i =>
      match Stage.order[i + 1]? with
      | some s => .ok s
      | none => .error (.refused (.atFinalStage p.stage))

def advance (now : Instant) : InPlace Stage := do
  let s ← liftM (destination (← get))
  let left := (← get).stage
  write left (·.complete now)
  setStage s
  write s (·.enter now)
  return s

def enterRound (now : Instant) : InPlace Unit := do
  write (← get).stage (·.enter now)

def finish (now : Instant) : InPlace Unit := do
  let s := (← get).stage
  unless Stage.order.getLast? = some s do throw (.refused (.wrongStage s .validate))
  write s (·.complete now)

/-! ### What work in place gives and leaves -/

@[simp] theorem exec_pure (a : α) (p : Project) : exec (pure a) p = (.ok a, p) := rfl

@[simp] theorem exec_throw (e : Obstacle) (p : Project) :
    exec (throw e : InPlace α) p = (.error e, p) := rfl

@[simp] theorem exec_get (p : Project) : exec get p = (.ok p, p) := rfl

@[simp] theorem exec_lift (r : Except Obstacle α) (p : Project) : exec (liftM r) p = (r, p) := by
  cases r <;> rfl

@[simp] theorem exec_write (s : Stage) (f : Entry → Entry) (p : Project) :
    exec (write s f) p = (.ok (), p.updateEntry s f) := by
  rw [← Project.withSlots_modify]
  rfl

@[simp] theorem exec_setStage (s : Stage) (p : Project) :
    exec (setStage s) p = (.ok (), { p with stage := s }) := rfl

theorem exec_bind (x : InPlace α) (f : α → InPlace β) (p : Project) :
    exec (x >>= f) p = match exec x p with
      | (.ok a, q) => exec (f a) q
      | (.error e, q) => (.error e, q) := by
  simp only [exec, ExceptT.run_bind, StateT.run_bind]
  cases StateT.run (ExceptT.run x) p with
  | mk r q => cases r <;> rfl

@[simp] theorem exec_map (f : α → β) (x : InPlace α) (p : Project) :
    exec (f <$> x) p = ((exec x p).1.map f, (exec x p).2) := by
  rw [map_eq_pure_bind, exec_bind]
  cases exec x p with
  | mk r q => cases r <;> rfl

/-- What is left of a project where a transition was tried: the new project with an answer, or the old one
with the refusal. -/
def settled (p : Project) (answer : Project → α) : Except Refusal Project → Except Obstacle α × Project
  | .ok q => (.ok (answer q), q)
  | .error reason => (.error (.refused reason), p)

/-! ### The transitions of the pipeline are made in place -/

theorem idxOf?_order (s : Stage) : Stage.order.idxOf? s = some s.position := by
  cases s <;> decide

theorem getLast?_order_eq_some_iff {s : Stage} : Stage.order.getLast? = some s ↔ s = .validate := by
  cases s <;> decide

theorem destination_eq (p : Project) : destination p = p.destination.mapError .refused := by
  rw [destination, Project.destination]
  split
  · rfl
  · rw [idxOf?_order, Stage.next?]
    simp only
    cases Stage.order[p.stage.position + 1]? <;> rfl

theorem exec_advance (p : Project) (now : Instant) :
    exec (advance now) p = settled p (·.stage) (p.advance now) := by
  have hp : p.advance now = p.destination.map (p.moveTo · now) := by
    rw [Project.advance]
    cases p.destination <;> rfl
  rw [hp]
  cases h : p.destination with
  | error reason => simp [advance, exec_bind, destination_eq, h, settled, Except.map]
  | ok s => simp [advance, exec_bind, destination_eq, h, settled, Except.map, Project.moveTo]

theorem exec_enterRound (p : Project) (now : Instant) :
    exec (enterRound now) p = (.ok (), p.enterRound now) := by
  simp [enterRound, exec_bind, Project.enterRound]

theorem exec_finish (p : Project) (now : Instant) :
    exec (finish now) p = settled p (fun _ => ()) (p.finish now) := by
  rw [Project.finish]
  by_cases h : p.stage = .validate
  · rw [if_pos (Stage.isFinal_iff.2 h)]
    simp [finish, exec_bind, getLast?_order_eq_some_iff, h, settled]
  · rw [if_neg (mt Stage.isFinal_iff.1 h)]
    simp [finish, exec_bind, getLast?_order_eq_some_iff, h, settled]

end InPlace

namespace Project

variable {p : Project}

/-! ### Refusals -/

theorem destination_eq_gateNotMet_iff {score threshold : UInt8} {mode : Mode} :
    p.destination = .error (.gateNotMet score threshold mode) ↔
      (p.stage = .clarify ∧ p.score < p.threshold) ∧ score = p.score ∧ threshold = p.threshold ∧
        mode = p.mode := by
  rw [destination]
  split
  · next h => simp [h, eq_comm]
  · next h => cases p.stage.next? <;> simp [h]

theorem destination_eq_atFinalStage_iff {s : Stage} :
    p.destination = .error (.atFinalStage s) ↔ p.stage = .validate ∧ s = .validate := by
  rw [destination]
  split
  · next h => simp [h.1]
  · cases hn : p.stage.next? with
    | none =>
      have hv : p.stage = .validate := by
        by_contra hv
        obtain ⟨t, ht⟩ := Stage.exists_next?.2 hv
        simp [hn] at ht
      simp [hv, eq_comm]
    | some t => simp [Stage.exists_next?.1 ⟨t, hn⟩]

theorem destination_ne_wrongStage (actual expected : Stage) :
    p.destination ≠ .error (.wrongStage actual expected) := by
  rw [destination]
  split
  · simp
  · cases p.stage.next? <;> simp

/-! ### All or nothing -/

theorem exec_advance_of_error {e : Obstacle} (h : InPlace.destination p = .error e) (now : Instant) :
    InPlace.exec (InPlace.advance now) p = (.error e, p) := by
  cases hd : p.destination with
  | error reason =>
    rw [InPlace.destination_eq, hd] at h
    cases h
    rw [InPlace.exec_advance, advance, hd]
    rfl
  | ok s =>
    rw [InPlace.destination_eq, hd] at h
    cases h

theorem exec_advance_of_ok {s : Stage} (h : InPlace.destination p = .ok s) (now : Instant) :
    ∃ q, InPlace.exec (InPlace.advance now) p = (.ok s, q) ∧ p.stage.next? = some s ∧
      p.MovedTo s now q := by
  have hd : p.destination = .ok s := mapError_eq_ok.1 ((InPlace.destination_eq p).symm.trans h)
  obtain ⟨hg, hn⟩ := destination_eq_ok.1 hd
  have ha : p.advance now = .ok (p.moveTo s now) := advance_eq_ok.2 ⟨hg, s, hn, rfl⟩
  refine ⟨p.moveTo s now, ?_, hn, p.movedTo_moveTo now (Stage.ne_of_next? hn)⟩
  rw [InPlace.exec_advance, ha]
  rfl

theorem exec_advance_fst (p : Project) (now : Instant) :
    (InPlace.exec (InPlace.advance now) p).1 = InPlace.destination p := by
  cases h : InPlace.destination p with
  | error e => rw [exec_advance_of_error h]
  | ok s =>
    obtain ⟨q, hq, -⟩ := exec_advance_of_ok h now
    rw [hq]

theorem exec_finish_of_validate (h : p.stage = .validate) (now : Instant) :
    ∃ q, InPlace.exec (InPlace.finish now) p = (.ok (), q) ∧ p.Closed now q := by
  refine ⟨_, ?_, p.closed_updateEntry now⟩
  rw [InPlace.exec_finish, finish_eq_ok.2 ⟨h, rfl⟩]
  rfl

theorem exec_finish_of_ne (h : p.stage ≠ .validate) (now : Instant) :
    InPlace.exec (InPlace.finish now) p = (.error (.refused (.wrongStage p.stage .validate)), p) := by
  rw [InPlace.exec_finish, finish, if_neg (mt Stage.isFinal_iff.1 h)]
  rfl

/-- The transitions that the pipeline makes are those made in place. An advance gives what the look at the
next stage gives; it is refused before anything is written, or it moves the project to the next stage, and
then the entries of the two stages are all that changes besides. It is refused at clarify for a score below
the threshold and at the final stage, and for no other reason. A new round changes one entry, and so does the
end of the final stage, which is refused at every other stage. -/
theorem transitions_all_or_nothing (p : Project) (now : Instant) :
    let advanced := InPlace.exec (InPlace.advance now) p
    let resumed := InPlace.exec (InPlace.enterRound now) p
    let closed := InPlace.exec (InPlace.finish now) p
    (∀ w : Surroundings, w.now = now →
      (Session.exec (Pipeline.advance p) w).1 = (p.advance now).mapError .refused ∧
      (Session.exec (Pipeline.enterRound p) w).1 = .ok (p.enterRound now) ∧
      (Session.exec (Pipeline.finish p) w).1 = (p.finish now).mapError .refused) ∧
    (advanced = InPlace.settled p (·.stage) (p.advance now) ∧ resumed = (.ok (), p.enterRound now) ∧
      closed = InPlace.settled p (fun _ => ()) (p.finish now)) ∧
    (advanced.1 = InPlace.destination p ∧ (∀ e, advanced.1 = .error e → advanced.2 = p) ∧
      ∀ s, advanced.1 = .ok s → p.stage.next? = some s ∧ p.MovedTo s now advanced.2) ∧
    ((∀ score threshold mode,
        InPlace.destination p = .error (.refused (.gateNotMet score threshold mode)) ↔
          (p.stage = .clarify ∧ p.score < p.mode.threshold) ∧ score = p.score ∧
            threshold = p.mode.threshold ∧ mode = p.mode) ∧
      (∀ s, InPlace.destination p = .error (.refused (.atFinalStage s)) ↔
        p.stage = .validate ∧ s = .validate) ∧
      (∀ actual expected, InPlace.destination p ≠ .error (.refused (.wrongStage actual expected))) ∧
      ∀ name, InPlace.destination p ≠ .error (.unknownStage name)) ∧
    p.Resumed now resumed.2 ∧
    (p.stage = .validate → closed.1 = .ok () ∧ p.Closed now closed.2) ∧
    (p.stage ≠ .validate → closed = (.error (.refused (.wrongStage p.stage .validate)), p)) := by
  intro advanced resumed closed
  have hadvanced : advanced.1 = InPlace.destination p := exec_advance_fst p now
  have hresumed : resumed = (.ok (), p.enterRound now) := InPlace.exec_enterRound p now
  have hrefused (reason : Refusal) :
      InPlace.destination p = .error (.refused reason) ↔ p.destination = .error reason := by
    rw [InPlace.destination_eq]
    cases p.destination <;> simp
  refine ⟨fun w hw => ?_, ⟨InPlace.exec_advance p now, hresumed, InPlace.exec_finish p now⟩,
    ⟨hadvanced, fun e he => ?_, fun s hs => ?_⟩, ?_, ?_, fun hv => ?_, fun hv => exec_finish_of_ne hv now⟩
  · subst hw
    exact ⟨(Command.computes_advance p w).1, (Command.computes_enterRound p w).1,
      (Command.computes_finish p w).1⟩
  · exact congrArg Prod.snd (exec_advance_of_error (hadvanced.symm.trans he) now)
  · obtain ⟨q, hq, hn, hm⟩ := exec_advance_of_ok (hadvanced.symm.trans hs) now
    have ha : advanced = (.ok s, q) := hq
    rw [ha]
    exact ⟨hn, hm⟩
  · simp only [hrefused]
    refine ⟨fun _ _ _ => destination_eq_gateNotMet_iff, fun _ => destination_eq_atFinalStage_iff,
      fun _ _ h => destination_ne_wrongStage _ _ ((hrefused _).1 h), fun name => ?_⟩
    rw [InPlace.destination_eq]
    cases p.destination <;> simp
  · rw [hresumed]
    exact p.resumed_enterRound now
  · obtain ⟨q, hq, hc⟩ := exec_finish_of_validate hv now
    have ha : closed = (.ok (), q) := hq
    rw [ha]
    exact ⟨rfl, hc⟩

/-- At clarify, with every stage skipped and every counter at its end. -/
theorem transitions_all_or_nothing_strange :
    let p : Project := { Store.strange with stage := .clarify }
    let advanced := InPlace.exec (InPlace.advance newYear) p
    let final : Project := { p with stage := .validate }
    let closed := InPlace.exec (InPlace.finish newYear) final
    advanced.1 = .ok .design ∧ p.MovedTo .design newYear advanced.2 ∧
      (advanced.2.entries .design).rounds.toNat = 2 ^ 32 - 1 ∧
      closed.1 = .ok () ∧ final.Closed newYear closed.2 ∧
      InPlace.exec (InPlace.finish newYear) p =
        (.error (.refused (.wrongStage .clarify .validate)), p) := by
  intro p advanced final closed
  obtain ⟨-, -, ⟨-, -, hmoved⟩, -, -, -, hrefused⟩ := transitions_all_or_nothing p newYear
  obtain ⟨-, -, -, -, -, hclosed, -⟩ := transitions_all_or_nothing final newYear
  have ha : advanced.1 = .ok .design := (exec_advance_fst p newYear).trans rfl
  obtain ⟨hdone, hc⟩ := hclosed rfl
  exact ⟨ha, (hmoved _ ha).2, (hmoved _ ha).2.entered.rounds, hdone, hc, hrefused (by decide)⟩

end Project

end StageGate
