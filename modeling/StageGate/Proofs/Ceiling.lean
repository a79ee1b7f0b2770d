import StageGate.Proofs.Clarity.Bound
import StageGate.Proofs.Judgement
import StageGate.Proofs.Milestones

/-!
The ceiling of scores. Commands give no score above the maximum, and a project file is read with whatever
score it has. So a score above the maximum is one that was on the disk at first and has not been judged
since; it stays until the next judgement, and meets every threshold until then.
-/

set_option autoImplicit false

namespace StageGate

open Session Store

variable {l : Layout} {d : Disk} {now : Instant} {p q : Project} {c : Command} {o : Outcome}
  {start v w : Surroundings} {calls : List Call}

theorem Command.Step.score_le_or_eq (h : Command.Step l d now p c q o) :
    q.score ≤ Clarity.maxScore ∨ q.score = p.score := by
  cases h with
  | passed scores list hp hg hs => exact Or.inl (Clarity.score_round_le list)
  | failed scores list hp hg hs => exact Or.inl (Clarity.score_round_le list)
  | advanced s t hp hg ht => exact Or.inr (by simp)
  | _ => exact Or.inr rfl

def Capped (l : Layout) (first : Option Project) (w : Surroundings) : Prop :=
  ∀ q, project? l w.disk = some q → q.score ≤ Clarity.maxScore ∨ ∃ p ∈ first, q.score = p.score

namespace Capped

variable {first : Option Project}

theorem at_first (l : Layout) (w : Surroundings) : Capped l (project? l w.disk) w :=
  fun q hq => Or.inr ⟨q, hq, rfl⟩

theorem of_project?_eq (h : Capped l first w) (he : project? l v.disk = project? l w.disk) :
    Capped l first v := fun q hq => h q (he.symm.trans hq)

theorem call (h : Capped l first w) (c : Command) : Capped l first (c.call l w).after := by
  have he := Command.effect_call l c w
  generalize (c.call l w).result = result, (c.call l w).after = after at he ⊢
  cases he with
  | refused e _ hsame => exact h.of_project?_eq hsame
  | looked _ hs hd => exact h.of_project?_eq (by rw [hd])
  | began name description mode _ hc hnone hn =>
    intro q hq
    obtain rfl := Option.some.inj (hn.symm.trans hq)
    exact Or.inl (show (0 : UInt8) ≤ Clarity.maxScore by decide)
  | changed p r o _ hp hs hn =>
    intro q hq
    obtain rfl := Option.some.inj (hn.symm.trans hq)
    rcases hs.score_le_or_eq with hle | heq
    · exact Or.inl hle
    · obtain hle | ⟨p', hp', hscore⟩ := h p hp
      · exact Or.inl (show r.score ≤ Clarity.maxScore from heq ▸ hle)
      · exact Or.inr ⟨p', hp', heq.trans hscore⟩

end Capped

namespace History

/-- The surroundings at the end of a history, and before and after each of its calls. -/
def Visits (calls : List Call) (w v : Surroundings) : Prop :=
  v = w ∨ ∃ c ∈ calls, v = c.before ∨ v = c.after

theorem capped (h : History l start calls w) :
    ∀ v, Visits calls w v → Capped l (project? l start.disk) v := by
  -- on the calls; that the last surroundings are capped carries it over the next one
  induction h with
  | nil =>
    rintro v (rfl | ⟨c, hc, -⟩)
    · exact .at_first l v
    · cases hc
  | @call calls w c _ ih =>
    have hw := ih w (Or.inl rfl)
    rintro v (rfl | ⟨b, hb, hv⟩)
    · exact hw.call c
    · rcases List.mem_append.1 hb with hb | hb
      · exact ih v (Or.inr ⟨b, hb, hv⟩)
      · obtain rfl := List.mem_singleton.1 hb
        rcases hv with rfl | rfl
        · exact hw
        · exact hw.call c
  | @between calls w w' _ hu ih =>
    rintro v (rfl | hv)
    · exact (ih w (Or.inl rfl)).of_project?_eq (project?_of_untouched hu)
    · exact ih v (Or.inr hv)

/-- Before and after every command, the score of the project that is loaded is at most the maximum, or it
is that which was loaded first; so it is at most the maximum throughout if it is so at first. -/
theorem score_le_or_first (h : History l start calls w) :
    (∀ v q, Visits calls w v → (exec (load l) v).1 = .ok q →
      q.score ≤ Clarity.maxScore ∨ ∃ p, (exec (load l) start).1 = .ok p ∧ q.score = p.score) ∧
    ((∀ p, (exec (load l) start).1 = .ok p → p.score ≤ Clarity.maxScore) →
      ∀ v q, Visits calls w v → (exec (load l) v).1 = .ok q → q.score ≤ Clarity.maxScore) := by
  have hload (v : Surroundings) (q : Project) :
      (exec (load l) v).1 = .ok q ↔ project? l v.disk = some q := by
    rw [(computes_load l v).1, project?_eq_some]
  have hall : ∀ v q, Visits calls w v → (exec (load l) v).1 = .ok q →
      q.score ≤ Clarity.maxScore ∨ ∃ p, (exec (load l) start).1 = .ok p ∧ q.score = p.score := by
    intro v q hv hq
    obtain hle | ⟨p, hp, heq⟩ := h.capped v hv q ((hload v q).1 hq)
    · exact Or.inl hle
    · exact Or.inr ⟨p, (hload start p).2 hp, heq⟩
  refine ⟨hall, fun hfirst v q hv hq => ?_⟩
  obtain hle | ⟨p, hp, heq⟩ := hall v q hv hq
  · exact hle
  · rw [heq]
    exact hfirst p hp

theorem score_le_or_first_fullRoot :
    let l := Layout.standard ⟨""⟩
    let p := Project.blank "shop" "sells flowers" .guided newYear
    let high := (Command.advance .clarify).call l (fresh overratedRoot newYear)
    let low := (Command.start .init).call l (fresh (fullRoot p.toText.toUTF8) newYear)
    (∀ q, (exec (load l) high.after).1 = .ok q →
      q.score ≤ Clarity.maxScore ∨ ∃ p, (exec (load l) high.before).1 = .ok p ∧ q.score = p.score) ∧
    ∃ q, (exec (load l) low.after).1 = .ok q ∧ q.score ≤ Clarity.maxScore := by
  intro l p high low
  have hp : read l (fullRoot p.toText.toUTF8) = .ok p := read_of_find (find_fullRoot _)
  have hlow : History l (fresh (fullRoot p.toText.toUTF8) newYear) [low] low.after := .call _ .nil
  have hhigh : History l (fresh overratedRoot newYear) [high] high.after := .call _ .nil
  have hfirst : ∀ r, (exec (load l) low.before).1 = .ok r → r.score ≤ Clarity.maxScore := by
    intro r hr
    obtain rfl := Except.ok.inj (hp.symm.trans ((computes_load l low.before).1.symm.trans hr))
    exact show (0 : UInt8) ≤ Clarity.maxScore by decide
  obtain ⟨-, hq⟩ := Command.call_of_step (w := low.before) (project?_eq_some.2 hp) (.started .init rfl)
  have hload : (exec (load l) low.after).1 = .ok _ :=
    (computes_load l low.after).1.trans (project?_eq_some.1 hq)
  exact ⟨fun q => (score_le_or_first hhigh).1 high.after q (Or.inl rfl),
    _, hload, (score_le_or_first hlow).2 hfirst low.after _ (Or.inl rfl) hload⟩

/-- A project file with a score above the maximum is loaded, and its project then passes the gate without a
judgement. -/
theorem score_above_maximum :
    let l := Layout.standard ⟨""⟩
    let call := (Command.advance .clarify).call l (fresh overratedRoot newYear)
    History l call.before [call] call.after ∧ (exec (load l) call.before).1 = .ok overrated ∧
    Clarity.maxScore < overrated.score ∧ call.result = .ok .done ∧
    ∃ q, (exec (load l) call.after).1 = .ok q ∧ q.stage = .design ∧ Clarity.maxScore < q.score := by
  intro l call
  have hp : read l overratedRoot = .ok overrated := read_of_find find_overratedRoot
  have hmet : overrated.stage = .clarify → overrated.threshold ≤ overrated.score := fun _ => by decide
  obtain ⟨hr, hq⟩ := Command.call_of_step (w := call.before) (project?_eq_some.2 hp)
    (.advanced .clarify .design rfl (fun _ => hmet rfl) rfl)
  have hload : (exec (load l) call.after).1 = .ok _ :=
    (computes_load l call.after).1.trans (project?_eq_some.1 hq)
  exact ⟨.call _ .nil, (computes_load l _).1.trans hp, by decide, hr, _, hload, rfl, by decide⟩

end History

end StageGate
