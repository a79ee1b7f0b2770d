import StageGate.Journal
import StageGate.Proofs.Clarity.Segment

/-!
Score lists that are put together with a comma. The joined list does what its two parts do one after the
other, and its warnings are theirs in the same order; so a list that is given again changes nothing, and
the order of two lists does not matter as long as they score different dimensions.
-/

set_option autoImplicit false

namespace StageGate.Clarity

/-! ### The dimensions of a list -/

theorem CutAtCommas.eq_split {list : String} {segments : List (List Char)}
    (h : CutAtCommas list segments) : segments = Text.split ',' list.toList := by
  rw [h.joined, Text.split_intercalate h.nonempty h.no_comma]

def Names (list : String) (d : Dimension) : Prop :=
  ∃ segments, CutAtCommas list segments ∧ HasPair segments d

variable {list a b : String} {d : Dimension} {rs : List Rating}

theorem names_iff : Names list d ↔ (lastScore? d (readings list.toList)).isSome = true := by
  rw [readings, isSome_lastScore?_iff]
  constructor
  · intro h
    obtain ⟨segments, hcut, hpair⟩ := h
    rwa [← hcut.eq_split]
  · exact fun h => ⟨_, cutAtCommas_split list, h⟩

instance : Decidable (Names list d) := decidable_of_iff _ names_iff.symm

theorem lastScore?_of_not_names (h : ¬ Names list d) : lastScore? d (readings list.toList) = none := by
  rwa [names_iff, Option.not_isSome_iff_eq_none] at h

/-! ### What a list does after another -/

theorem lastScore?_append (d : Dimension) (as bs : List Reading) :
    lastScore? d (as ++ bs) = (lastScore? d bs).or (lastScore? d as) := by
  rw [lastScore?, lastScore?, lastScore?, List.filterMap_append, List.getLast?_append]

theorem Rating.withReadings_eq (read : List Reading) (r : Rating) :
    r.withReadings read = { r with score := (lastScore? r.dimension read).getD r.score } := by
  rw [withReadings]
  cases lastScore? r.dimension read <;> rfl

theorem Rating.withReadings_append (as bs : List Reading) (r : Rating) :
    r.withReadings (as ++ bs) = (r.withReadings as).withReadings bs := by
  simp only [withReadings_eq, lastScore?_append]
  cases lastScore? r.dimension bs <;> rfl

theorem readings_joined (a b : String) :
    readings (a ++ "," ++ b).toList = readings a.toList ++ readings b.toList := by
  rw [String.toList_append, String.toList_append, List.append_assoc, ← readings_append]
  rfl

theorem ratings_joined (a b : String) (rs : List Rating) :
    (applyScores (a ++ "," ++ b) rs).ratings = (applyScores b (applyScores a rs).ratings).ratings := by
  simp only [applyScores, readings_joined, List.map_map]
  exact List.map_congr_left fun r _ => r.withReadings_append _ _

theorem applied_joined (a b : String) (rs : List Rating) :
    (applyScores (a ++ "," ++ b) rs).applied =
      rs.countP fun r => Names a r.dimension ∨ Names b r.dimension := by
  rw [applyScores]
  refine List.countP_congr fun r _ => ?_
  rw [decide_eq_true_iff, names_iff, names_iff, readings_joined, lastScore?_append, Option.isSome_or,
    Bool.or_eq_true, or_comm]

theorem warnings_joined (a b : String) (rs : List Rating) :
    (applyScores (a ++ "," ++ b) rs).warnings =
      (applyScores a rs).warnings ++ (applyScores b (applyScores a rs).ratings).warnings := by
  rw [applyScores, applyScores, applyScores, readings_joined, List.filterMap_append]

def Scored.warned (s : Scored) : List Event := s.events.filter fun e => e.level = .warn

theorem Scored.warned_eq (s : Scored) : s.warned = s.warnings.map .scoreIgnored := by
  have hwarnings : (s.warnings.map Event.scoreIgnored).filter (fun e => e.level = .warn) =
      s.warnings.map .scoreIgnored := by
    rw [List.filter_eq_self, List.forall_mem_map]
    exact fun w _ => decide_eq_true rfl
  rw [warned, events, List.filter_append, hwarnings]
  exact List.append_nil _

/-! ### Lists that are given again, and lists in another order -/

theorem Rating.withReadings_twice (read : List Reading) (r : Rating) :
    (r.withReadings read).withReadings read = r.withReadings read := by
  simp only [withReadings_eq]
  cases lastScore? r.dimension read <;> rfl

theorem applyScores_twice (list : String) (rs : List Rating) :
    applyScores list (applyScores list rs).ratings = applyScores list rs := by
  have hdimension (r : Rating) : (r.withReadings (readings list.toList)).dimension = r.dimension := by
    rw [Rating.withReadings_eq]
  simp only [applyScores, List.map_map, List.countP_map, Function.comp_def, hdimension,
    Rating.withReadings_twice]

theorem ratings_joined_comm (h : ∀ d, ¬ (Names a d ∧ Names b d)) :
    (applyScores (a ++ "," ++ b) rs).ratings = (applyScores (b ++ "," ++ a) rs).ratings := by
  simp only [applyScores, readings_joined]
  refine List.map_congr_left fun r _ => ?_
  rw [Rating.withReadings_eq, Rating.withReadings_eq, lastScore?_append, lastScore?_append]
  by_cases ha : Names a r.dimension
  · rw [lastScore?_of_not_names fun hb => h _ ⟨ha, hb⟩, Option.or_none, Option.none_or]
  · rw [lastScore?_of_not_names ha, Option.or_none, Option.none_or]

/-- Two lists with a comma between them do to ratings what the first does and then the second. Those
ratings are counted whose dimension has a pair in either list, and the warnings of the first stand before
those of the second. A list that is given twice does no more than once, and two lists without a common
dimension may change places. -/
theorem applyScores_joined (a b : String) (rs : List Rating) :
    let first := applyScores a rs
    let second := applyScores b first.ratings
    let joined := applyScores (a ++ "," ++ b) rs
    joined.ratings = second.ratings ∧
    joined.applied = (rs.countP fun r => Names a r.dimension ∨ Names b r.dimension) ∧
    joined.warned = first.warned ++ second.warned ∧
    applyScores a first.ratings = first ∧ (applyScores (a ++ "," ++ a) rs).ratings = first.ratings ∧
    ((∀ d, ¬ (Names a d ∧ Names b d)) → joined.ratings = (applyScores (b ++ "," ++ a) rs).ratings) := by
  intro first second joined
  refine ⟨ratings_joined a b rs, applied_joined a b rs, ?_, applyScores_twice a rs, ?_,
    ratings_joined_comm⟩
  · rw [Scored.warned_eq, Scored.warned_eq, Scored.warned_eq, ← List.map_append, ← warnings_joined]
  · rw [ratings_joined, applyScores_twice]

/-- A seam between two broken pairs, and a dimension that is named twice but scored once. -/
theorem applyScores_joined_seam :
    let a := "security:high,data_model: 500,edge_cases"
    let b := ":40, security : -3 ,,"
    (∀ d, ¬ (Names a d ∧ Names b d)) ∧
      (applyScores (a ++ "," ++ b) blankRatings).ratings =
        (applyScores (b ++ "," ++ a) blankRatings).ratings ∧
      (applyScores (a ++ "," ++ b) blankRatings).applied = 2 := by
  intro a b
  have h : ∀ d, ¬ (Names a d ∧ Names b d) := fun d => by cases d <;> decide
  obtain ⟨-, happlied, -, -, -, hcomm⟩ := applyScores_joined a b blankRatings
  exact ⟨h, hcomm h, happlied.trans (by decide)⟩

end StageGate.Clarity
