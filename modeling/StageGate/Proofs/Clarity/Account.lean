import Mathlib.Data.List.Induction
import Mathlib.Logic.Function.Basic
import StageGate.Command.Basic
import StageGate.Proofs.Clarity.Joined
import StageGate.Proofs.Session

/-!
What becomes of the segments of a score list. A segment that is not blank is a pair and scores one
dimension, or it is passed over with one warning; nothing else is collected or written in the journal, so
pairs and warnings together are as many as the segments that are not blank.
-/

set_option autoImplicit false

namespace StageGate.Clarity

/-! ### Segments that are passed over -/

structure Told (w : Warning) (message field text : String) : Prop where
  level : (Event.scoreIgnored w).level = .warn
  message : (Event.scoreIgnored w).message = message
  fields : (Event.scoreIgnored w).fields = [(field, text)]

/-- Why a segment is passed over, and the line that says so. Each reason holds only where those before
it do not. -/
inductive PassedOver (segment : List Char) (w : Warning) : Prop
  | noColon (hne : Text.trim segment ≠ []) (hcolon : ':' ∉ Text.trim segment)
    (told : Told w "ignoring dimension score without a ':' separator" "pair"
      (.ofList (Text.trim segment)))
  | notANumber (left right : List Char) (htrim : Text.trim segment = left ++ ':' :: right)
    (hleft : ':' ∉ left) (hnumber : ∀ n, ¬ BeginsWith n right)
    (told : Told w "ignoring dimension score with a non-numeric value" "pair"
      (.ofList (Text.trim segment)))
  | unknownDimension (left right : List Char) (n : Int)
    (htrim : Text.trim segment = left ++ ':' :: right) (hleft : ':' ∉ left)
    (hnumber : BeginsWith n right) (hname : ∀ d : Dimension, Text.trim left ≠ d.name.toList)
    (told : Told w "ignoring score for unknown clarity dimension" "name" (.ofList (Text.trim left)))

variable {segment left right : List Char} {w w' : Warning} {d : Dimension} {n : Int}

theorem Told.eq {message field text : String} (h : Told w message field text)
    (h' : Told w' message field text) : w = w' := by
  have hmessage := h.message.trans h'.message.symm
  have hfields := h.fields.trans h'.fields.symm
  cases w <;> cases w' <;> simp_all [Event.message, Event.fields]

theorem told_noColon (text : String) : Told (.noColon text)
    "ignoring dimension score without a ':' separator" "pair" text := ⟨rfl, rfl, rfl⟩

theorem told_notANumber (text : String) : Told (.notANumber text)
    "ignoring dimension score with a non-numeric value" "pair" text := ⟨rfl, rfl, rfl⟩

theorem told_unknownDimension (text : String) : Told (.unknownDimension text)
    "ignoring score for unknown clarity dimension" "name" text := ⟨rfl, rfl, rfl⟩

theorem leadingInteger?_eq_none_iff {cs : List Char} :
    leadingInteger? cs = none ↔ ∀ n, ¬ BeginsWith n cs := by
  rw [Option.eq_none_iff_forall_ne_some]
  exact forall_congr' fun n => not_congr leadingInteger?_eq_some_iff

theorem Dimension.ofName?_eq_none_iff {cs : List Char} :
    ofName? (.ofList cs) = none ↔ ∀ d : Dimension, cs ≠ d.name.toList := by
  rw [Option.eq_none_iff_forall_ne_some]
  refine forall_congr' fun d => not_congr ?_
  rw [ofName?_eq_some_iff, ← String.toList_inj, String.toList_ofList]

namespace Reading

theorem ofSegment_of_blank (h : Text.trim segment = []) : ofSegment segment = .blank := by
  rw [ofSegment, ofTrimmed, if_pos h]

theorem ofSegment_of_no_colon (hne : Text.trim segment ≠ []) (h : ':' ∉ Text.trim segment) :
    ofSegment segment = .ignored (.noColon (.ofList (Text.trim segment))) := by
  rw [ofSegment, ofTrimmed, if_neg hne, Text.splitFirst_eq_none_iff.2 h]

theorem ofSegment_of_no_number (htrim : Text.trim segment = left ++ ':' :: right) (hleft : ':' ∉ left)
    (h : ∀ n, ¬ BeginsWith n right) :
    ofSegment segment = .ignored (.notANumber (.ofList (Text.trim segment))) := by
  rw [ofSegment, ofTrimmed, if_neg (by simp [htrim]), Text.splitFirst_eq_some_iff.2 ⟨htrim, hleft⟩]
  simp only [leadingInteger?_eq_none_iff.2 h]

theorem ofSegment_of_unknown (htrim : Text.trim segment = left ++ ':' :: right) (hleft : ':' ∉ left)
    (hn : BeginsWith n right) (h : ∀ d : Dimension, Text.trim left ≠ d.name.toList) :
    ofSegment segment = .ignored (.unknownDimension (.ofList (Text.trim left))) := by
  rw [ofSegment, ofTrimmed, if_neg (by simp [htrim]), Text.splitFirst_eq_some_iff.2 ⟨htrim, hleft⟩]
  simp only [leadingInteger?_eq_some_iff.2 hn, Dimension.ofName?_eq_none_iff.2 h]

theorem ofSegment_of_passedOver (h : PassedOver segment w) : ofSegment segment = .ignored w := by
  cases h with
  | noColon hne hcolon told =>
    rw [ofSegment_of_no_colon hne hcolon, told.eq (told_noColon _)]
  | notANumber left right htrim hleft hnumber told =>
    rw [ofSegment_of_no_number htrim hleft hnumber, told.eq (told_notANumber _)]
  | unknownDimension left right n htrim hleft hnumber hname told =>
    rw [ofSegment_of_unknown htrim hleft hnumber hname, told.eq (told_unknownDimension _)]

theorem pair_or_passedOver (h : Text.trim segment ≠ []) :
    (∃ d n, IsPair d n segment) ∨ ∃ w, PassedOver segment w := by
  cases hcolon : Text.splitFirst ':' (Text.trim segment) with
  | none =>
    exact .inr ⟨_, .noColon h (Text.splitFirst_eq_none_iff.1 hcolon) (told_noColon _)⟩
  | some cut =>
    obtain ⟨htrim, hleft⟩ := Text.splitFirst_eq_some_iff.1 hcolon
    cases hnumber : leadingInteger? cut.2 with
    | none =>
      have hnone := leadingInteger?_eq_none_iff.1 hnumber
      exact .inr ⟨_, .notANumber cut.1 cut.2 htrim hleft hnone (told_notANumber _)⟩
    | some n =>
      have hn := leadingInteger?_eq_some_iff.1 hnumber
      by_cases hname : ∃ d : Dimension, Text.trim cut.1 = d.name.toList
      · obtain ⟨d, hd⟩ := hname
        exact .inl ⟨d, n, cut.1, cut.2, htrim, hleft, hd, hn⟩
      · exact .inr ⟨_, .unknownDimension cut.1 cut.2 n htrim hleft hn (not_exists.1 hname)
          (told_unknownDimension _)⟩

theorem ofSegment_eq_blank_iff : ofSegment segment = .blank ↔ Text.trim segment = [] := by
  refine ⟨fun h => ?_, ofSegment_of_blank⟩
  by_contra hne
  cases pair_or_passedOver hne with
  | inl hpair =>
    obtain ⟨d, n, hp⟩ := hpair
    rw [ofSegment_of_pair hp] at h
    cases h
  | inr hpassed =>
    obtain ⟨w, hw⟩ := hpassed
    rw [ofSegment_of_passedOver hw] at h
    cases h

end Reading

/-! ### What is collected -/

/-- What has been read of a list: the score of each dimension so far, and the warnings. -/
@[ext] structure Collected where
  score? : Dimension → Option UInt8
  warnings : List Warning

def collected (segments : List (List Char)) : Collected where
  score? d := lastScore? d (segments.map Reading.ofSegment)
  warnings := (segments.map Reading.ofSegment).filterMap (·.warning?)

def Reading.isScored : Reading → Bool
  | scored .. => true
  | _ => false

namespace Collected

def score (c : Collected) (d : Dimension) (score : UInt8) : Collected :=
  { c with score? := Function.update c.score? d (some score) }

def warn (c : Collected) (w : Warning) : Collected := { c with warnings := c.warnings ++ [w] }

def read (c : Collected) : Reading → Collected
  | .blank => c
  | .scored d score => c.score d score
  | .ignored w => c.warn w

theorem length_warnings_read (c : Collected) (r : Reading) :
    (c.read r).warnings.length + (if r.isScored then 1 else 0) =
      c.warnings.length + (if r = .blank then 0 else 1) := by
  cases r <;> simp [read, score, warn, Reading.isScored]

end Collected

theorem lastScore?_singleton (d : Dimension) (r : Reading) : lastScore? d [r] = r.score? d := by
  cases h : r.score? d <;> simp [lastScore?, h]

theorem collected_append (before : List (List Char)) (segment : List Char) :
    collected (before ++ [segment]) = (collected before).read (Reading.ofSegment segment) := by
  have hscore (d : Dimension) : (collected (before ++ [segment])).score? d =
      ((Reading.ofSegment segment).score? d).or ((collected before).score? d) := by
    simp only [collected, List.map_append, lastScore?_append, List.map_singleton,
      lastScore?_singleton]
  have hwarnings : (collected (before ++ [segment])).warnings =
      (collected before).warnings ++ (Reading.ofSegment segment).warning?.toList := by
    rw [collected, collected, List.map_append, List.filterMap_append, List.map_singleton]
    cases h : (Reading.ofSegment segment).warning? <;> simp [h]
  refine Collected.ext (funext fun d => (hscore d).trans ?_) (hwarnings.trans ?_)
  · cases Reading.ofSegment segment with
    | blank => rfl
    | ignored w => rfl
    | scored d' score =>
      by_cases hd : d = d'
      · simp [Collected.read, Collected.score, Reading.score?, hd]
      · simp [Collected.read, Collected.score, Reading.score?, hd, Ne.symm hd]
  · cases Reading.ofSegment segment with
    | blank => exact List.append_nil _
    | ignored w => rfl
    | scored d score => exact List.append_nil _

/-- What one segment does to what was collected before it. A blank one does nothing. Any other is a pair
and sets the score of one dimension, or it is passed over and adds one warning, and never both. -/
structure Accounted (segment : List Char) (c c' : Collected) : Prop where
  blank : Text.trim segment = [] →
    c' = c ∧ (∀ d n, ¬ IsPair d n segment) ∧ ∀ w, ¬ PassedOver segment w
  not_blank : Text.trim segment ≠ [] →
    (∃! d, ∃ n, IsPair d n segment) ∧ (∀ w, ¬ PassedOver segment w) ∨
      (∃! w, PassedOver segment w) ∧ ∀ d n, ¬ IsPair d n segment
  pair : ∀ d n, IsPair d n segment → c' = c.score d (clampScore n)
  passedOver : ∀ w, PassedOver segment w → c' = c.warn w

theorem not_passedOver_of_pair (h : IsPair d n segment) : ¬ PassedOver segment w := by
  intro hw
  have hr := Reading.ofSegment_of_pair h
  rw [Reading.ofSegment_of_passedOver hw] at hr
  cases hr

theorem eq_of_pair {d' : Dimension} {n' : Int} (h : IsPair d n segment) (h' : IsPair d' n' segment) :
    d = d' := by
  have hr := Reading.ofSegment_of_pair h
  rw [Reading.ofSegment_of_pair h', Reading.scored.injEq] at hr
  exact hr.1.symm

theorem eq_of_passedOver (h : PassedOver segment w) (h' : PassedOver segment w') : w = w' := by
  have hr := Reading.ofSegment_of_passedOver h
  rw [Reading.ofSegment_of_passedOver h', Reading.ignored.injEq] at hr
  exact hr.symm

theorem accounted_collected (before : List (List Char)) (segment : List Char) :
    Accounted segment (collected before) (collected (before ++ [segment])) where
  blank h := by
    have hr := Reading.ofSegment_of_blank h
    refine ⟨by rw [collected_append, hr, Collected.read], fun d n hp => ?_, fun w hw => ?_⟩
    · rw [Reading.ofSegment_of_pair hp] at hr
      cases hr
    · rw [Reading.ofSegment_of_passedOver hw] at hr
      cases hr
  not_blank h := by
    cases Reading.pair_or_passedOver h with
    | inl hpair =>
      obtain ⟨d, n, hp⟩ := hpair
      exact .inl ⟨⟨d, ⟨n, hp⟩, fun d' ⟨n', hp'⟩ => eq_of_pair hp' hp⟩,
        fun w => not_passedOver_of_pair hp⟩
    | inr hpassed =>
      obtain ⟨w, hw⟩ := hpassed
      exact .inr ⟨⟨w, hw, fun w' hw' => eq_of_passedOver hw' hw⟩,
        fun d n hp => not_passedOver_of_pair hp hw⟩
  pair d n h := by rw [collected_append, Reading.ofSegment_of_pair h, Collected.read]
  passedOver w h := by rw [collected_append, Reading.ofSegment_of_passedOver h, Collected.read]

/-! ### The whole list -/

def Contributes (segment : List Char) : Prop := ∃ d n, IsPair d n segment

theorem isScored_ofSegment_iff :
    (Reading.ofSegment segment).isScored = true ↔ Contributes segment := by
  constructor
  · intro h
    cases hr : Reading.ofSegment segment with
    | blank => simp [hr, Reading.isScored] at h
    | ignored w => simp [hr, Reading.isScored] at h
    | scored d score =>
      obtain ⟨n, hp, -⟩ := Reading.exists_pair_of_ofSegment hr
      exact ⟨d, n, hp⟩
  · intro ⟨d, n, hp⟩
    rw [Reading.ofSegment_of_pair hp, Reading.isScored]

instance : Decidable (Contributes segment) := decidable_of_iff _ isScored_ofSegment_iff

theorem length_warnings_add_countP (segments : List (List Char)) :
    (collected segments).warnings.length + segments.countP (Contributes ·) =
      segments.countP (Text.trim · ≠ []) := by
  induction segments using List.reverseRecOn with
  | nil => rfl
  | append_singleton before segment ih =>
    have hstep := (collected before).length_warnings_read (Reading.ofSegment segment)
    rw [← collected_append] at hstep
    simp only [List.countP_append, List.countP_singleton, ← isScored_ofSegment_iff,
      ← Reading.ofSegment_eq_blank_iff, decide_eq_true_eq, ne_eq, ite_not] at ih hstep ⊢
    omega

theorem ratings_applyScores (list : String) (rs : List Rating) :
    (applyScores list rs).ratings = rs.map fun r =>
      { r with score := ((collected (Text.split ',' list.toList)).score? r.dimension).getD r.score } :=
  List.map_congr_left fun r _ => r.withReadings_eq _

theorem appends_advance (p : Project) : (Pipeline.advance p).Appends := by
  intro w
  cases h : p.advance w.now <;> simp [Pipeline.advance, Session.exec_bind, h]

theorem journal_judge (p : Project) (list : String) (w : Surroundings) :
    w.journal ++ (applyScores list blankRatings).events <+:
      (Session.exec (Command.judge p list) w).2.journal := by
  rw [Command.judge]
  refine Session.Appends.after_note ?_ w
  dsimp only
  split
  · exact (appends_advance _).bind fun _ => .pure _
  · exact .pure _

/-- Nothing in a score list is lost silently. Each segment does one of three things to what was collected
before it, and the list does to ratings what was collected in the end. The journal has the warnings in the
order of their segments and then, once, the number of ratings that were scored; it is what a round of
judgement adds to the journal first. Warnings and pairs are as many as segments that are not blank. -/
theorem no_pair_lost (list : String) (rs : List Rating) :
    ∃ segments, CutAtCommas list segments ∧
      collected [] = { score? := fun _ => none, warnings := [] } ∧
      (∀ before segment, Accounted segment (collected before) (collected (before ++ [segment]))) ∧
      let outcome := applyScores list rs
      outcome.ratings = rs.map (fun r =>
        { r with score := ((collected segments).score? r.dimension).getD r.score }) ∧
      (∃ last, outcome.events = (collected segments).warnings.map .scoreIgnored ++ [last] ∧
        last.level = .debug ∧ last.message = "applied clarity dimension scores" ∧
        last.fields = [("applied", toString outcome.applied)]) ∧
      (∀ p w, w.journal ++ (applyScores list blankRatings).events <+:
        (Session.exec (Command.judge p list) w).2.journal) ∧
      (collected segments).warnings.length + segments.countP (Contributes ·) =
        segments.countP (Text.trim · ≠ []) := by
  exact ⟨_, cutAtCommas_split list, rfl, accounted_collected, ratings_applyScores list rs,
    ⟨_, rfl, rfl, rfl, rfl⟩, fun p w => journal_judge p list w, length_warnings_add_countP _⟩

/-- A pair, a segment for each reason to pass one over, and two blanks. The name `ease` is not looked at,
as its value is not a number. -/
theorem no_pair_lost_broken :
    let list := "security: 40, security, ease: x, ease: 1, ,"
    ∃ segments, CutAtCommas list segments ∧ segments.countP (Text.trim · ≠ []) = 4 ∧
      (collected segments).warnings =
        [.noColon "security", .notANumber "ease: x", .unknownDimension "ease"] ∧
      segments.countP (Contributes ·) = 1 := by
  intro list
  obtain ⟨segments, hcut, -, -, -, -, -, hcount⟩ := no_pair_lost list blankRatings
  have hsegments := hcut.eq_split
  have hblank : segments.countP (Text.trim · ≠ []) = 4 := by rw [hsegments]; decide
  have hwarnings : (collected segments).warnings =
      [.noColon "security", .notANumber "ease: x", .unknownDimension "ease"] := by
    rw [hsegments]
    decide
  rw [hwarnings, hblank] at hcount
  exact ⟨segments, hcut, hblank, hwarnings, Nat.add_left_cancel hcount⟩

end StageGate.Clarity
