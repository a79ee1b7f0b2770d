import Mathlib.Algebra.Ring.Int.Defs
import Mathlib.Data.List.Forall2
import StageGate.Clarity.ScoreList
import StageGate.Proofs.Text.Digits
import StageGate.Proofs.Text.Segments

/-!
What a score list means, said of its segments. A segment is a pair for a dimension when it has the name of
the dimension, a colon and a number; what a list does to ratings is then decided by the last pair for
each dimension, whatever stands in the other segments.
-/

set_option autoImplicit false

namespace StageGate.Clarity

/-! ### The number of a pair -/

/-- The number that digits stand for under an optional sign. -/
inductive Signed (k : Nat) : List Char → Int → Prop
  | none : Signed k [] k
  | plus : Signed k ['+'] k
  | minus : Signed k ['-'] (-k)

/-- Behind blanks and an optional sign the text has digits, as many as follow one another, that stand for
a number of 64 bits; anything may come after them. -/
def BeginsWith (n : Int) (cs : List Char) : Prop :=
  ∃ blanks sign digits rest, cs = blanks ++ (sign ++ (digits ++ rest)) ∧
    (∀ c ∈ blanks, Text.isBlank c = true) ∧
    Signed (Nat.ofDigitChars 10 digits 0) sign n ∧
    digits ≠ [] ∧ (∀ c ∈ digits, c.isDigit = true) ∧ Text.Stops Char.isDigit rest ∧
    -2 ^ 63 ≤ n ∧ n < 2 ^ 63

theorem isInt64_iff {n : Int} : Decimal.isInt64 n = true ↔ -2 ^ 63 ≤ n ∧ n < 2 ^ 63 := by
  simp [Decimal.isInt64]

theorem leadingDigits?_run {digits rest : List Char} (hne : digits ≠ [])
    (hd : ∀ c ∈ digits, c.isDigit = true) (hs : Text.Stops Char.isDigit rest) :
    Decimal.leadingDigits? (digits ++ rest) = some (Nat.ofDigitChars 10 digits 0) := by
  rw [Decimal.leadingDigits?, Text.takeWhile_run hd hs]
  cases digits with
  | nil => exact absurd rfl hne
  | cons d ds => rfl

theorem exists_run_of_leadingDigits? {cs : List Char} {k : Nat} (h : Decimal.leadingDigits? cs = some k) :
    ∃ digits rest, cs = digits ++ rest ∧ k = Nat.ofDigitChars 10 digits 0 ∧ digits ≠ [] ∧
      (∀ c ∈ digits, c.isDigit = true) ∧ Text.Stops Char.isDigit rest := by
  refine ⟨cs.takeWhile Char.isDigit, cs.dropWhile Char.isDigit, List.takeWhile_append_dropWhile.symm,
    ?_, ?_, fun c hc => List.mem_takeWhile_imp hc, Text.stops_dropWhile _ _⟩
  · cases hd : cs.takeWhile Char.isDigit with
    | nil => simp [Decimal.leadingDigits?, hd] at h
    | cons d ds => simpa [Decimal.leadingDigits?, hd] using h.symm
  · intro hd
    simp [Decimal.leadingDigits?, hd] at h

theorem exists_signed_of_leadingInteger? {cs : List Char} {n : Int} (h : leadingInteger? cs = some n) :
    ∃ sign digits rest, Text.trimStart cs = sign ++ (digits ++ rest) ∧
      Signed (Nat.ofDigitChars 10 digits 0) sign n ∧ digits ≠ [] ∧
      (∀ c ∈ digits, c.isDigit = true) ∧ Text.Stops Char.isDigit rest := by
  obtain ⟨h, -⟩ := Option.filter_eq_some_iff.1 h
  split at h
  · next ds hcs =>
    obtain ⟨k, hk, rfl⟩ : ∃ k, Decimal.leadingDigits? ds = some k ∧ -(k : Int) = n := by
      simpa [Option.bind_eq_some_iff] using h
    obtain ⟨digits, rest, rfl, rfl, hrun⟩ := exists_run_of_leadingDigits? hk
    exact ⟨['-'], digits, rest, hcs, .minus, hrun⟩
  · next ds hcs =>
    obtain ⟨k, hk, rfl⟩ : ∃ k, Decimal.leadingDigits? ds = some k ∧ (k : Int) = n := by
      simpa [Option.bind_eq_some_iff] using h
    obtain ⟨digits, rest, rfl, rfl, hrun⟩ := exists_run_of_leadingDigits? hk
    exact ⟨['+'], digits, rest, hcs, .plus, hrun⟩
  · obtain ⟨k, hk, rfl⟩ : ∃ k, Decimal.leadingDigits? (Text.trimStart cs) = some k ∧ (k : Int) = n := by
      simpa [Option.bind_eq_some_iff] using h
    obtain ⟨digits, rest, hcs, rfl, hrun⟩ := exists_run_of_leadingDigits? hk
    exact ⟨[], digits, rest, hcs, .none, hrun⟩

theorem leadingInteger?_eq_some_iff {cs : List Char} {n : Int} :
    leadingInteger? cs = some n ↔ BeginsWith n cs := by
  constructor
  · intro h
    obtain ⟨sign, digits, rest, hcs, hsign, hne, hd, hs⟩ := exists_signed_of_leadingInteger? h
    refine ⟨cs.takeWhile Text.isBlank, sign, digits, rest, ?_, fun c hc => List.mem_takeWhile_imp hc,
      hsign, hne, hd, hs, isInt64_iff.1 (Option.filter_eq_some_iff.1 h).2⟩
    rw [← hcs, Text.trimStart, List.takeWhile_append_dropWhile]
  · rintro ⟨blanks, sign, digits, rest, rfl, hb, hsign, hne, hd, hs, hn⟩
    have hrun := leadingDigits?_run hne hd hs
    rw [leadingInteger?, Text.trimStart_append_of_blank _ _ hb]
    refine Option.filter_eq_some_iff.2 ⟨?_, isInt64_iff.2 hn⟩
    cases hsign with
    | minus =>
      rw [List.cons_append, List.nil_append, Text.trimStart_cons_of_not_blank (by decide)]
      simp only [hrun]
      rfl
    | plus =>
      rw [List.cons_append, List.nil_append, Text.trimStart_cons_of_not_blank (by decide)]
      simp only [hrun]
      rfl
    | none =>
      obtain ⟨d, ds, rfl⟩ := List.exists_cons_of_ne_nil hne
      have hdigit : d.isDigit = true := hd d (by simp)
      rw [List.nil_append, List.cons_append,
        Text.trimStart_cons_of_not_blank (Text.isBlank_of_isDigit hdigit), ← List.cons_append]
      split
      · next h => simp [(List.cons.inj h).1] at hdigit
      · next h => simp [(List.cons.inj h).1] at hdigit
      · rw [hrun]
        rfl

/-! ### Pairs -/

/-- Trimmed, the segment is the name of the dimension, a colon, and a text that begins with the number;
blanks may stand around the name. -/
def IsPair (d : Dimension) (n : Int) (segment : List Char) : Prop :=
  ∃ left right, Text.trim segment = left ++ ':' :: right ∧ ':' ∉ left ∧
    Text.trim left = d.name.toList ∧ BeginsWith n right

namespace Reading

variable {segment : List Char} {d : Dimension} {score : UInt8}

theorem exists_pair_of_ofSegment (h : ofSegment segment = .scored d score) :
    ∃ n, IsPair d n segment ∧ score = clampScore n := by
  rw [ofSegment, ofTrimmed] at h
  split at h
  · cases h
  · split at h
    · cases h
    · next left right hcolon =>
      split at h
      · cases h
      · next n hn =>
        obtain ⟨htrim, hleft⟩ := Text.splitFirst_eq_some_iff.1 hcolon
        dsimp only at h
        split at h
        · cases h
        · next d' hname =>
          cases h
          have hd : Text.trim left = d.name.toList := by
            rw [← Dimension.ofName?_eq_some_iff.1 hname, String.toList_ofList]
          exact ⟨n, ⟨left, right, htrim, hleft, hd, leadingInteger?_eq_some_iff.1 hn⟩, rfl⟩

theorem ofSegment_of_pair {n : Int} (h : IsPair d n segment) :
    ofSegment segment = .scored d (clampScore n) := by
  obtain ⟨left, right, htrim, hleft, hd, hn⟩ := h
  have hname : Dimension.ofName? (.ofList (Text.trim left)) = some d := by
    rw [hd, String.ofList_toList, Dimension.ofName?_name]
  rw [ofSegment, ofTrimmed, if_neg (by simp [htrim]), htrim,
    Text.splitFirst_eq_some_iff.2 ⟨rfl, hleft⟩]
  simp only [leadingInteger?_eq_some_iff.2 hn, hname]

theorem score?_ofSegment_eq_some_iff :
    (ofSegment segment).score? d = some score ↔ ∃ n, IsPair d n segment ∧ score = clampScore n := by
  constructor
  · intro h
    apply exists_pair_of_ofSegment
    cases hr : ofSegment segment with
    | blank => simp [hr, score?] at h
    | ignored warning => simp [hr, score?] at h
    | scored d' n =>
      rw [hr, score?] at h
      split at h
      · next hd => simpa [hd] using h
      · cases h
  · rintro ⟨n, hp, rfl⟩
    rw [ofSegment_of_pair hp, score?, if_pos rfl]

theorem score?_ofSegment_eq_none_iff :
    (ofSegment segment).score? d = none ↔ ∀ n, ¬ IsPair d n segment := by
  rw [Option.eq_none_iff_forall_ne_some]
  constructor
  · exact fun h n hp => h _ (score?_ofSegment_eq_some_iff.2 ⟨n, hp, rfl⟩)
  · intro h score hs
    obtain ⟨n, hp, -⟩ := score?_ofSegment_eq_some_iff.1 hs
    exact h n hp

end Reading

/-! ### The last pair of a dimension -/

def HasPair (segments : List (List Char)) (d : Dimension) : Prop :=
  ∃ segment ∈ segments, ∃ n, IsPair d n segment

def LastPair (segments : List (List Char)) (d : Dimension) (n : Int) : Prop :=
  ∃ before segment after, segments = before ++ segment :: after ∧ IsPair d n segment ∧
    ¬ HasPair after d

inductive FinalScore (segments : List (List Char)) (d : Dimension) (old : UInt8) : UInt8 → Prop
  | paired (n : Int) (score : UInt8) (h : LastPair segments d n)
    (hs : (score.toNat : Int) = max 0 (min n 100)) : FinalScore segments d old score
  | kept (h : ¬ HasPair segments d) : FinalScore segments d old old

variable {segments : List (List Char)} {d : Dimension}

theorem not_hasPair_iff : ¬ HasPair segments d ↔
    ∀ segment ∈ segments, (Reading.ofSegment segment).score? d = none := by
  simp only [HasPair, not_exists, not_and, Reading.score?_ofSegment_eq_none_iff]

theorem lastScore?_eq_some_iff {score : UInt8} :
    lastScore? d (segments.map Reading.ofSegment) = some score ↔
      ∃ n, LastPair segments d n ∧ score = clampScore n := by
  rw [lastScore?, List.getLast?_filterMap, ← List.map_reverse, List.findSome?_map,
    List.findSome?_eq_some_iff]
  constructor
  · rintro ⟨after, segment, before, hs, hscore, hnone⟩
    obtain ⟨n, hp, rfl⟩ := Reading.score?_ofSegment_eq_some_iff.1 hscore
    refine ⟨n, ⟨before.reverse, segment, after.reverse, ?_, hp, not_hasPair_iff.2 ?_⟩, rfl⟩
    · rw [← List.reverse_reverse segments, hs]
      simp
    · exact fun s hm => hnone s (List.mem_reverse.1 hm)
  · rintro ⟨n, ⟨before, segment, after, rfl, hp, hnone⟩, rfl⟩
    refine ⟨after.reverse, segment, before.reverse, by simp,
      Reading.score?_ofSegment_eq_some_iff.2 ⟨n, hp, rfl⟩, ?_⟩
    exact fun s hm => not_hasPair_iff.1 hnone s (List.mem_reverse.1 hm)

theorem lastScore?_eq_none_iff :
    lastScore? d (segments.map Reading.ofSegment) = none ↔ ¬ HasPair segments d := by
  rw [lastScore?, List.getLast?_eq_none_iff, List.filterMap_eq_nil_iff, List.forall_mem_map,
    not_hasPair_iff]

theorem isSome_lastScore?_iff :
    (lastScore? d (segments.map Reading.ofSegment)).isSome = true ↔ HasPair segments d := by
  rw [Option.isSome_iff_ne_none, ne_eq, lastScore?_eq_none_iff, not_not]

instance : Decidable (HasPair segments d) := decidable_of_iff _ isSome_lastScore?_iff

theorem toNat_clampScore (n : Int) : ((clampScore n).toNat : Int) = max 0 (min n 100) := by
  have hm : maxScore.toNat = 100 := rfl
  rw [clampScore, hm]
  simp only [Nat.toUInt8, UInt8.toNat_ofNat']
  omega

/-! ### What a list does to ratings -/

/-- The segments are those between the commas of the list; a list without commas is one segment. -/
structure CutAtCommas (list : String) (segments : List (List Char)) : Prop where
  nonempty : segments ≠ []
  no_comma : ∀ segment ∈ segments, ',' ∉ segment
  joined : list.toList = [','].intercalate segments

theorem cutAtCommas_split (list : String) : CutAtCommas list (Text.split ',' list.toList) where
  nonempty := Text.split_ne_nil _ _
  no_comma _ := Text.notMem_of_mem_split
  joined := (Text.intercalate_split _ _).symm

structure Rating.Rescored (segments : List (List Char)) (r r' : Rating) : Prop where
  dimension : r'.dimension = r.dimension
  weight : r'.weight = r.weight
  score : FinalScore segments r.dimension r.score r'.score

theorem Rating.rescored_withReadings (segments : List (List Char)) (r : Rating) :
    r.Rescored segments (r.withReadings (segments.map Reading.ofSegment)) := by
  rw [withReadings]
  split
  · next score hs =>
    obtain ⟨n, hn, rfl⟩ := lastScore?_eq_some_iff.1 hs
    exact ⟨rfl, rfl, .paired n _ hn (toNat_clampScore n)⟩
  · next hs => exact ⟨rfl, rfl, .kept (lastScore?_eq_none_iff.1 hs)⟩

/-- A score list is cut at its commas. The ratings stay as many as they were, in their order and with
their weights; each of them has the score of the last pair for its dimension, kept between none and a
hundred, or its old one where there is no pair. Those that have a pair are counted. -/
theorem scored_by_last_pairs (list : String) (rs : List Rating) :
    ∃ segments, CutAtCommas list segments ∧
      List.Forall₂ (Rating.Rescored segments) rs (applyScores list rs).ratings ∧
      (applyScores list rs).applied = rs.countP fun r => HasPair segments r.dimension := by
  refine ⟨_, cutAtCommas_split list, ?_, ?_⟩
  · exact List.forall₂_map_right_iff.2 (List.forall₂_same.2 fun r _ => r.rescored_withReadings _)
  · refine List.countP_congr fun r _ => ?_
    rw [decide_eq_true_iff]
    exact isSome_lastScore?_iff

/-- What follows a pair does not undo it unless it is a pair itself, and a name must be written exactly. -/
example : ((applyScores " security :+120% , security:none,Security:3" blankRatings).ratings.filter
    (0 < ·.score)).map (fun r => (r.dimension, r.score)) = [(.security, 100)] := by decide

end StageGate.Clarity
