import StageGate.Proofs.Json.Numeral

/-!
Printed data is read back, with the fields of every object put into the order of their keys. It must
hold no doubles, and its brackets must not stand deeper in each other than the reader goes.
-/

set_option autoImplicit false

namespace StageGate.Json

open Text

/-- Data without doubles whose brackets stand in each other at most so deep. -/
inductive Plain : Nat → Json → Prop where
  | null {d : Nat} : Plain d .null
  | bool {d : Nat} (b : Bool) : Plain d (.bool b)
  | int {d : Nat} {n : Int} (hn : IsWhole n) : Plain d (.int n)
  | string {d : Nat} (s : String) : Plain d (.string s)
  | array {d : Nat} {xs : List Json} (h : ∀ x ∈ xs, Plain d x) : Plain (d + 1) (.array xs)
  | object {d : Nat} {fs : List (String × Json)} (h : ∀ f ∈ fs, Plain d f.2) :
      Plain (d + 1) (.object fs)

mutual

def sorted : Json → Json
  | array xs => array (sortedElements xs)
  | object fs => ofFields (sortedFields fs)
  | v => v

def sortedElements : List Json → List Json
  | [] => []
  | x :: xs => sorted x :: sortedElements xs

def sortedFields : List (String × Json) → List (String × Json)
  | [] => []
  | (k, v) :: fs => (k, sorted v) :: sortedFields fs

end

theorem sortedElements_eq_map (xs : List Json) : sortedElements xs = xs.map sorted := by
  induction xs with
  | nil => rfl
  | cons x xs ih => simp [sortedElements, ih]

theorem sortedFields_eq_map (fs : List (String × Json)) :
    sortedFields fs = fs.map fun f => (f.1, f.2.sorted) := by
  induction fs with
  | nil => rfl
  | cons f fs ih => simp [sortedFields, ih]

/-! ### Blanks -/

theorem skipSpace_newLine (level : Nat) (cs : List Char) :
    skipSpace (newLine level ++ cs) = skipSpace cs := by
  apply List.dropWhile_append_of_pos
  intro c hc
  simp only [newLine, List.mem_cons, List.mem_replicate] at hc
  rcases hc with rfl | ⟨-, rfl⟩ <;> decide

theorem skipSpace_cons {c : Char} (h : isSpace c = false) (cs : List Char) :
    skipSpace (c :: cs) = c :: cs := by simp [skipSpace, h]

theorem value?_newLine (d level : Nat) (cs : List Char) :
    value? d (newLine level ++ cs) = value? d cs := by
  rw [value?.eq_def, value?.eq_def, skipSpace_newLine]

theorem stops_newLine (level : Nat) (cs : List Char) : Stops inNumeral (newLine level ++ cs) := by
  simp [newLine]; decide

/-! ### Members between brackets -/

theorem members?_run {α β : Type} (member? : List Char → Option (α × List Char)) {closing : Char}
    (text : β → List Char) (value : β → α) (level : Nat) (hc : closing ≠ ',')
    (hs : isSpace closing = false) (rest : List Char) (x : β) (xs : List β)
    (h : ∀ y ∈ x :: xs, ∀ cs, Stops inNumeral cs → member? (text y ++ cs) = some (value y, cs))
    (n : Nat) (hn : xs.length < n) :
    members? member? closing n
        (text x ++ ((xs.flatMap fun y => ',' :: text y) ++ (newLine level ++ closing :: rest))) =
      some (value x :: xs.map value, rest) := by
  induction xs generalizing x n with
  | nil =>
    obtain ⟨n, rfl⟩ : ∃ m, n = m + 1 := ⟨n - 1, by simp at hn; omega⟩
    have hx := h x (by simp) _ (stops_newLine level (closing :: rest))
    simp only [List.flatMap_nil, List.nil_append, members?, hx, Option.bind_eq_bind,
      Option.bind_some, skipSpace_newLine, skipSpace_cons hs]
    simp
  | cons y ys ih =>
    obtain ⟨n, rfl⟩ : ∃ m, n = m + 1 := ⟨n - 1, by simp at hn; omega⟩
    have hx := h x (by simp)
      (',' :: (text y ++ ((ys.flatMap fun z => ',' :: text z) ++ (newLine level ++ closing :: rest))))
      (by simp [inNumeral])
    have hy := ih y (fun z hz => h z (by simp [List.mem_cons.1 hz])) n (by simpa using hn)
    simp only [List.flatMap_cons, List.cons_append, List.append_assoc, members?, hx,
      Option.bind_eq_bind, Option.bind_some, skipSpace_cons (show isSpace ',' = false by decide), hy,
      Option.map_some, List.map_cons]

theorem length_le_flatMap {β : Type} (text : β → List Char) (xs : List β) :
    xs.length ≤ (xs.flatMap fun y => ',' :: text y).length := by
  induction xs with
  | nil => simp
  | cons x xs ih => simp only [List.flatMap_cons, List.length_append, List.length_cons]; omega

/-- The same with the opening bracket read; the first member must not look like the closing one. -/
theorem bracketed?_run {α β : Type} (member? : List Char → Option (α × List Char)) {closing : Char}
    (text : β → List Char) (value : β → α) (level : Nat) (hc : closing ≠ ',')
    (hs : isSpace closing = false) (rest : List Char) (x : β) (xs : List β)
    (h : ∀ y ∈ x :: xs, ∀ cs, Stops inNumeral cs → member? (text y ++ cs) = some (value y, cs))
    (c : Char) (cs : List Char) (hf : ∀ rest, skipSpace (text x ++ rest) = c :: (cs ++ rest))
    (hne : c ≠ closing) :
    bracketed? member? closing
        (text x ++ ((xs.flatMap fun y => ',' :: text y) ++ (newLine level ++ closing :: rest))) =
      some (value x :: xs.map value, rest) := by
  have hn := length_le_flatMap text xs
  have hr := members?_run member? text value level hc hs rest x xs h (text x ++
    ((xs.flatMap fun y => ',' :: text y) ++ (newLine level ++ closing :: rest))).length
    (by simp only [List.length_append, List.length_cons, newLine]; omega)
  simp only [bracketed?, hf, hne, if_false, hr]

theorem writeElements_eq (level : Nat) (xs : List Json) :
    writeElements level xs =
      (xs.flatMap fun x => ',' :: (newLine (level + 1) ++ write (level + 1) x)) ++
        (newLine level ++ [']']) := by
  induction xs with
  | nil => simp [writeElements]
  | cons x xs ih => simp [writeElements, ih]

def writeField (level : Nat) (f : String × Json) : List Char :=
  writeString f.1 ++ [':', ' '] ++ write level f.2

theorem writeFields_eq (level : Nat) (fs : List (String × Json)) :
    writeFields level fs =
      (fs.flatMap fun f => ',' :: (newLine (level + 1) ++ writeField (level + 1) f)) ++
        (newLine level ++ ['\x7d']) := by
  induction fs with
  | nil => simp [writeFields]
  | cons f fs ih => simp [writeFields, writeField, ih]

/-! ### Values -/

theorem isSpace_of_isDigit {c : Char} (h : c.isDigit = true) : isSpace c = false := by
  simp only [isSpace, Bool.or_eq_false_iff, decide_eq_false_iff_not]
  refine ⟨⟨⟨?_, ?_⟩, ?_⟩, ?_⟩ <;> rintro rfl <;> revert h <;> decide

theorem value?_of_numeral {c : Char} (h : c.isDigit = true ∨ c = '-') (d : Nat) (cs : List Char) :
    value? d (c :: cs) = number? (c :: cs) := by
  have hs : isSpace c = false := by
    rcases h with h | rfl
    · exact isSpace_of_isDigit h
    · decide
  have hne : ∀ c', c = c' → c' ≠ 'n' ∧ c' ≠ 't' ∧ c' ≠ 'f' ∧ c' ≠ '"' ∧ c' ≠ '[' ∧ c' ≠ '\x7b' := by
    rintro c' rfl
    rcases h with h | rfl
    · refine ⟨?_, ?_, ?_, ?_, ?_, ?_⟩ <;> rintro rfl <;> revert h <;> decide
    · decide
  rw [value?.eq_def, skipSpace_cons hs]
  split <;> simp_all

theorem writeInt_cons (n : Int) : ∃ c cs, writeInt n = c :: cs ∧ (c.isDigit = true ∨ c = '-') := by
  by_cases hneg : n < 0
  · exact ⟨'-', Nat.toDigits 10 n.natAbs, by simp [writeInt, hneg], Or.inr rfl⟩
  · cases hq : Nat.toDigits 10 n.natAbs with
    | nil => exact absurd hq Nat.toDigits_ne_nil
    | cons c cs =>
      refine ⟨c, cs, by simp [writeInt, hneg, hq], Or.inl ?_⟩
      exact isDigit_of_mem_toDigits n.natAbs c (by simp [hq])

theorem write_cons {d : Nat} {v : Json} (h : Plain d v) (level : Nat) :
    ∃ c cs, write level v = c :: cs ∧ isSpace c = false ∧ c ≠ ']' := by
  cases h with
  | null => exact ⟨'n', _, rfl, by decide⟩
  | bool b => cases b <;> exact ⟨_, _, rfl, by decide⟩
  | string s => exact ⟨'"', _, rfl, by decide⟩
  | int hn =>
    rename_i n
    obtain ⟨c, cs, hw, hc⟩ := writeInt_cons n
    refine ⟨c, cs, by simpa [write] using hw, ?_⟩
    rcases hc with hc | rfl
    · refine ⟨isSpace_of_isDigit hc, ?_⟩
      rintro rfl
      revert hc
      decide
    · decide
  | array hx =>
    rename_i xs
    cases xs <;> exact ⟨'[', _, rfl, by decide⟩
  | object hf =>
    rename_i fs
    cases fs <;> exact ⟨'\x7b', _, rfl, by decide⟩

theorem field_writeField {d : Nat} {f : String × Json} {level : Nat} {cs : List Char}
    (h : value? d (write level f.2 ++ cs) = some (f.2.sorted, cs)) (outer : Nat) :
    field (value? d) (newLine outer ++ writeField level f ++ cs) =
      some ((f.1, f.2.sorted), cs) := by
  have hq : ∀ cs, skipSpace (writeString f.1 ++ cs) = writeString f.1 ++ cs := fun cs => by
    simp [writeString, skipSpace_cons (show isSpace '"' = false by decide)]
  have hv : value? d (' ' :: (write level f.2 ++ cs)) = some (f.2.sorted, cs) := by
    rw [← h, value?.eq_def, value?.eq_def]
    simp [skipSpace, show isSpace ' ' = true by decide]
  simp only [field, writeField, List.append_assoc, skipSpace_newLine, hq, string?_writeString,
    Option.bind_eq_bind, Option.bind_some, List.cons_append, List.nil_append,
    skipSpace_cons (show isSpace ':' = false by decide), hv, Option.map_some]

/-- A printed value is read off the front of a text that does not go on with it. -/
theorem value?_write {d : Nat} {v : Json} (h : Plain d v) (level : Nat) {rest : List Char}
    (hr : Stops inNumeral rest) : value? d (write level v ++ rest) = some (v.sorted, rest) := by
  induction h generalizing level rest with
  | null => simp [write, value?.eq_def, skipSpace, isSpace, sorted]
  | bool b => cases b <;> simp [write, value?.eq_def, skipSpace, isSpace, sorted]
  | @int d n hn =>
    obtain ⟨c, cs, hw, hc⟩ := writeInt_cons n
    have hnum := number?_writeInt hn hr
    rw [hw] at hnum
    simp only [write, hw, List.cons_append, value?_of_numeral hc, sorted] at hnum ⊢
    exact hnum
  | string s =>
    have hs := string?_writeString s rest
    simp only [writeString, List.cons_append, List.append_assoc, List.nil_append] at hs
    simp [write, writeString, value?.eq_def, skipSpace, isSpace, sorted, hs]
  | @array d xs hx ih =>
    cases xs with
    | nil =>
      simp [write, value?.eq_def, skipSpace, isSpace, sorted, sortedElements, bracketed?]
    | cons x xs =>
      obtain ⟨c, cs, hw, hsp, hne⟩ := write_cons (hx x (by simp)) (level + 1)
      have hb := bracketed?_run (value? d)
        (fun y => newLine (level + 1) ++ write (level + 1) y) sorted level
        (show ']' ≠ ',' by decide) (by decide) rest x xs (fun y hy cs hcs => by
          rw [List.append_assoc, value?_newLine]
          exact ih y hy (level + 1) hcs)
        c cs (fun rest => by
          rw [List.append_assoc, skipSpace_newLine, hw, List.cons_append, skipSpace_cons hsp]) hne
      simp only [List.append_assoc] at hb
      simp [write, value?.eq_def, skipSpace_cons, isSpace, writeElements_eq, hb, sorted,
        sortedElements, sortedElements_eq_map]
  | @object d fs hf ih =>
    cases fs with
    | nil =>
      simp [write, value?.eq_def, skipSpace, isSpace, sorted, sortedFields, bracketed?]
    | cons f fs =>
      have hb := bracketed?_run (field (value? d))
        (fun f => newLine (level + 1) ++ writeField (level + 1) f) (fun f => (f.1, f.2.sorted)) level
        (show '\x7d' ≠ ',' by decide) (by decide) rest f fs
        (fun g hg cs hcs => field_writeField (ih g hg (level + 1) hcs) (level + 1))
        '"' ((f.1.toList.flatMap writeChar ++ ['"']) ++ ([':', ' '] ++ write (level + 1) f.2))
        (fun rest => by
          simp [skipSpace_newLine, writeField, writeString,
            skipSpace_cons (show isSpace '"' = false by decide)]) (by decide)
      simp only [writeField, List.append_assoc, List.cons_append, List.nil_append] at hb
      simp [write, value?.eq_def, skipSpace_cons, isSpace, writeFields_eq, hb, sorted,
        sortedFields, sortedFields_eq_map, writeField]

/-- Printed data is read back with its fields in order. -/
theorem parse?_pretty {v : Json} (h : Plain maxDepth v) : parse? v.pretty = some v.sorted := by
  have hv := value?_write h 0 (stops_nil inNumeral)
  simp only [List.append_nil] at hv
  simp [parse?, pretty, hv, skipSpace]

end StageGate.Json
