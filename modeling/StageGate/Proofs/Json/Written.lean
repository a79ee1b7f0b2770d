import StageGate.Proofs.Json.Fields
import StageGate.Proofs.Json.Cut

/-!
What stands in a JSON text, as it was written: numerals with their parts, and the fields of an object in
the order of the text with every repetition. `Json` keeps less of it. A text is read as JSON exactly when
such a tree can be read from it, and its value is then what the tree means: the last of several fields
with one key counts, and a number is whole if it is written as one.
-/

set_option autoImplicit false

namespace StageGate.Json

inductive Written where
  | null
  | bool (b : Bool)
  | number (n : Numeral) (h : n.value?.isSome)
  | string (s : String)
  | array (xs : List Written)
  | object (fields : List (String × Written))

namespace Written

mutual

def value : Written → Json
  | null => .null
  | bool b => .bool b
  | number n h => n.value?.get h
  | string s => .string s
  | array xs => .array (elementValues xs)
  | object fs => ofFields (fieldValues fs)

def elementValues : List Written → List Json
  | [] => []
  | x :: xs => value x :: elementValues xs

def fieldValues : List (String × Written) → List (String × Json)
  | [] => []
  | (k, v) :: fs => (k, value v) :: fieldValues fs

end

theorem elementValues_eq_map (xs : List Written) : elementValues xs = xs.map value := by
  induction xs with
  | nil => rfl
  | cons x xs ih => simp [elementValues, ih]

theorem fieldValues_eq_map (fs : List (String × Written)) :
    fieldValues fs = fs.map fun f => (f.1, f.2.value) := by
  induction fs with
  | nil => rfl
  | cons f fs ih => simp [fieldValues, ih]

end Written

/-! ### Reading -/

def writtenNumeral? (negative : Bool) (cs : List Char) : Option (Written × List Char) := do
  let (n, rest) ← numeral? negative cs
  if h : n.value?.isSome then some (.number n h, rest) else none

def writtenNumber? : List Char → Option (Written × List Char)
  | '-' :: ds => writtenNumeral? true ds
  | ds => writtenNumeral? false ds

/-- What `value?` reads, as it was written. -/
def written? (depth : Nat) (cs : List Char) : Option (Written × List Char) :=
  match skipSpace cs with
  | 'n' :: 'u' :: 'l' :: 'l' :: rest => some (.null, rest)
  | 't' :: 'r' :: 'u' :: 'e' :: rest => some (.bool true, rest)
  | 'f' :: 'a' :: 'l' :: 's' :: 'e' :: rest => some (.bool false, rest)
  | '"' :: rest => (string? ('"' :: rest)).map fun (s, rest) => (.string s, rest)
  | '[' :: rest =>
    match depth with
    | 0 => none
    | d + 1 => (bracketed? (written? d) ']' rest).map fun (xs, rest) => (.array xs, rest)
  | '\x7b' :: rest =>
    match depth with
    | 0 => none
    | d + 1 => (bracketed? (field (written? d)) '\x7d' rest).map fun (fs, rest) => (.object fs, rest)
  | rest => writtenNumber? rest

/-- What stands in a text that holds one value and nothing else but blanks. It is within the limits of the
reader: brackets stand at most `maxDepth` deep, and no number is too large for a double. -/
def document? (text : String) : Option Written :=
  match written? maxDepth text.toList with
  | some (w, rest) => if (skipSpace rest).isEmpty then some w else none
  | none => none

/-! ### Readers that differ in what they make of what they read -/

section Mapped

variable {α β : Type} {read : List Char → Option (α × List Char)}
  {read' : List Char → Option (β × List Char)} {f : α → β}

/-- The second reader takes off what the first one does, and gives back the image of its result. -/
def Mapped (f : α → β) (read : List Char → Option (α × List Char))
    (read' : List Char → Option (β × List Char)) : Prop :=
  ∀ cs, read' cs = (read cs).map fun (x, rest) => (f x, rest)

theorem Mapped.members? (h : Mapped f read read') (closing : Char) (n : Nat) :
    Mapped (List.map f) (Json.members? read closing n) (Json.members? read' closing n) := by
  induction n with
  | zero => intro cs; rfl
  | succ n ih =>
    intro cs
    simp only [Json.members?, h cs, Option.bind_eq_bind, Option.bind_map]
    cases read cs with
    | none => rfl
    | some r =>
      simp only [Option.bind_some, Function.comp_apply]
      split
      · next ds hs =>
        rw [ih ds]
        cases Json.members? read closing n ds <;> rfl
      · next hs => split <;> rfl
      · rfl

theorem Mapped.bracketed? (h : Mapped f read read') (closing : Char) :
    Mapped (List.map f) (Json.bracketed? read closing) (Json.bracketed? read' closing) := by
  intro cs
  unfold Json.bracketed?
  split
  · rfl
  · split
    · rfl
    · exact h.members? closing _ cs

theorem Mapped.field (h : Mapped f read read') :
    Mapped (fun x : String × α => (x.1, f x.2)) (Json.field read) (Json.field read') := by
  intro cs
  simp only [Json.field, Option.bind_eq_bind]
  cases string? (skipSpace cs) with
  | none => rfl
  | some r =>
    simp only [Option.bind_some]
    split
    · next ds hs =>
      rw [h ds]
      cases read ds <;> rfl
    · rfl

end Mapped

open Written

theorem mapped_writtenNumber? : Mapped value writtenNumber? number? := by
  have hn (negative : Bool) : Mapped value (writtenNumeral? negative) fun cs => do
      let (n, rest) ← numeral? negative cs
      return (← n.value?, rest) := by
    intro cs
    simp only [writtenNumeral?, Option.bind_eq_bind, Option.map_bind]
    cases numeral? negative cs with
    | none => rfl
    | some r =>
      simp only [Option.bind_some, Function.comp_apply]
      split
      · next h =>
        obtain ⟨v, hv⟩ := Option.isSome_iff_exists.1 h
        simp [hv, value]
      · next h =>
        simp [Option.not_isSome_iff_eq_none.1 h]
  intro cs
  unfold number?
  split
  · exact hn true _
  · next hne =>
    have hw : writtenNumber? cs = writtenNumeral? false cs := by
      unfold writtenNumber?
      split
      · exact absurd rfl (hne _)
      · rfl
    rw [hw]
    exact hn false cs

theorem mapped_written? (d : Nat) : Mapped value (written? d) (value? d) := by
  induction d using Nat.strongRecOn with
  | ind d ih =>
    intro cs
    -- Only one of the two readers is opened before the split, so that each case decides the other.
    rw [value?.eq_def]
    split
    · next rest hs => simp only [written?.eq_def, hs, Option.map_some, value]
    · next rest hs => simp only [written?.eq_def, hs, Option.map_some, value]
    · next rest hs => simp only [written?.eq_def, hs, Option.map_some, value]
    · next rest hs =>
      simp only [written?.eq_def, hs]
      cases string? ('"' :: rest) <;> rfl
    · next rest hs =>
      simp only [written?.eq_def, hs]
      cases d with
      | zero => rfl
      | succ d =>
        simp only [(ih d (by omega)).bracketed? ']' rest]
        cases bracketed? (written? d) ']' rest with
        | none => rfl
        | some r => simp [value, elementValues_eq_map]
    · next rest hs =>
      simp only [written?.eq_def, hs]
      cases d with
      | zero => rfl
      | succ d =>
        simp only [(ih d (by omega)).field.bracketed? '\x7d' rest]
        cases bracketed? (field (written? d)) '\x7d' rest with
        | none => rfl
        | some r => simp [value, fieldValues_eq_map]
    · rw [mapped_writtenNumber?, written?.eq_def]
      split <;> simp_all

/-- A text is JSON exactly when something is written in it, and is read as what that stands for. -/
theorem parse?_eq_map_document? (text : String) : parse? text = (document? text).map value := by
  unfold parse? document?
  rw [mapped_written? maxDepth text.toList]
  cases written? maxDepth text.toList with
  | none => rfl
  | some r =>
    simp only [Option.map_some]
    split <;> rfl

/-! ### Single values -/

def Numeral.integer? (n : Numeral) : Option Int :=
  match n.fraction, n.exponent with
  | none, none =>
    if n.negative then
      if Nat.ofDigitChars 10 n.whole 0 = 0 then none else some (-Nat.ofDigitChars 10 n.whole 0)
    else some (Nat.ofDigitChars 10 n.whole 0)
  | _, _ => none

/-- A numeral is kept as a whole number if it is one and fits in 64 bits, and as a double otherwise. -/
theorem Numeral.value?_eq_some_iff {n : Numeral} {v : Json} : n.value? = some v ↔
    (∃ k, n.integer? = some k ∧ IsWhole k ∧ .int k = v) ∨
    ((∀ k, n.integer? = some k → ¬ IsWhole k) ∧ ∃ x, n.real? = some x ∧ .real x = v) := by
  have hnat (k : Nat) : IsWhole k ↔ k < 0x10000000000000000 := by unfold IsWhole; omega
  have hneg (k : Nat) (hk : k ≠ 0) : IsWhole (-k) ↔ 0 < k ∧ k ≤ 0x8000000000000000 := by
    unfold IsWhole
    omega
  unfold value? integer?
  generalize Nat.ofDigitChars 10 n.whole 0 = k
  cases n.fraction with
  | some ds => simp
  | none =>
    cases n.exponent with
    | some e => simp
    | none =>
      cases n.negative with
      | false => by_cases h : k < 0x10000000000000000 <;> simp [hnat, h]
      | true =>
        by_cases hk : k = 0
        · simp [hk]
        · by_cases h : 0 < k ∧ k ≤ 0x8000000000000000 <;> simp [hk, hneg k hk, h]

example : Numeral.integer? ⟨true, ['7'], none, none⟩ = some (-7) ∧
    Numeral.integer? ⟨true, ['0'], none, none⟩ = none := by decide

namespace Written

def integer? : Written → Option Int
  | number n _ => n.integer?
  | _ => none

theorem value_number_cases (n : Numeral) (h : n.value?.isSome) :
    (∃ k, n.integer? = some k ∧ (number n h).value = .int k) ∨
      ((∀ k, n.integer? = some k → ¬ IsWhole k) ∧ ∃ x, (number n h).value = .real x) := by
  have hv : n.value? = some (number n h).value := by simp [value]
  obtain ⟨k, hk, -, he⟩ | ⟨hk, x, -, he⟩ := Numeral.value?_eq_some_iff.1 hv
  · exact .inl ⟨k, hk, he.symm⟩
  · exact .inr ⟨hk, x, he.symm⟩

theorem value_eq_int_iff {w : Written} {k : Int} (hk : IsWhole k) :
    w.value = .int k ↔ w.integer? = some k := by
  cases w with
  | number n h =>
    obtain ⟨k', hk', hv⟩ | ⟨hn, x, hv⟩ := value_number_cases n h
    · simp [hv, integer?, hk']
    · have hne : n.integer? ≠ some k := fun he => hn k he hk
      simp [hv, integer?, hne]
  | _ => simp [value, integer?, ofFields_eq]

theorem value_eq_string_iff {w : Written} {s : String} : w.value = .string s ↔ w = .string s := by
  cases w with
  | number n h => obtain ⟨k, -, hv⟩ | ⟨-, x, hv⟩ := value_number_cases n h <;> simp [hv]
  | _ => simp [value, ofFields_eq]

theorem value_eq_null_iff {w : Written} : w.value = .null ↔ w = .null := by
  cases w with
  | number n h => obtain ⟨k, -, hv⟩ | ⟨-, x, hv⟩ := value_number_cases n h <;> simp [hv]
  | _ => simp [value, ofFields_eq]

theorem value_eq_array_iff {w : Written} {xs : List Json} :
    w.value = .array xs ↔ ∃ ws, w = .array ws ∧ elementValues ws = xs := by
  cases w with
  | number n h => obtain ⟨k, -, hv⟩ | ⟨-, x, hv⟩ := value_number_cases n h <;> simp [hv]
  | _ => simp [value, ofFields_eq]

theorem value_eq_object_iff {w : Written} {fs : List (String × Json)} :
    w.value = .object fs ↔ ∃ ws, w = .object ws ∧ inOrder (fieldValues ws) = fs := by
  cases w with
  | number n h => obtain ⟨k, -, hv⟩ | ⟨-, x, hv⟩ := value_number_cases n h <;> simp [hv]
  | _ => simp [value, ofFields_eq]

/-! ### Fields -/

/-- What stands under a key; of several fields with it, in the last one. -/
def last? (key : String) (fields : List (String × Written)) : Option Written :=
  fields.reverse.lookup key

theorem lookup_map {α β : Type} (g : String → α → β) (key : String) (fs : List (String × α)) :
    (fs.map fun f => (f.1, g f.1 f.2)).lookup key = (fs.lookup key).map (g key) := by
  induction fs with
  | nil => rfl
  | cons f fs ih =>
    obtain ⟨k, x⟩ := f
    by_cases h : key = k
    · simp [h]
    · simp [List.lookup_cons, beq_eq_false_iff_ne.2 h, ih]

theorem last?_map (g : String → Written → Written) (key : String) (fs : List (String × Written)) :
    last? key (fs.map fun f => (f.1, g f.1 f.2)) = (last? key fs).map (g key) := by
  rw [last?, ← List.map_reverse, lookup_map, last?]

theorem last?_filter {keys : List String} {key : String} (h : key ∈ keys)
    (fs : List (String × Written)) : last? key (fs.filter (·.1 ∈ keys)) = last? key fs := by
  rw [last?, last?, ← List.filter_reverse]
  induction fs.reverse with
  | nil => rfl
  | cons f fs ih =>
    obtain ⟨k, w⟩ := f
    by_cases hk : key = k
    · subst hk
      simp [h]
    · by_cases hm : k ∈ keys <;> simp [List.lookup_cons, beq_eq_false_iff_ne.2 hk, hm, ih]

theorem field?_fieldValues (key : String) (fs : List (String × Written)) :
    field? key (inOrder (fieldValues fs)) = (last? key fs).map value := by
  rw [field?_inOrder, fieldValues_eq_map, ← List.map_reverse, lookup_map fun _ => value, last?]

example : last? "name" [("name", .string "old"), ("note", .null), ("name", .string "new")] =
    some (.string "new") := rfl

theorem last?_isSome_iff {key : String} {fs : List (String × Written)} :
    (last? key fs).isSome ↔ key ∈ fs.map (·.1) := by
  rw [last?, ← List.mem_reverse, ← List.map_reverse]
  induction fs.reverse with
  | nil => simp
  | cons f fs ih =>
    obtain ⟨k, w⟩ := f
    by_cases h : key = k
    · simp [h]
    · rw [List.lookup_cons, beq_eq_false_iff_ne.2 h, List.map_cons, List.mem_cons]
      simpa only [h, false_or] using ih

end Written

end StageGate.Json
