import StageGate.Json.Printer
import StageGate.Json.Reader
import StageGate.Proofs.Text.Digits

/-!
Strings and whole numbers of JSON are read back as they were written, whatever text follows them. A
number needs a text behind it that does not go on with it.
-/

set_option autoImplicit false

namespace StageGate.Json

open Text

/-! ### Strings -/

theorem hexValue?_hexDigit {n : Nat} (h : n < 16) : hexValue? (hexDigit n) = some n := by
  have : ∀ n, n < 16 → hexValue? (hexDigit n) = some n := by decide
  exact this n h

theorem stringBody?_of_plain {c : Char} (hq : c ≠ '"') (hb : c ≠ '\\') (hc : ¬ c.toNat < 0x20)
    (rest : List Char) : stringBody? (c :: rest) = push c (stringBody? rest) := by
  rw [stringBody?.eq_def]
  split
  · next h => cases h
  · next h => exact absurd (List.cons.inj h).1 hq
  · next h => exact absurd (List.cons.inj h).1 hb
  · next h => exact absurd (List.cons.inj h).1 hb
  · next h =>
    obtain ⟨rfl, rfl⟩ := List.cons.inj h
    exact if_neg hc

theorem stringBody?_of_control {c : Char} (h : c.toNat < 0x20) (rest : List Char) :
    stringBody? ('\\' :: 'u' :: '0' :: '0' :: hexDigit (c.toNat / 16) :: hexDigit (c.toNat % 16) ::
      rest) = push c (stringBody? rest) := by
  have hhigh := hexValue?_hexDigit (n := c.toNat / 16) (by omega)
  have hlow := hexValue?_hexDigit (n := c.toNat % 16) (by omega)
  have hzero : hexValue? '0' = some 0 := by decide
  have hn : 16 * (c.toNat / 16) + c.toNat % 16 = c.toNat := by omega
  have hl : isLowSurrogate c.toNat = false := by simp [isLowSurrogate]; omega
  have hs : isHighSurrogate c.toNat = false := by simp [isHighSurrogate]; omega
  rw [stringBody?]
  simp [hexNumber?, hhigh, hlow, hzero, hn, hl, hs]

theorem stringBody?_writeChar (c : Char) (rest : List Char) :
    stringBody? (writeChar c ++ rest) = push c (stringBody? rest) := by
  unfold writeChar
  split
  case h_8 =>
    rename_i hq hb h8 h12 hnl hr ht
    split
    · next h => exact stringBody?_of_control h rest
    · next h => exact stringBody?_of_plain hq hb h rest
  all_goals simp [stringBody?, escaped?]

theorem stringBody?_write (cs rest : List Char) :
    stringBody? (cs.flatMap writeChar ++ '"' :: rest) = some (cs, rest) := by
  induction cs with
  | nil => simp [stringBody?]
  | cons c cs ih => simp [List.flatMap_cons, stringBody?_writeChar, ih, push]

theorem string?_writeString (s : String) (rest : List Char) :
    string? (writeString s ++ rest) = some (s, rest) := by
  simp [string?, writeString, stringBody?_write]

/-! ### Whole numbers -/

def inNumeral (c : Char) : Bool := c.isDigit || c == '.' || c == 'e' || c == 'E'

theorem stops_isDigit {cs : List Char} (h : Stops inNumeral cs) : Stops Char.isDigit cs := by
  intro c hc
  have := h c hc
  simp only [inNumeral, Bool.or_eq_false_iff] at this
  exact this.1.1.1

theorem fraction?_of_stops {cs : List Char} (h : Stops inNumeral cs) :
    fraction? cs = some (none, cs) := by
  cases cs with
  | nil => rfl
  | cons c cs =>
    have hc : c ≠ '.' := by
      rintro rfl
      simp [inNumeral] at h
    unfold fraction?
    split <;> simp_all

theorem exponent?_of_stops {cs : List Char} (h : Stops inNumeral cs) :
    exponent? cs = some (none, cs) := by
  cases cs with
  | nil => rfl
  | cons c cs =>
    have hc := (stops_cons _ _ _).1 h
    simp only [inNumeral, Bool.or_eq_false_iff, beq_eq_false_iff_ne] at hc
    simp [exponent?, hc.1.2, hc.2]

theorem whole?_toDigits (n : Nat) {rest : List Char} (h : Stops inNumeral rest) :
    whole? (Nat.toDigits 10 n ++ rest) = some (Nat.toDigits 10 n, rest) := by
  have hd : digits (Nat.toDigits 10 n ++ rest) = (Nat.toDigits 10 n, rest) :=
    span_run (isDigit_of_mem_toDigits n) (stops_isDigit h)
  unfold whole?
  rw [hd]
  split
  · next hr => simp at hr
  · next hr => exact absurd (congrArg Prod.fst hr) toDigits_ne_zero_cons
  · rfl

theorem numeral?_toDigits (negative : Bool) (n : Nat) {rest : List Char}
    (h : Stops inNumeral rest) :
    numeral? negative (Nat.toDigits 10 n ++ rest) =
      some (⟨negative, Nat.toDigits 10 n, none, none⟩, rest) := by
  simp [numeral?, whole?_toDigits n h, fraction?_of_stops h, exponent?_of_stops h]

/-- The numbers that are kept as whole numbers. -/
def IsWhole (n : Int) : Prop := -0x8000000000000000 ≤ n ∧ n < 0x10000000000000000

theorem value?_negative {k : Nat} (hk : 0 < k ∧ k ≤ 0x8000000000000000) :
    Numeral.value? ⟨true, Nat.toDigits 10 k, none, none⟩ = some (.int (-k)) := by
  simp only [Numeral.value?, Nat.ofDigitChars_ten_toDigits, if_true]
  rw [if_pos hk]

theorem value?_whole {k : Nat} (hk : k < 0x10000000000000000) :
    Numeral.value? ⟨false, Nat.toDigits 10 k, none, none⟩ = some (.int k) := by
  simp only [Numeral.value?, Nat.ofDigitChars_ten_toDigits, Bool.false_eq_true, if_false]
  rw [if_pos hk]

theorem number?_writeInt {n : Int} (hn : IsWhole n) {rest : List Char} (h : Stops inNumeral rest) :
    number? (writeInt n ++ rest) = some (.int n, rest) := by
  obtain ⟨hlow, hhigh⟩ := hn
  by_cases hneg : n < 0
  · have hk : 0 < n.natAbs ∧ n.natAbs ≤ 0x8000000000000000 := by omega
    have he : -(n.natAbs : Int) = n := by omega
    simp only [writeInt, hneg, if_true, List.cons_append, number?, numeral?_toDigits _ _ h,
      Option.bind_eq_bind, Option.bind_some, value?_negative hk, he, Option.pure_def]
  · obtain ⟨k, rfl⟩ : ∃ k : Nat, n = k := ⟨n.natAbs, by omega⟩
    have hk : k < 0x10000000000000000 := by omega
    have hd : ∀ ds, Nat.toDigits 10 k ++ rest ≠ '-' :: ds := by
      intro ds he
      cases hq : Nat.toDigits 10 k with
      | nil => exact Nat.toDigits_ne_nil hq
      | cons c cs =>
        have hc := isDigit_of_mem_toDigits k c (by simp [hq])
        rw [hq, List.cons_append, List.cons.injEq] at he
        rw [he.1] at hc
        exact absurd hc (by decide)
    simp only [writeInt, hneg, if_false, Int.natAbs_natCast, number?, numeral?_toDigits _ _ h,
      Option.bind_eq_bind, Option.bind_some, value?_whole hk, Option.pure_def]

end StageGate.Json
