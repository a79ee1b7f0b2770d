import StageGate.Clarity.Bytes
import StageGate.Proofs.Clarity.Segment

/-!
The number at the front of a text, read from its bytes. A sign and digits are one byte each, and no other
character has a byte that looks like a digit in front; so both cuts stand between characters, whatever
follows the digits. In the word the number only moves away from zero, so it fits on the way if it fits in
the end.
-/

set_option autoImplicit false

namespace StageGate.Clarity

namespace Bytes

open Text (Stops)

/-! ### Bytes of characters -/

theorem toByteArray_bytes (s : String) : (bytes s).toByteArray = s.toUTF8 := by
  rw [String.toUTF8_eq_toByteArray, ← String.ofList_toList (s := s), String.toByteArray_ofList, bytes,
    String.toList_ofList]
  rfl

theorem bytes_ofList_append (as bs : List Char) :
    bytes (.ofList (as ++ bs)) = bytes (.ofList as) ++ bytes (.ofList bs) := by simp [bytes]

theorem bytes_ofList_cons (c : Char) (cs : List Char) :
    bytes (.ofList (c :: cs)) = String.utf8EncodeChar c ++ bytes (.ofList cs) := by simp [bytes]

theorem utf8EncodeChar_eq {c : Char} (h : c.toNat < 128) :
    ∃ b : UInt8, String.utf8EncodeChar c = [b] ∧ b.toNat = c.toNat := by
  refine ⟨UInt8.ofNat c.toNat, ?_, ?_⟩
  · have hc : c.val.toNat ≤ 127 := Nat.le_of_lt_succ h
    simp only [String.utf8EncodeChar, hc, if_true]
    rfl
  · rw [UInt8.toNat_ofNat', Nat.mod_eq_of_lt (by omega)]

theorem exists_utf8EncodeChar {c : Char} (h : 128 ≤ c.toNat) :
    ∃ b bs, String.utf8EncodeChar c = b :: bs ∧ 128 ≤ b.toNat := by
  have hc : ¬ c.val.toNat ≤ 127 := Nat.not_le.2 h
  simp only [String.utf8EncodeChar, hc, if_false]
  split
  · refine ⟨_, _, rfl, ?_⟩
    rw [UInt8.toNat_ofNat']
    omega
  · split
    · refine ⟨_, _, rfl, ?_⟩
      rw [UInt8.toNat_ofNat']
      omega
    · refine ⟨_, _, rfl, ?_⟩
      rw [UInt8.toNat_ofNat']
      omega

theorem isDigit_iff {b : UInt8} : isDigit b = true ↔ 48 ≤ b.toNat ∧ b.toNat ≤ 57 := by
  rw [isDigit, Bool.and_eq_true, decide_eq_true_iff, decide_eq_true_iff, UInt8.le_iff_toNat_le,
    UInt8.le_iff_toNat_le]
  rfl

theorem utf8EncodeChar_digit {c : Char} (h : c.isDigit = true) :
    ∃ b, String.utf8EncodeChar c = [b] ∧ isDigit b = true ∧ b.toNat = c.toNat := by
  have hc := Text.isDigit_iff.1 h
  obtain ⟨b, hb, hn⟩ := utf8EncodeChar_eq (c := c) (by omega)
  exact ⟨b, hb, isDigit_iff.2 (by omega), hn⟩

theorem isDigit_head_utf8EncodeChar {c : Char} (h : c.isDigit = false) :
    ∃ b bs, String.utf8EncodeChar c = b :: bs ∧ isDigit b = false := by
  have hc : ¬ (48 ≤ c.toNat ∧ c.toNat ≤ 57) := mt Text.isDigit_iff.2 (by simp [h])
  by_cases hsmall : c.toNat < 128
  · obtain ⟨b, hb, hn⟩ := utf8EncodeChar_eq hsmall
    refine ⟨b, [], hb, Bool.eq_false_iff.2 (mt isDigit_iff.1 ?_)⟩
    omega
  · obtain ⟨b, bs, hb, hn⟩ := exists_utf8EncodeChar (Nat.not_lt.1 hsmall)
    refine ⟨b, bs, hb, Bool.eq_false_iff.2 (mt isDigit_iff.1 ?_)⟩
    omega

theorem bytes_digits {digits : List Char} (h : ∀ c ∈ digits, c.isDigit = true) :
    (bytes (.ofList digits)).length = digits.length ∧
      ∀ b ∈ bytes (.ofList digits), isDigit b = true := by
  induction digits with
  | nil => simp [bytes]
  | cons c cs ih =>
    obtain ⟨hc, hcs⟩ := List.forall_mem_cons.1 h
    obtain ⟨b, hb, hdigit, -⟩ := utf8EncodeChar_digit hc
    obtain ⟨hlen, hall⟩ := ih hcs
    rw [bytes_ofList_cons, hb]
    simp only [List.singleton_append, List.length_cons, List.forall_mem_cons]
    exact ⟨by omega, hdigit, hall⟩

theorem digitLength_run {digits rest : List Char} (hd : ∀ c ∈ digits, c.isDigit = true)
    (hs : Stops Char.isDigit rest) : digitLength (.ofList (digits ++ rest)) = digits.length := by
  obtain ⟨hlen, hall⟩ := bytes_digits hd
  have hrest : (bytes (.ofList rest)).takeWhile isDigit = [] := by
    cases rest with
    | nil => rfl
    | cons c cs =>
      obtain ⟨b, bs, hb, hdigit⟩ := isDigit_head_utf8EncodeChar ((Text.stops_cons _ c cs).1 hs)
      rw [bytes_ofList_cons, hb, List.cons_append, List.takeWhile_cons_of_neg (by simp [hdigit])]
  rw [digitLength, bytes_ofList_append, List.takeWhile_append_of_pos hall, hrest, List.append_nil, hlen]

/-! ### Cuts -/

theorem length_bytes (s : String) : (bytes s).length = s.utf8ByteSize := by
  rw [← String.size_toByteArray, ← String.toUTF8_eq_toByteArray, ← toByteArray_bytes,
    List.size_toByteArray]

theorem isValid_append (a b : String) : String.Pos.Raw.IsValid (a ++ b) ⟨a.utf8ByteSize⟩ :=
  String.Pos.Raw.isValid_iff_exists_append.2 ⟨a, b, rfl, rfl⟩

theorem splits_append (a b : String) :
    ((a ++ b).pos ⟨a.utf8ByteSize⟩ (isValid_append a b)).Splits a b where
  eq_append := rfl
  offset_eq_rawEndPos := rfl

theorem cutFrom?_append (a b : String) : cutFrom? (a ++ b) a.utf8ByteSize = some b := by
  rw [cutFrom?, dif_pos (isValid_append a b), (splits_append a b).copy_sliceFrom_eq]

theorem cutTo?_append (a b : String) : cutTo? (a ++ b) a.utf8ByteSize = some a := by
  rw [cutTo?, dif_pos (isValid_append a b), (splits_append a b).copy_sliceTo_eq]

example : cutFrom? "é" 1 = none := by decide +kernel

theorem isValid_of_cutFrom? {s t : String} {i : Nat} (h : cutFrom? s i = some t) :
    String.Pos.Raw.IsValid s ⟨i⟩ := by
  by_contra hn
  simp [cutFrom?, hn] at h

theorem isValid_of_cutTo? {s t : String} {i : Nat} (h : cutTo? s i = some t) :
    String.Pos.Raw.IsValid s ⟨i⟩ := by
  by_contra hn
  simp [cutTo?, hn] at h

/-- A sign or none, digits as far as they go, and what comes after them. -/
structure Front (cs sign digits rest : List Char) : Prop where
  joined : cs = sign ++ (digits ++ rest)
  signed : sign = [] ∨ sign = ['+'] ∨ sign = ['-']
  unsigned : sign = [] → cs.head?.any isSign = false
  areDigits : ∀ c ∈ digits, c.isDigit = true
  stops : Stops Char.isDigit rest

theorem isSign_iff {c : Char} : isSign c = true ↔ c = '+' ∨ c = '-' := by simp [isSign]

theorem exists_front (cs : List Char) : ∃ sign digits rest, Front cs sign digits rest := by
  have hrun (tail : List Char) := List.takeWhile_append_dropWhile (p := Char.isDigit) (l := tail)
  have hdigits (tail : List Char) : ∀ c ∈ tail.takeWhile Char.isDigit, c.isDigit = true :=
    fun c hc => List.mem_takeWhile_imp hc
  cases hs : cs.head?.any isSign with
  | false =>
    exact ⟨[], _, _, (hrun cs).symm, Or.inl rfl, fun _ => hs, hdigits cs, Text.stops_dropWhile _ _⟩
  | true =>
    cases cs with
    | nil => simp at hs
    | cons c tail =>
      refine ⟨[c], _, _, congrArg (c :: ·) (hrun tail).symm, Or.inr ?_, by simp, hdigits tail,
        Text.stops_dropWhile _ _⟩
      exact (isSign_iff.1 (by simpa using hs)).imp (congrArg fun c => [c]) (congrArg fun c => [c])

namespace Front

variable {cs sign digits rest : List Char} {s : String}

theorem length_sign (h : Front cs sign digits rest) :
    (String.ofList sign).utf8ByteSize = sign.length ∧ signLength (.ofList cs) = sign.length := by
  rw [signLength, String.toList_ofList]
  rcases h.signed with hs | hs | hs
  · simp [h.unsigned hs, hs]
  · rw [h.joined, hs]
    exact ⟨rfl, rfl⟩
  · rw [h.joined, hs]
    exact ⟨rfl, rfl⟩

theorem length_digits (h : Front cs sign digits rest) :
    (String.ofList digits).utf8ByteSize = digits.length := by
  rw [← length_bytes, (bytes_digits h.areDigits).1]

theorem cuts (h : Front cs sign digits rest) :
    cutFrom? (.ofList cs) sign.length = some (.ofList (digits ++ rest)) ∧
    cutTo? (.ofList cs) (sign.length + digits.length) = some (.ofList (sign ++ digits)) := by
  obtain ⟨hsize, -⟩ := h.length_sign
  have hsize' : (String.ofList (sign ++ digits)).utf8ByteSize = sign.length + digits.length := by
    rw [String.ofList_append, String.utf8ByteSize_append, hsize, h.length_digits]
  constructor
  · rw [← hsize, h.joined, String.ofList_append, cutFrom?_append]
  · rw [← hsize', h.joined, ← List.append_assoc, String.ofList_append, cutTo?_append]

theorem leadingInteger?_eq (h : Front (Text.trimStart s.toList) sign digits rest) :
    leadingInteger? s =
      some (if digits = [] then none else number? (bytes (.ofList (sign ++ digits)))) := by
  obtain ⟨hfrom, hto⟩ := h.cuts
  have hlen := digitLength_run h.areDigits h.stops
  rw [leadingInteger?, front, h.length_sign.2]
  simp only [hfrom, Option.bind_eq_bind, Option.bind_some, hlen, hto, List.length_eq_zero_iff]
  split <;> rfl

end Front

/-! ### Words -/

variable {a b w : Int64} {n : Int}

theorem exists_toInt (h : -2 ^ 63 ≤ n) (h' : n < 2 ^ 63) : ∃ w : Int64, w.toInt = n :=
  ⟨Int64.ofInt n, Int64.toInt_ofInt_of_le h h'⟩

theorem ofInt?_eq_some_iff : ofInt? n = some w ↔ w.toInt = n := by
  have hle := w.le_toInt
  have hlt := w.toInt_lt
  rw [ofInt?]
  split
  · next h =>
    obtain ⟨hn, hn'⟩ := isInt64_iff.1 h
    rw [Option.some.injEq, ← Int64.toInt_inj, Int64.toInt_ofInt_of_le hn hn', eq_comm]
  · next h =>
    simp only [reduceCtorEq, false_iff]
    rintro rfl
    exact h (isInt64_iff.2 ⟨hle, hlt⟩)

theorem add?_eq_some_iff : add? a b = some w ↔ w.toInt = a.toInt + 1 * b.toInt := by
  rw [one_mul]
  exact ofInt?_eq_some_iff

theorem sub?_eq_some_iff : sub? a b = some w ↔ w.toInt = a.toInt + -1 * b.toInt := by
  rw [neg_one_mul, ← sub_eq_add_neg]
  exact ofInt?_eq_some_iff

theorem mul?_eq_some_iff : mul? a b = some w ↔ w.toInt = a.toInt * b.toInt := ofInt?_eq_some_iff

theorem digit?_eq_some_iff {x : UInt8} (h : isDigit x = true) :
    digit? x = some w ↔ w.toInt = x.toNat - 48 := by
  have hx := isDigit_iff.1 h
  have hword : (Int64.ofNat (x.toNat - 48)).toInt = x.toNat - 48 := by
    rw [Int64.toInt_ofNat_of_lt (by omega)]
    omega
  rw [digit?, if_pos h, Option.some.injEq, ← Int64.toInt_inj, hword, eq_comm]

/-! ### Digit by digit -/

/-- A number moves away from zero: upwards, or downwards if it has a minus. -/
structure Moves (join : Int64 → Int64 → Option Int64) (σ : Int) : Prop where
  direction : σ = 1 ∨ σ = -1
  join {a b c : Int64} : join a b = some c ↔ c.toInt = a.toInt + σ * b.toInt

theorem moves_add : Moves add? 1 := ⟨Or.inl rfl, add?_eq_some_iff⟩

theorem moves_sub : Moves sub? (-1) := ⟨Or.inr rfl, sub?_eq_some_iff⟩

namespace Moves

variable {join : Int64 → Int64 → Option Int64} {σ : Int} {k : Nat}

/-- Nothing is lost on the way: if the number fits with its next digit, it fits without it. -/
theorem shift?_eq_some_iff (h : Moves join σ) (ha : a.toInt = σ * k) {x : UInt8}
    (hx : isDigit x = true) :
    shift? join a x = some w ↔ w.toInt = σ * (10 * k + (x.toNat - 48) : Nat) := by
  have hten : (10 : Int64).toInt = 10 := rfl
  have hdigit := isDigit_iff.1 hx
  simp only [shift?, Option.bind_eq_bind, Option.bind_eq_some_iff, mul?_eq_some_iff,
    digit?_eq_some_iff hx, h.join, hten]
  have hle := w.le_toInt
  have hlt := w.toInt_lt
  constructor
  · rintro ⟨m, hm, d, hd, hw⟩
    rcases h.direction with rfl | rfl <;> omega
  · intro hw
    obtain ⟨m, hm⟩ : ∃ m : Int64, m.toInt = a.toInt * 10 := by
      rcases h.direction with rfl | rfl <;> exact exists_toInt (by omega) (by omega)
    obtain ⟨d, hd⟩ : ∃ d : Int64, d.toInt = (x.toNat : Int) - 48 := exists_toInt (by omega) (by omega)
    refine ⟨m, hm, d, hd, ?_⟩
    rcases h.direction with rfl | rfl <;> omega

theorem le_ofDigitChars (digits : List Char) (k : Nat) : k ≤ Nat.ofDigitChars 10 digits k := by
  rw [Nat.ofDigitChars_eq_ofDigitChars_zero]
  have hpow : 1 * k ≤ 10 ^ digits.length * k :=
    Nat.mul_le_mul_right k (Nat.one_le_pow _ _ (by decide))
  omega

theorem foldlM_eq_some_iff (h : Moves join σ) {digits : List Char}
    (hd : ∀ c ∈ digits, c.isDigit = true) (ha : a.toInt = σ * k) :
    (bytes (.ofList digits)).foldlM (shift? join) a = some w ↔
      w.toInt = σ * Nat.ofDigitChars 10 digits k := by
  induction digits generalizing a k with
  | nil =>
    rw [Nat.ofDigitChars_nil, ← ha, Int64.toInt_inj]
    simp [bytes, eq_comm]
  | cons c cs ih =>
    obtain ⟨hc, hcs⟩ := List.forall_mem_cons.1 hd
    obtain ⟨x, hx, hdigit, hxc⟩ := utf8EncodeChar_digit hc
    have hstep {next : Int64} : shift? join a x = some next ↔
        next.toInt = σ * (10 * k + (c.toNat - 48) : Nat) := by
      rw [← hxc]
      exact h.shift?_eq_some_iff ha hdigit
    have hzero : '0'.toNat = 48 := rfl
    rw [bytes_ofList_cons, hx, List.singleton_append, List.foldlM_cons, Option.bind_eq_bind,
      Option.bind_eq_some_iff, Nat.ofDigitChars_cons, hzero]
    constructor
    · rintro ⟨next, hnext, hw⟩
      exact (ih hcs (hstep.1 hnext)).1 hw
    · intro hw
      -- the number that has been read so far lies between zero and the one that is read in the end
      have hgrow := le_ofDigitChars cs (10 * k + (c.toNat - 48))
      have hle := w.le_toInt
      have hlt := w.toInt_lt
      obtain ⟨next, hnext⟩ : ∃ next : Int64, next.toInt = σ * (10 * k + (c.toNat - 48) : Nat) := by
        rcases h.direction with rfl | rfl
        · exact exists_toInt (by omega) (by omega)
        · exact exists_toInt (by omega) (by omega)
      exact ⟨next, hstep.2 hnext, (ih hcs hnext).2 hw⟩

theorem foldlM_zero (h : Moves join σ) {digits : List Char} (hd : ∀ c ∈ digits, c.isDigit = true) :
    (bytes (.ofList digits)).foldlM (shift? join) 0 = some w ↔
      w.toInt = σ * Nat.ofDigitChars 10 digits 0 := h.foldlM_eq_some_iff hd (by simp)

end Moves

theorem number?_digits {x : UInt8} (hx : isDigit x = true) (xs : List UInt8) :
    number? (x :: xs) = (x :: xs).foldlM (shift? add?) 0 ∧
    number? (plus :: x :: xs) = (x :: xs).foldlM (shift? add?) 0 ∧
    number? (minus :: x :: xs) = (x :: xs).foldlM (shift? sub?) 0 := by
  have hplus : x ≠ plus := by
    rintro rfl
    cases hx
  have hminus : x ≠ minus := by
    rintro rfl
    cases hx
  have hne : plus ≠ minus := by decide
  refine ⟨?_, ?_, ?_⟩
  · simp [number?, hplus, hminus]
  · simp [number?, hne]
  · simp [number?]

theorem number?_eq_some_iff {sign digits : List Char} (hne : digits ≠ [])
    (hd : ∀ c ∈ digits, c.isDigit = true) (hn : Signed (Nat.ofDigitChars 10 digits 0) sign n) :
    number? (bytes (.ofList (sign ++ digits))) = some w ↔ w.toInt = n := by
  obtain ⟨hlen, hall⟩ := bytes_digits hd
  obtain ⟨x, xs, hxs⟩ : ∃ x xs, bytes (.ofList digits) = x :: xs := by
    refine List.exists_cons_of_ne_nil fun hnil => hne (List.length_eq_zero_iff.1 ?_)
    rw [← hlen, hnil, List.length_nil]
  obtain ⟨hnone, hplus, hminus⟩ := number?_digits (hall x (by simp [hxs])) xs
  rw [← hxs] at hnone hplus hminus
  rw [bytes_ofList_append]
  cases hn with
  | none =>
    rw [show bytes (.ofList []) = [] from rfl, List.nil_append, hnone, moves_add.foldlM_zero hd, one_mul]
  | plus =>
    rw [show bytes (.ofList ['+']) = [plus] from rfl, List.singleton_append, hplus,
      moves_add.foldlM_zero hd, one_mul]
  | minus =>
    rw [show bytes (.ofList ['-']) = [minus] from rfl, List.singleton_append, hminus,
      moves_sub.foldlM_zero hd, neg_one_mul]

end Bytes

/-! ### The number at the front -/

/-- Behind blanks and an optional sign the text has digits, as many as follow one another, that stand for
this number, whatever its size; anything may come after them. -/
def FrontNumber (n : Int) (cs : List Char) : Prop :=
  ∃ blanks sign digits rest, cs = blanks ++ (sign ++ (digits ++ rest)) ∧
    (∀ c ∈ blanks, Text.isBlank c = true) ∧
    Signed (Nat.ofDigitChars 10 digits 0) sign n ∧
    digits ≠ [] ∧ (∀ c ∈ digits, c.isDigit = true) ∧ Text.Stops Char.isDigit rest

variable {n : Int} {cs sign digits rest : List Char} {s : String} {w : Int64}

theorem beginsWith_iff : BeginsWith n cs ↔ FrontNumber n cs ∧ -2 ^ 63 ≤ n ∧ n < 2 ^ 63 := by
  constructor
  · rintro ⟨blanks, sign, digits, rest, hcs, hb, hn, hne, hd, hs, hrange⟩
    exact ⟨⟨blanks, sign, digits, rest, hcs, hb, hn, hne, hd, hs⟩, hrange⟩
  · rintro ⟨⟨blanks, sign, digits, rest, hcs, hb, hn, hne, hd, hs⟩, hrange⟩
    exact ⟨blanks, sign, digits, rest, hcs, hb, hn, hne, hd, hs, hrange⟩

theorem Bytes.isSign_of_isDigit {c : Char} (h : c.isDigit = true) : isSign c = false := by
  rw [Bool.eq_false_iff, ne_eq, isSign_iff]
  rintro (rfl | rfl)
  · cases h
  · cases h

theorem FrontNumber.exists_front (h : FrontNumber n cs) :
    ∃ sign digits rest, Bytes.Front (Text.trimStart cs) sign digits rest ∧ digits ≠ [] ∧
      Signed (Nat.ofDigitChars 10 digits 0) sign n := by
  obtain ⟨blanks, sign, digits, rest, rfl, hb, hn, hne, hd, hs⟩ := h
  obtain ⟨d, ds, rfl⟩ := List.exists_cons_of_ne_nil hne
  have hdigit : d.isDigit = true := hd d (by simp)
  have hstops : Text.Stops Text.isBlank (sign ++ (d :: ds ++ rest)) := by
    cases hn with
    | none => exact (Text.stops_cons _ _ _).2 (Text.isBlank_of_isDigit hdigit)
    | plus => exact (Text.stops_cons _ _ _).2 (by decide)
    | minus => exact (Text.stops_cons _ _ _).2 (by decide)
  refine ⟨sign, d :: ds, rest, ⟨?_, ?_, ?_, hd, hs⟩, hne, hn⟩
  · rw [Text.trimStart_append_of_blank _ _ hb, Text.trimStart_of_stops hstops]
  · cases hn <;> simp
  · rintro rfl
    rw [Text.trimStart_append_of_blank _ _ hb, Text.trimStart_of_stops hstops]
    exact Bytes.isSign_of_isDigit hdigit

theorem Bytes.Front.exists_frontNumber (h : Front (Text.trimStart cs) sign digits rest)
    (hne : digits ≠ []) : ∃ n, FrontNumber n cs := by
  have hsign : ∃ n, Signed (Nat.ofDigitChars 10 digits 0) sign n := by
    rcases h.signed with rfl | rfl | rfl
    · exact ⟨_, .none⟩
    · exact ⟨_, .plus⟩
    · exact ⟨_, .minus⟩
  obtain ⟨n, hn⟩ := hsign
  refine ⟨n, cs.takeWhile Text.isBlank, sign, digits, rest, ?_, fun c hc => List.mem_takeWhile_imp hc, hn,
    hne, h.areDigits, h.stops⟩
  rw [← h.joined, Text.trimStart, List.takeWhile_append_dropWhile]

namespace Bytes

variable {result : Option Int64}

theorem eq_some_iff_of_frontNumber (hs : leadingInteger? s = some result) (h : FrontNumber n s.toList) :
    result = some w ↔ w.toInt = n := by
  obtain ⟨sign, digits, rest, hfront, hne, hn⟩ := h.exists_front
  rw [hfront.leadingInteger?_eq, if_neg hne] at hs
  rw [← Option.some.inj hs]
  exact number?_eq_some_iff hne hfront.areDigits hn

theorem eq_none_of_no_frontNumber (hs : leadingInteger? s = some result)
    (h : ∀ n, ¬ FrontNumber n s.toList) : result = none := by
  obtain ⟨sign, digits, rest, hfront⟩ := exists_front (Text.trimStart s.toList)
  have hnil : digits = [] := by
    by_contra hne
    obtain ⟨n, hn⟩ := hfront.exists_frontNumber hne
    exact h n hn
  rw [hfront.leadingInteger?_eq, if_pos hnil] at hs
  exact (Option.some.inj hs).symm

theorem eq_some_iff (hs : leadingInteger? s = some result) :
    result = some w ↔ FrontNumber w.toInt s.toList := by
  refine ⟨fun hw => ?_, fun hw => (eq_some_iff_of_frontNumber hs hw).2 rfl⟩
  by_cases h : ∃ n, FrontNumber n s.toList
  · obtain ⟨n, hn⟩ := h
    obtain rfl := (eq_some_iff_of_frontNumber hs hn).1 hw
    exact hn
  · rw [eq_none_of_no_frontNumber hs (not_exists.1 h)] at hw
    cases hw

theorem eq_none_iff (hs : leadingInteger? s = some result) :
    result = none ↔ (∀ n, ¬ FrontNumber n s.toList) ∨
      ∃ n, FrontNumber n s.toList ∧ ¬ (-2 ^ 63 ≤ n ∧ n < 2 ^ 63) := by
  constructor
  · intro hnone
    by_cases h : ∃ n, FrontNumber n s.toList
    · obtain ⟨n, hn⟩ := h
      refine Or.inr ⟨n, hn, fun hrange => ?_⟩
      obtain ⟨w, hw⟩ := exists_toInt hrange.1 hrange.2
      rw [hnone] at hs
      cases (eq_some_iff_of_frontNumber hs hn).2 hw
    · exact Or.inl (not_exists.1 h)
  · rintro (h | ⟨n, hn, hrange⟩)
    · exact eq_none_of_no_frontNumber hs h
    · refine Option.eq_none_iff_forall_ne_some.2 fun w hw => hrange ?_
      obtain rfl := (eq_some_iff_of_frontNumber hs hn).1 hw
      exact ⟨w.le_toInt, w.toInt_lt⟩

theorem map_toInt (hs : leadingInteger? s = some result) :
    result.map Int64.toInt = Clarity.leadingInteger? s.toList := by
  ext n
  rw [Option.map_eq_some_iff, leadingInteger?_eq_some_iff, beginsWith_iff]
  constructor
  · rintro ⟨w, hw, rfl⟩
    exact ⟨(eq_some_iff hs).1 hw, w.le_toInt, w.toInt_lt⟩
  · rintro ⟨hn, hrange⟩
    obtain ⟨w, rfl⟩ := exists_toInt hrange.1 hrange.2
    exact ⟨w, (eq_some_iff hs).2 hn, rfl⟩

/-- Reading the number at the front of a text in bytes never stops the program: both cuts stand between
characters of the text. It gives no number exactly if the text has none in front or one that does not fit
into a word, else the one that the text has; and so does reading it character by character. -/
theorem leading_integer_safe_and_exact (s : String) :
    (∃ tail, cutFrom? (front s) (signLength (front s)) = some tail ∧
      String.Pos.Raw.IsValid (front s) ⟨signLength (front s)⟩ ∧
      String.Pos.Raw.IsValid (front s) ⟨signLength (front s) + digitLength tail⟩ ∧
      signLength (front s) + digitLength tail ≤ (front s).utf8ByteSize) ∧
    ∃ result, leadingInteger? s = some result ∧
      (result = none ↔ (∀ n, ¬ FrontNumber n s.toList) ∨
        ∃ n, FrontNumber n s.toList ∧ ¬ (-2 ^ 63 ≤ n ∧ n < 2 ^ 63)) ∧
      (∀ w, result = some w ↔ FrontNumber w.toInt s.toList) ∧
      result.map Int64.toInt = Clarity.leadingInteger? s.toList := by
  obtain ⟨sign, digits, rest, hfront⟩ := exists_front (Text.trimStart s.toList)
  constructor
  · obtain ⟨hfrom, hto⟩ := hfront.cuts
    have hend := isValid_of_cutTo? hto
    rw [front, hfront.length_sign.2]
    refine ⟨_, hfrom, ?_⟩
    rw [digitLength_run hfront.areDigits hfront.stops]
    exact ⟨isValid_of_cutFrom? hfrom, hend, hend.le_rawEndPos⟩
  · have hs := hfront.leadingInteger?_eq
    exact ⟨_, hs, eq_none_iff hs, fun w => eq_some_iff hs, map_toInt hs⟩

example : leadingInteger? "\u3000-009223372036854775808٣" = some (some Int64.minValue) := by
  decide +kernel

example : leadingInteger? "+9223372036854775808" = some none := by decide +kernel

end Bytes

end StageGate.Clarity
