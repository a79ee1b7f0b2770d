/-!
Blank characters and trimming. A character is blank when it has the Unicode property White_Space.
Trimming takes blanks off the ends of a text and leaves what stands between them.
-/

set_option autoImplicit false

namespace StageGate.Text

/-- The members of White_Space; the set is closed by the stability policy of Unicode. -/
def isBlank (c : Char) : Bool :=
  let n := c.toNat
  (0x9 ≤ n && n ≤ 0xD) || n == 0x20 || n == 0x85 || n == 0xA0 || n == 0x1680 ||
    (0x2000 ≤ n && n ≤ 0x200A) || n == 0x2028 || n == 0x2029 || n == 0x202F || n == 0x205F ||
    n == 0x3000

def trimStart (cs : List Char) : List Char := cs.dropWhile isBlank

def trimEnd (cs : List Char) : List Char := (cs.reverse.dropWhile isBlank).reverse

def trim (cs : List Char) : List Char := trimEnd (trimStart cs)

def trimmed (s : String) : String := .ofList (trim s.toList)

def isBlankText (s : String) : Bool := s.toList.all isBlank

theorem trimStart_append_of_blank (bs cs : List Char) (h : ∀ b ∈ bs, isBlank b = true) :
    trimStart (bs ++ cs) = trimStart cs := by
  induction bs with
  | nil => rfl
  | cons b bs ih =>
    simp only [trimStart, List.cons_append, List.dropWhile_cons] at *
    simp [h b (by simp), ih (fun c hc => h c (by simp [hc]))]

theorem trimStart_eq_nil_iff {cs : List Char} : trimStart cs = [] ↔ cs.all isBlank = true := by
  induction cs with
  | nil => simp [trimStart]
  | cons c cs ih =>
    cases hc : isBlank c with
    | false => simp [trimStart, hc]
    | true => simp [trimStart, hc, ← ih]

theorem trim_eq_nil_iff {cs : List Char} : trim cs = [] ↔ cs.all isBlank = true := by
  have hend : trim cs = [] ↔ (trimStart cs).all isBlank = true := by
    rw [trim, trimEnd, List.reverse_eq_nil_iff, ← trimStart, trimStart_eq_nil_iff, List.all_reverse]
  refine hend.trans ⟨fun h => trimStart_eq_nil_iff.1 ?_, fun h => ?_⟩
  · cases hc : trimStart cs with
    | nil => rfl
    | cons c rest =>
      -- what is left begins with a character that is not blank
      have hhead := List.head_dropWhile_not (l := cs) isBlank (by rw [← trimStart, hc]; simp)
      simp only [← trimStart.eq_1, hc, List.head_cons] at hhead
      simp [hc, hhead] at h
  · rw [trimStart_eq_nil_iff.2 h]
    rfl

theorem trimmed_eq_empty_iff {s : String} : trimmed s = "" ↔ isBlankText s = true := by
  rw [trimmed, isBlankText, ← trim_eq_nil_iff]
  simp

end StageGate.Text
