import InputBindings.Identifier

/-!
# How the character classes lie to each other

Names are made of word characters, and no blank and no punctuation is one. The
classes of all scripts are tables, so what holds of them is read off their
ranges: two tables share no character if no two of their ranges overlap.
-/

namespace InputBindings.Text

open Identifier (isPunctuation underscored)

/-! ## Tables -/

theorem exists_range_of_inRanges {ranges : List (Nat × Nat)} {n : Nat}
    (h : inRanges ranges n = true) : ∃ r ∈ ranges, r.1 ≤ n ∧ n ≤ r.2 := by
  induction ranges with
  | nil => simp [inRanges] at h
  | cons r ranges ih =>
      rw [inRanges] at h
      split at h
      · cases h
      · split at h
        · exact ⟨r, List.mem_cons_self, by omega, by omega⟩
        · obtain ⟨r', hr', hn⟩ := ih h
          exact ⟨r', List.mem_cons_of_mem _ hr', hn⟩

theorem inRanges_eq_false_of_disjoint {ranges others : List (Nat × Nat)} {n : Nat}
    (hdisjoint : ∀ r ∈ ranges, ∀ o ∈ others, r.2 < o.1 ∨ o.2 < r.1)
    (h : inRanges ranges n = true) : inRanges others n = false := by
  obtain ⟨r, hr, hrn⟩ := exists_range_of_inRanges h
  rw [Bool.eq_false_iff]
  intro hother
  obtain ⟨o, ho, hon⟩ := exists_range_of_inRanges hother
  have := hdisjoint r hr o ho
  omega

theorem blanks_disjoint_letters :
    ∀ r ∈ blankRanges, ∀ o ∈ letterRanges, r.2 < o.1 ∨ o.2 < r.1 := by decide +kernel

theorem blanks_disjoint_numerals :
    ∀ r ∈ blankRanges, ∀ o ∈ numeralRanges, r.2 < o.1 ∨ o.2 < r.1 := by decide +kernel

theorem letterRanges_ascii : ∀ n < 123, 65 ≤ n ∧ n ≤ 90 ∨ 97 ≤ n ∧ n ≤ 122 →
    inRanges letterRanges n = true := by decide

theorem letterRanges_start : ∀ n < 65, inRanges letterRanges n = false := by decide

theorem numeralRanges_ascii : ∀ n < 58, 48 ≤ n → inRanges numeralRanges n = true := by decide

/-! ## Names, blanks and punctuation -/

theorem toNat_of_isAlpha {c : Char} (h : c.isAlpha = true) :
    65 ≤ c.toNat ∧ c.toNat ≤ 90 ∨ 97 ≤ c.toNat ∧ c.toNat ≤ 122 := by
  change (decide ('A'.val ≤ c.val ∧ c.val ≤ 'Z'.val) ||
    (decide ('a'.val ≤ c.val) && decide (c.val ≤ 'z'.val))) = true at h
  simpa [UInt32.le_iff_toNat_le] using h

theorem toNat_of_isDigit {c : Char} (h : c.isDigit = true) : 48 ≤ c.toNat ∧ c.toNat ≤ 57 := by
  simpa [Char.isDigit, UInt32.le_iff_toNat_le] using h

theorem isLetter_of_isAlpha {c : Char} (h : c.isAlpha = true) : isLetter c = true := by
  have hn := toNat_of_isAlpha h
  exact letterRanges_ascii c.toNat (by omega) hn

theorem isLetter_of_isDigit {c : Char} (h : c.isDigit = true) : isLetter c = false := by
  have hn := toNat_of_isDigit h
  exact letterRanges_start c.toNat (by omega)

theorem isNumeral_of_isDigit {c : Char} (h : c.isDigit = true) : isNumeral c = true := by
  have hn := toNat_of_isDigit h
  exact numeralRanges_ascii c.toNat (by omega) hn.1

theorem isDigit_of_isAlpha {c : Char} (h : c.isAlpha = true) : c.isDigit = false := by
  rw [Bool.eq_false_iff]
  intro hdigit
  have halpha := toNat_of_isAlpha h
  have hnumber := toNat_of_isDigit hdigit
  omega

theorem isNameStart_iff (c : Char) :
    isNameStart c = true ↔ isNameChar c = true ∧ c.isDigit = false := by
  unfold isNameStart isNameChar Char.isAlphanum
  simp only [Bool.or_eq_true, beq_iff_eq]
  constructor
  · rintro (h | rfl)
    · exact ⟨Or.inl (Or.inl h), isDigit_of_isAlpha h⟩
    · exact ⟨Or.inr rfl, by decide⟩
  · rintro ⟨(h | h) | h, hdigit⟩
    · exact Or.inl h
    · rw [h] at hdigit
      cases hdigit
    · exact Or.inr h

theorem isNameChar_of_isNameStart {c : Char} (h : isNameStart c = true) : isNameChar c = true :=
  ((isNameStart_iff c).mp h).1

theorem isNameChar_underscored (c : Char) : isNameChar (underscored c) = true := by
  unfold underscored
  split
  · assumption
  · decide

/-- What a text may start with for something to be left of it becomes what a name may
start with: a letter that no name holds becomes an underscore. -/
theorem isNameStart_underscored {c : Char} (h : (isLetter c || c == '_') = true) :
    isNameStart (underscored c) = true := by
  unfold underscored
  split
  · rename_i hname
    refine (isNameStart_iff c).mpr ⟨hname, ?_⟩
    rw [Bool.eq_false_iff]
    intro hdigit
    rw [isLetter_of_isDigit hdigit, Bool.false_or, beq_iff_eq] at h
    subst h
    cases hdigit
  · decide

theorem isWord_of_isNameChar {c : Char} (h : isNameChar c = true) : isWord c = true := by
  rw [isNameChar, Char.isAlphanum, Bool.or_eq_true, Bool.or_eq_true] at h
  rw [isWord, Bool.or_eq_true, Bool.or_eq_true]
  rcases h with (h | h) | h
  · exact Or.inl (Or.inl (isLetter_of_isAlpha h))
  · exact Or.inl (Or.inr (isNumeral_of_isDigit h))
  · exact Or.inr h

theorem isWord_of_isBlank {c : Char} (h : isBlank c = true) : isWord c = false := by
  have hletter : isLetter c = false := inRanges_eq_false_of_disjoint blanks_disjoint_letters h
  have hnumeral : isNumeral c = false := inRanges_eq_false_of_disjoint blanks_disjoint_numerals h
  have hunderscore : (c == '_') = false := by
    rw [beq_eq_false_iff_ne]
    rintro rfl
    exact absurd h (by decide)
  rw [isWord, hletter, hnumeral, hunderscore]
  rfl

theorem isBlank_of_isNameChar {c : Char} (h : isNameChar c = true) : isBlank c = false := by
  rw [Bool.eq_false_iff]
  intro hblank
  have hword : isWord c = false := isWord_of_isBlank hblank
  rw [isWord_of_isNameChar h] at hword
  cases hword

theorem isPunctuation_iff {c : Char} : isPunctuation c = true ↔ c = '<' ∨ c = '>' ∨ c = ',' := by
  simp [isPunctuation, or_assoc]

theorem isPunctuation_of_isNameChar {c : Char} (h : isNameChar c = true) :
    isPunctuation c = false := by
  rw [Bool.eq_false_iff]
  intro hpunctuation
  rcases isPunctuation_iff.mp hpunctuation with rfl | rfl | rfl <;>
    exact absurd h (by decide)

theorem isPunctuation_of_isBlank {c : Char} (h : isBlank c = true) : isPunctuation c = false := by
  rw [Bool.eq_false_iff]
  intro hpunctuation
  rcases isPunctuation_iff.mp hpunctuation with rfl | rfl | rfl <;>
    exact absurd h (by decide)

theorem isWord_of_isPunctuation {c : Char} (h : isPunctuation c = true) : isWord c = false := by
  rcases isPunctuation_iff.mp h with rfl | rfl | rfl <;> decide

theorem isBlank_of_isPunctuation {c : Char} (h : isPunctuation c = true) :
    isBlank c = false := by
  rcases isPunctuation_iff.mp h with rfl | rfl | rfl <;> decide

end InputBindings.Text
