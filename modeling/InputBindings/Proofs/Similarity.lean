import InputBindings.Proofs.Number.Rounding
import InputBindings.Similarity
import Mathlib.Data.List.Forall2
import Mathlib.Data.List.Infix

/-!
# What names have in common

Two names have a longest common subsequence. Its length is found row by row: a row has
the length for each rest of the second name, and one more character of the first name
makes the next row. The exact ratio of two names is the part of their characters that
lies in such a subsequence of both, out of one hundred. It is one hundred for a name and
itself, and for no other name. The score is this ratio but for rounding, and rounding
leaves a difference between names unless they are very long: one character of `2 ^ 53`
still takes the share of what is common below one, and the product with one hundred below
one hundred.

Main statements: `commonLength_isLongest`, `IsRatio.hundred_le_iff`, `score_lt`.
-/

namespace InputBindings.Similarity

open Number (Double)

variable {c d : Char} {xs ys zs : List Char} {n m : ℕ} {a b : String} {r : ℚ}

/-! ## Longest common subsequences -/

/-- The number is the length of a longest common subsequence. -/
structure IsLongest (xs ys : List Char) (n : ℕ) : Prop where
  exists_common : ∃ zs : List Char, zs.Sublist xs ∧ zs.Sublist ys ∧ zs.length = n
  length_le : ∀ zs : List Char, zs.Sublist xs → zs.Sublist ys → zs.length ≤ n

namespace IsLongest

theorem nil_left : IsLongest [] ys 0 :=
  ⟨⟨[], .slnil, List.nil_sublist _, rfl⟩, fun _ hxs _ => hxs.length_le⟩

theorem nil_right : IsLongest xs [] 0 :=
  ⟨⟨[], List.nil_sublist _, .slnil, rfl⟩, fun _ _ hys => hys.length_le⟩

/-- A character that both start with is in a longest common subsequence. -/
theorem cons_cons (h : IsLongest xs ys n) : IsLongest (c :: xs) (c :: ys) (n + 1) := by
  obtain ⟨⟨zs, hxs, hys, hlength⟩, hle⟩ := h
  refine ⟨⟨c :: zs, hxs.cons_cons c, hys.cons_cons c, by rw [List.length_cons, hlength]⟩, ?_⟩
  intro ws hws hws'
  have htail : ws.tail.length ≤ n := hle ws.tail hws.tail hws'.tail
  rw [List.length_tail] at htail
  omega

/-- Of two characters that differ a common subsequence starts with one at most. -/
theorem cons_of_ne (hne : c ≠ d) (hleft : IsLongest xs (d :: ys) n)
    (hright : IsLongest (c :: xs) ys m) : IsLongest (c :: xs) (d :: ys) (max n m) := by
  constructor
  · rcases le_total m n with hle | hle
    · obtain ⟨zs, hxs, hys, hlength⟩ := hleft.exists_common
      exact ⟨zs, hxs.cons c, hys, by rw [max_eq_left hle, hlength]⟩
    · obtain ⟨zs, hxs, hys, hlength⟩ := hright.exists_common
      exact ⟨zs, hxs, hys.cons d, by rw [max_eq_right hle, hlength]⟩
  · intro zs hxs hys
    rcases List.sublist_cons_iff.mp hxs with hskip | ⟨rest, rfl, hrest⟩
    · exact (hleft.length_le zs hskip hys).trans (le_max_left n m)
    · rcases List.sublist_cons_iff.mp hys with hskip | ⟨_, heq, -⟩
      · exact (hright.length_le _ hxs hskip).trans (le_max_right n m)
      · exact absurd (List.cons.inj heq).1 hne

theorem unique (h : IsLongest xs ys n) (h' : IsLongest xs ys m) : n = m := by
  obtain ⟨zs, hxs, hys, rfl⟩ := h.exists_common
  obtain ⟨ws, hws, hws', rfl⟩ := h'.exists_common
  exact le_antisymm (h'.length_le zs hxs hys) (h.length_le ws hws hws')

theorem self (xs : List Char) : IsLongest xs xs xs.length :=
  ⟨⟨xs, .refl xs, .refl xs, rfl⟩, fun _ hxs _ => hxs.length_le⟩

theorem le_left (h : IsLongest xs ys n) : n ≤ xs.length := by
  obtain ⟨zs, hxs, -, rfl⟩ := h.exists_common
  exact hxs.length_le

theorem le_right (h : IsLongest xs ys n) : n ≤ ys.length := by
  obtain ⟨zs, -, hys, rfl⟩ := h.exists_common
  exact hys.length_le

/-- All characters of both are in a common subsequence only if there is no difference. -/
theorem eq_of_length (h : IsLongest xs ys n) (hlength : xs.length + ys.length ≤ 2 * n) :
    xs = ys := by
  have hleft := h.le_left
  have hright := h.le_right
  obtain ⟨zs, hxs, hys, hzs⟩ := h.exists_common
  have hzsxs : zs = xs := hxs.eq_of_length (by omega)
  have hzsys : zs = ys := hys.eq_of_length (by omega)
  exact hzsxs.symm.trans hzsys

end IsLongest

theorem exists_tails_eq_cons (ys : List Char) : ∃ rests, ys.tails = ys :: rests := by
  cases ys <;> exact ⟨_, rfl⟩

/-- A row of the table of common lengths with the next character is the row behind it. -/
theorem forall₂_nextRow {above : List ℕ} (h : List.Forall₂ (IsLongest xs) ys.tails above) :
    List.Forall₂ (IsLongest (c :: xs)) ys.tails (nextRow c ys above) := by
  induction ys generalizing above with
  | nil => exact .cons .nil_right .nil
  | cons d ys ih =>
      rw [List.tails_cons] at h ⊢
      obtain ⟨a, above, ha, habove, rfl⟩ := List.forall₂_cons_left_iff.mp h
      have hrow := ih habove
      -- The rests of `ys` start with `ys`, so both rows have an entry for it.
      obtain ⟨rests, htails⟩ := exists_tails_eq_cons ys
      rw [htails] at habove hrow ⊢
      obtain ⟨b, above, hb, -, rfl⟩ := List.forall₂_cons_left_iff.mp habove
      obtain ⟨left, row, hleft, hrest, hnext⟩ := List.forall₂_cons_left_iff.mp hrow
      unfold nextRow
      simp only [hnext]
      refine .cons ?_ (.cons hleft hrest)
      split
      · rename_i heq
        exact heq ▸ hb.cons_cons
      · rename_i hne
        exact .cons_of_ne hne ha hleft

theorem commonLength_isLongest (xs ys : List Char) : IsLongest xs ys (commonLength xs ys) := by
  have hrow : List.Forall₂ (IsLongest xs) ys.tails
      (xs.foldr (fun c above => nextRow c ys above) (List.replicate (ys.length + 1) 0)) := by
    induction xs with
    | nil =>
        refine List.forall₂_iff_get.mpr ⟨by simp, fun i hi hi' => ?_⟩
        simpa using IsLongest.nil_left
    | cons c xs ih => exact forall₂_nextRow ih
  obtain ⟨rests, htails⟩ := exists_tails_eq_cons ys
  rw [htails] at hrow
  obtain ⟨n, row, hn, -, hfold⟩ := List.forall₂_cons_left_iff.mp hrow
  rw [commonLength, hfold]
  exact hn

/-! ## Exact ratios -/

/-- The number is the exact ratio of two names. -/
def IsRatio (a b : String) (r : ℚ) : Prop :=
  ∃ n, IsLongest a.toList b.toList n ∧ r = 200 * n / (a.length + b.length : ℕ)

/-- The exact ratio of two names that are not both empty. -/
def ratio (a b : String) : ℚ :=
  200 * commonLength a.toList b.toList / (a.length + b.length : ℕ)

theorem ratio_isRatio (a b : String) : IsRatio a b (ratio a b) :=
  ⟨_, commonLength_isLongest _ _, rfl⟩

theorem length_pos_of_ne (ha : a ≠ "") : 0 < a.length := by
  rw [← String.length_toList, List.length_pos_iff]
  simpa using ha

/-- The exact ratio reaches one hundred for equal names only. -/
theorem IsRatio.hundred_le_iff (h : IsRatio a b r) (ha : a ≠ "") : 100 ≤ r ↔ a = b := by
  obtain ⟨n, hn, rfl⟩ := h
  have hpos : (0 : ℚ) < (a.length + b.length : ℕ) := by
    have := length_pos_of_ne ha
    exact_mod_cast Nat.add_pos_left this b.length
  rw [le_div_iff₀ hpos]
  constructor
  · intro hle
    have hle' : a.toList.length + b.toList.length ≤ 2 * n := by
      rw [String.length_toList, String.length_toList]
      have : ((a.length + b.length : ℕ) : ℚ) ≤ (2 * n : ℕ) := by
        push_cast at hle ⊢
        linarith
      exact_mod_cast this
    exact String.toList_injective (hn.eq_of_length hle')
  · rintro rfl
    have hlength : n = a.length := by
      rw [hn.unique (.self a.toList), String.length_toList]
    rw [hlength]
    push_cast
    linarith

/-! ## Scores -/

/-- The part of the characters of two names that is in no common subsequence, rounded. -/
def share (a b : String) : Double :=
  Double.ofRatio false
    (a.length + b.length - 2 * commonLength a.toList b.toList) (a.length + b.length)

theorem score_eq (ha : a ≠ "") :
    score a b = ((Double.ofInt 1).add (share a b).neg).mul (Double.ofInt 100) := by
  have hpos := length_pos_of_ne ha
  unfold score share
  simp only [String.length_toList]
  rw [if_neg (by omega)]

theorem ofInt_one : Double.ofInt 1 = .finite false (2 ^ 52) (-52) := by decide +kernel

theorem ofInt_hundred : Double.ofInt 100 = .finite false (25 * 2 ^ 48) (-46) := by decide +kernel

theorem score_ne_nan (ha : a ≠ "") (b : String) : score a b ≠ .nan := by
  rw [score_eq ha, ofInt_one, ofInt_hundred]
  refine Double.mul_ne_nan (Double.add_ne_nan (Double.neg_ne_nan ?_)) (by decide)
  exact Double.ofRatio_ne_nan _ _ _

theorem score_self (ha : a ≠ "") : score a a = Double.ofInt 100 := by
  have hcommon : commonLength a.toList a.toList = a.length := by
    rw [(commonLength_isLongest _ _).unique (.self a.toList), String.length_toList]
  have hapart : a.length + a.length - 2 * a.length = 0 := by omega
  rw [score_eq ha, share, hcommon, hapart, Double.ofRatio_zero]
  decide +kernel

/-- Of two names that differ a character is apart, and no more are than there are. -/
theorem share_bounds (ha : a ≠ "") (hne : a ≠ b) (hlength : a.length + b.length ≤ 2 ^ 53) :
    ∃ (m : ℕ) (e : ℤ), share a b = .finite false m e ∧
      (2 ^ (-53 : ℤ) : ℚ) ≤ Double.value false m e ∧ Double.value false m e ≤ 1 := by
  have hpos : 0 < a.length + b.length := Nat.add_pos_left (length_pos_of_ne ha) _
  have hposq : (0 : ℚ) < (a.length + b.length : ℕ) := by exact_mod_cast hpos
  have hlengthq : ((a.length + b.length : ℕ) : ℚ) ≤ 2 ^ 53 := by exact_mod_cast hlength
  have happart : 1 ≤ a.length + b.length - 2 * commonLength a.toList b.toList := by
    have hcommon := commonLength_isLongest a.toList b.toList
    have hless : ¬a.toList.length + b.toList.length ≤ 2 * commonLength a.toList b.toList :=
      fun hle => hne (String.toList_injective (hcommon.eq_of_length hle))
    rw [String.length_toList, String.length_toList] at hless
    omega
  have hone : (Double.ofRatio false 1 1) = .finite false (2 ^ 52) (-52) := ofInt_one
  have htiny : Double.ofRatio false 1 (2 ^ 53) = .finite false (2 ^ 52) (-105) := by
    decide +kernel
  have hle : (share a b).le (.finite false (2 ^ 52) (-52)) = true := by
    rw [← hone]
    refine Double.ofRatio_mono hpos Nat.one_pos ?_
    rw [Nat.cast_one, div_one, div_le_one hposq]
    exact_mod_cast Nat.sub_le _ _
  obtain ⟨m, e, heq⟩ := Double.exists_ofRatio_eq hpos hle
  refine ⟨m, e, heq, ?_, ?_⟩
  · have hge : Double.le (.finite false (2 ^ 52) (-105)) (share a b) = true := by
      rw [← htiny]
      refine Double.ofRatio_mono (by norm_num) hpos ?_
      gcongr
    rw [share, heq, Double.le_finite_iff] at hge
    refine le_trans ?_ hge
    norm_num [Double.value]
  · rw [share, heq, Double.le_finite_iff] at hle
    refine le_trans hle ?_
    norm_num [Double.value]

/-- What is left of one is rounded to less than one. -/
theorem difference_bounds (ha : a ≠ "") (hne : a ≠ b) (hlength : a.length + b.length ≤ 2 ^ 53) :
    ∃ (m : ℕ) (e : ℤ), (Double.ofInt 1).add (share a b).neg = .finite false m e ∧
      Double.value false m e ≤ (2 ^ 53 - 1) / 2 ^ 53 := by
  obtain ⟨m, e, hshare, hlow, hhigh⟩ := share_bounds ha hne hlength
  have hvalue : Double.value false (2 ^ 52) (-52) + Double.value true m e =
      1 - Double.value false m e := by
    norm_num [Double.value]
    ring
  obtain ⟨num, den, hden, hquotient, hadd⟩ := Double.exists_add_eq (s := false) (t := true)
    (m := 2 ^ 52) (e := -52) (n := m) (f := e) rfl (by rw [hvalue]; linarith)
  have hbelow : Double.ofRatio false (2 ^ 53 - 1) (2 ^ 53) = .finite false (2 ^ 53 - 1) (-53) := by
    decide +kernel
  have hle : (Double.ofRatio false num den).le (.finite false (2 ^ 53 - 1) (-53)) = true := by
    rw [← hbelow]
    refine Double.ofRatio_mono hden (by norm_num) ?_
    rw [hquotient, hvalue]
    norm_num at hlow ⊢
    linarith
  obtain ⟨m', e', heq⟩ := Double.exists_ofRatio_eq hden hle
  refine ⟨m', e', ?_, ?_⟩
  · rw [ofInt_one, hshare, ← heq, ← hadd]
    rfl
  · rw [heq, Double.le_finite_iff] at hle
    refine le_trans hle ?_
    norm_num [Double.value]

/-- Names that differ score less than one hundred, unless they are so long that the
difference gets lost in rounding. -/
theorem score_lt (ha : a ≠ "") (hne : a ≠ b) (hlength : a.length + b.length ≤ 2 ^ 53) :
    Double.intLe 100 (score a b) = false := by
  obtain ⟨m, e, hdifference, hvalue⟩ := difference_bounds ha hne hlength
  obtain ⟨num, den, hden, hquotient, hmul⟩ :=
    Double.exists_mul_eq false false m (25 * 2 ^ 48) e (-46)
  have hle : (Double.ofRatio false num den).le
      (Double.ofRatio false (100 * (2 ^ 53 - 1)) (2 ^ 53)) = true := by
    refine Double.ofRatio_mono hden (by norm_num) ?_
    have hnonneg : 0 ≤ Double.value false m e := by
      rw [Double.value_false]
      positivity
    have hhundred : Double.value false (25 * 2 ^ 48) (-46) = 100 := by norm_num [Double.value]
    rw [hquotient, hhundred, abs_of_nonneg (by positivity)]
    norm_num at hvalue ⊢
    linarith
  rw [score_eq ha, hdifference, ofInt_hundred, hmul]
  by_contra hreached
  rw [Bool.not_eq_false] at hreached
  have hclosed : Double.intLe 100 (Double.ofRatio false (100 * (2 ^ 53 - 1)) (2 ^ 53)) = false := by
    decide +kernel
  exact Bool.false_ne_true (hclosed.symm.trans (Double.intLe_of_le hreached hle))

end InputBindings.Similarity
