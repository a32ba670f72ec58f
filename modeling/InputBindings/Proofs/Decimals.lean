import InputBindings.Number.Integer
import InputBindings.Proofs.Characters

/-!
# Reading decimals

An integer that is written plainly, in ASCII digits behind a minus sign if it is
negative, is read as itself. No script, no blanks and no underscores come in, so all
that is left to ask for is that the digits are not too many to be read.

Main statement: `integer?_repr`.
-/

namespace InputBindings.Number

variable {c : Char} {cs : List Char}

/-! ## Digits -/

theorem digitValue?_of_isDigit (h : c.isDigit = true) :
    Text.digitValue? c = some (c.toNat - 48) := by
  have hn := Text.toNat_of_isDigit h
  have hfirst : (48 ≤ c.toNat && c.toNat ≤ 48 + 9) = true := by
    rw [Bool.and_eq_true, decide_eq_true_eq, decide_eq_true_eq]
    omega
  -- the digits of ASCII are the first run of all
  have hrun : Text.digitZeros.find? (fun z => z ≤ c.toNat && c.toNat ≤ z + 9) = some 48 :=
    List.find?_cons_of_pos hfirst
  rw [Text.digitValue?, hrun]
  rfl

theorem digit?_of_isDigit (h : c.isDigit = true) : digit? 10 c = some (c.toNat - 48) := by
  have hn := Text.toNat_of_isDigit h
  have hlt : c.toNat - 48 < 10 := by omega
  unfold digit?
  rw [digitValue?_of_isDigit h]
  exact Option.filter_some_pos (decide_eq_true hlt)

theorem ne_underscore_of_isDigit (h : c.isDigit = true) : c ≠ '_' := by
  rintro rfl
  cases h

theorem moreDigits_of_isDigit (h : ∀ c ∈ cs, c.isDigit = true) :
    moreDigits 10 cs = some (cs.map fun c => c.toNat - 48) := by
  induction cs with
  | nil => rfl
  | cons c cs ih =>
      obtain ⟨hc, hcs⟩ := List.forall_mem_cons.mp h
      have hne : c ≠ '_' := ne_underscore_of_isDigit hc
      rw [moreDigits]
      · rw [digit?_of_isDigit hc, ih hcs]
        rfl
      · rintro d ds rfl
        exact absurd rfl hne

/-- Decimals have no mark. -/
theorem withoutMark_ten (cs : List Char) : withoutMark 10 cs = cs := by
  unfold withoutMark
  split
  · rfl
  · rfl

theorem ofDigits_eq_ofDigitChars (cs : List Char) :
    ofDigits 10 (cs.map fun c => c.toNat - 48) = Nat.ofDigitChars 10 cs 0 := by
  have hstep : (fun (n : Nat) (c : Char) => n * 10 + (c.toNat - 48)) =
      fun n c => 10 * n + (c.toNat - '0'.toNat) := by
    funext n c
    rw [Nat.mul_comm]
    rfl
  rw [ofDigits, Nat.ofDigitChars_eq_foldl, List.foldl_map, hstep]

theorem natural?_of_isDigit (hne : cs ≠ []) (hdigits : ∀ c ∈ cs, c.isDigit = true)
    (hlength : cs.length ≤ maxDigits) : natural? 10 cs = some (Nat.ofDigitChars 10 cs 0) := by
  unfold natural?
  rw [withoutMark_ten]
  cases cs with
  | nil => exact absurd rfl hne
  | cons c cs =>
      obtain ⟨hc, hcs⟩ := List.forall_mem_cons.mp hdigits
      have hshort : ¬maxDigits ≤ (cs.map fun c => c.toNat - 48).length := by
        rw [List.length_map]
        rw [List.length_cons] at hlength
        omega
      simp only [digit?_of_isDigit hc, moreDigits_of_isDigit hcs, Option.bind_eq_bind,
        Option.bind_some]
      rw [if_neg fun h => hshort h.2, ← List.map_cons (f := fun c : Char => c.toNat - 48),
        ofDigits_eq_ofDigitChars]

/-! ## Integers -/

theorem isOuterBlank_of_isDigit (h : c.isDigit = true) : isOuterBlank c = false := by
  have hn := Text.toNat_of_isDigit h
  have hspace : c ≠ ' ' := by
    rintro rfl
    cases h
  simp only [isOuterBlank, Text.isAsciiBlank, Bool.or_eq_false_iff, Bool.and_eq_false_imp,
    beq_eq_false_iff_ne, decide_eq_true_eq, decide_eq_false_iff_not]
  refine ⟨⟨hspace, fun _ => by omega⟩, fun hwide => ?_⟩
  exact absurd hwide (by omega)

theorem trim_eq_self {blank : Char → Bool} (h : ∀ c ∈ cs, blank c = false) :
    Text.trim blank cs = cs := by
  have hkeeps : ∀ ds : List Char, (∀ c ∈ ds, blank c = false) → ds.dropWhile blank = ds := by
    intro ds hds
    cases ds with
    | nil => rfl
    | cons d ds => rw [List.dropWhile_cons_of_neg (by simp [hds d List.mem_cons_self])]
  have hreverse : ∀ c ∈ cs.reverse, blank c = false := by
    intro c hc
    exact h c (List.mem_reverse.mp hc)
  rw [Text.trim, hkeeps cs h, hkeeps _ hreverse, List.reverse_reverse]

/-- Digits are read as their number, and behind a minus sign as its negative. -/
theorem integerIn?_of_isDigit (hne : cs ≠ []) (hdigits : ∀ c ∈ cs, c.isDigit = true)
    (hlength : cs.length ≤ maxDigits) :
    integerIn? 10 cs = some (Nat.ofDigitChars 10 cs 0 : Int) ∧
      integerIn? 10 ('-' :: cs) = some (-(Nat.ofDigitChars 10 cs 0 : Int)) := by
  have hblank : ∀ c ∈ cs, isOuterBlank c = false :=
    fun c hc => isOuterBlank_of_isDigit (hdigits c hc)
  have hsigned : ∀ c ∈ '-' :: cs, isOuterBlank c = false :=
    List.forall_mem_cons.mpr ⟨by decide, hblank⟩
  have hnatural := natural?_of_isDigit hne hdigits hlength
  constructor
  · unfold integerIn?
    rw [trim_eq_self hblank]
    obtain ⟨c, ds, rfl⟩ := List.exists_cons_of_ne_nil hne
    have hc : c.isDigit = true := hdigits c List.mem_cons_self
    split
    · rename_i heq
      cases heq
      cases hc
    · rename_i heq
      cases heq
      cases hc
    · rw [hnatural]
      rfl
  · unfold integerIn?
    rw [trim_eq_self hsigned]
    simp only [hnatural]
    rfl

/-- **Plain decimals are read as themselves**, of either sign, if they can be read at
all. -/
theorem integer?_repr {n : Int} (h : n.natAbs.repr.length ≤ maxDigits) :
    integer? n.repr = some n := by
  have hne : ∀ m : Nat, Nat.toDigits 10 m ≠ [] := fun _ => Nat.toDigits_ne_nil
  have hdigits : ∀ m : Nat, ∀ c ∈ Nat.toDigits 10 m, c.isDigit = true := fun _ _ hc =>
    Nat.isDigit_of_mem_toDigits (by decide) (by decide) hc
  rw [← String.length_toList, Nat.toList_repr] at h
  obtain ⟨hpositive, hnegative⟩ := integerIn?_of_isDigit (hne n.natAbs) (hdigits n.natAbs) h
  rw [Nat.ofDigitChars_ten_toDigits] at hpositive hnegative
  cases n with
  | ofNat m =>
      rw [integer?, Int.repr, Nat.toList_repr]
      exact hpositive
  | negSucc m =>
      rw [integer?, Int.repr, String.toList_append, Nat.toList_repr]
      exact hnegative

end InputBindings.Number
