import InputBindings.Proofs.Catalog.History
import InputBindings.Proofs.Similarity
import Mathlib.Data.List.Sort

/-!
# Suggestions are the best matches

A name is placed behind all names that are at least as close, and so placing names one
after another sorts them, and those that are equally close stay in order: a name that is
placed first ends in front of its equals, whatever is placed behind it later. The closest
names are cut off before it is asked whether they are close enough. Since whatever is
close enough stands in front of the rest, it does not matter which is done first.

Main statement: `suggestions_are_best`.
-/

namespace InputBindings

/-! ## Stable sorting -/

section Stable

variable {α : Type} {le : α → α → Bool}

/-- Behind all that come before it, and in front of the rest. -/
theorem orderedInsert_append {a : α} {before after : List α} (hbefore : ∀ b ∈ before, ¬le a b)
    (hafter : ∀ b ∈ after, le a b) :
    (before ++ after).orderedInsert (fun x y => le x y) a = before ++ a :: after := by
  induction before with
  | nil =>
      cases after with
      | nil => rfl
      | cons b after => exact if_pos (hafter b List.mem_cons_self)
  | cons b before ih =>
      have hrest := ih fun c hc => hbefore c (List.mem_cons_of_mem _ hc)
      rw [List.cons_append, List.orderedInsert_cons, if_neg (hbefore b List.mem_cons_self), hrest,
        List.cons_append]

variable (trans : ∀ a b c, le a b → le b c → le a c) (total : ∀ a b, le a b || le b a)
include trans total

/-- The first element of a list goes in front of its equals. -/
theorem exists_mergeSort_cons (a : α) (l : List α) :
    ∃ before after, (a :: l).mergeSort le = before ++ a :: after ∧
      l.mergeSort le = before ++ after ∧ (∀ b ∈ before, ¬le a b) ∧ ∀ b ∈ after, le a b := by
  obtain ⟨before, after, hcons, hsplit, hbefore⟩ := List.mergeSort_cons trans total a l
  refine ⟨before, after, hcons, hsplit, fun b hb => by simpa using hbefore b hb, ?_⟩
  have hsorted := List.pairwise_mergeSort trans total (a :: l)
  rw [hcons, List.pairwise_append, List.pairwise_cons] at hsorted
  exact hsorted.2.1.1

theorem mergeSort_cons_eq (a : α) (l : List α) :
    (a :: l).mergeSort le = (l.mergeSort le).orderedInsert (fun x y => le x y) a := by
  obtain ⟨before, after, hcons, hsplit, hbefore, hafter⟩ := exists_mergeSort_cons trans total a l
  rw [hcons, hsplit, orderedInsert_append hbefore hafter]

/-- Leaving elements out does not change the order of the others. -/
theorem filter_mergeSort (p : α → Bool) (l : List α) :
    (l.mergeSort le).filter p = (l.filter p).mergeSort le := by
  induction l with
  | nil => simp
  | cons a l ih =>
      obtain ⟨before, after, hcons, hsplit, hbefore, hafter⟩ :=
        exists_mergeSort_cons trans total a l
      rw [hcons, List.filter_append]
      rw [hsplit, List.filter_append] at ih
      by_cases ha : p a
      · rw [List.filter_cons_of_pos ha, List.filter_cons_of_pos ha,
          mergeSort_cons_eq trans total, ← ih]
        exact (orderedInsert_append (fun b hb => hbefore b (List.mem_of_mem_filter hb))
          fun b hb => hafter b (List.mem_of_mem_filter hb)).symm
      · rw [List.filter_cons_of_neg ha, List.filter_cons_of_neg ha, ih]

/-- An element in front of its equals and one behind its equals do not see each other. -/
theorem orderedInsert_comm (a b : α) (l : List α) :
    (l.orderedInsert (fun x y => ¬le y x) b).orderedInsert (fun x y => le x y) a =
      (l.orderedInsert (fun x y => le x y) a).orderedInsert (fun x y => ¬le y x) b := by
  induction l with
  | nil => by_cases hab : le a b <;> simp [List.orderedInsert, hab]
  | cons y l ih =>
      by_cases hay : le a y
      · by_cases hyb : le y b
        · simp [List.orderedInsert, hay, hyb, trans a y b hay hyb]
        · by_cases hab : le a b <;> simp [List.orderedInsert, hay, hyb, hab]
      · by_cases hyb : le y b
        · simpa [List.orderedInsert, hay, hyb] using ih
        · -- `b` goes in front of `y`, which is in front of `a`.
          have hya : le y a := by simpa [hay] using total y a
          have hab : ¬le a b := fun hab => hyb (trans y a b hya hab)
          simp [List.orderedInsert, hay, hyb, hab]

theorem foldl_orderedInsert_comm (a : α) (l done : List α) :
    l.foldl (fun done b => done.orderedInsert (fun x y => ¬le y x) b)
        (done.orderedInsert (fun x y => le x y) a) =
      (l.foldl (fun done b => done.orderedInsert (fun x y => ¬le y x) b) done).orderedInsert
        (fun x y => le x y) a := by
  induction l generalizing done with
  | nil => rfl
  | cons b l ih =>
      rw [List.foldl_cons, List.foldl_cons, ← orderedInsert_comm trans total, ih]

/-- Sorting is placing each element behind its equals. -/
theorem foldl_orderedInsert (l : List α) :
    l.foldl (fun done a => done.orderedInsert (fun x y => ¬le y x) a) [] = l.mergeSort le := by
  induction l with
  | nil => rw [List.foldl_nil, List.mergeSort_nil]
  | cons a l ih =>
      rw [mergeSort_cons_eq trans total, ← ih, ← foldl_orderedInsert_comm trans total]
      rfl

end Stable

/-- What holds of a front part only can be asked before or after cutting the list off. -/
theorem take_filter {α : Type} {p : α → Bool} {l : List α}
    (h : l.Pairwise fun x y => p y = true → p x = true) (k : ℕ) :
    (l.take k).filter p = (l.filter p).take k := by
  induction l generalizing k with
  | nil => simp
  | cons x l ih =>
      obtain ⟨hx, hl⟩ := List.pairwise_cons.mp h
      cases k with
      | zero => rfl
      | succ k =>
          by_cases hp : p x
          · rw [List.take_succ_cons, List.filter_cons_of_pos hp, List.filter_cons_of_pos hp,
              List.take_succ_cons, ih hl]
          · have hnone : ∀ y ∈ x :: l, ¬p y = true :=
              List.forall_mem_cons.mpr ⟨hp, fun y hy hpy => hp (hx y hy hpy)⟩
            rw [List.filter_eq_nil_iff.mpr hnone, List.take_nil, List.filter_eq_nil_iff]
            exact fun y hy => hnone y (List.mem_of_mem_take hy)

/-! ## Scales -/

namespace Similarity

variable {σ : Type} {scale : Scale σ} {name : String} {names : List String}

namespace Scale

/-- One name is as close to the name as another, or closer. -/
def asClose (scale : Scale σ) (name a b : String) : Bool :=
  scale.le (scale.score name b) (scale.score name a)

/-- A name is close enough to the name. -/
def admits (scale : Scale σ) (name : String) (least : ℤ) (other : String) : Bool :=
  scale.reaches (scale.score name other) least

/-- Names can be sorted by how close they are to the name, and behind one that is not close
enough there is none. -/
structure Ordered (scale : Scale σ) (name : String) : Prop where
  trans : ∀ a b c, scale.asClose name a b → scale.asClose name b c → scale.asClose name a c
  total : ∀ a b, scale.asClose name a b || scale.asClose name b a
  admits_of_asClose : ∀ least a b, scale.asClose name a b → scale.admits name least b →
    scale.admits name least a

/-- The name reaches one hundred, and of the names no other is as close to it. -/
structure Discerns (scale : Scale σ) (name : String) (names : List String) : Prop where
  admits_self : ∀ least ≤ 100, scale.admits name least name
  eq_of_asClose : ∀ other ∈ names, scale.asClose name other name → other = name

/-- The scale of an exact ratio of names. -/
def exact (ratio : String → String → ℚ) : Scale ℚ where
  score := ratio
  le := fun x y => decide (x ≤ y)
  reaches := fun x n => decide ((n : ℚ) ≤ x)

theorem exact_ordered (ratio : String → String → ℚ) (name : String) :
    (exact ratio).Ordered name := by
  constructor
  · intro a b c hab hbc
    simp only [asClose, exact, decide_eq_true_eq] at hab hbc ⊢
    exact hbc.trans hab
  · intro a b
    simp only [asClose, exact, Bool.or_eq_true, decide_eq_true_eq]
    exact le_total _ _
  · intro least a b hab hb
    simp only [asClose, admits, exact, decide_eq_true_eq] at hab hb ⊢
    exact hb.trans hab

theorem exact_discerns {ratio : String → String → ℚ} (hname : name ≠ "")
    (hratio : ∀ a b, a ≠ "" → IsRatio a b (ratio a b)) (names : List String) :
    (exact ratio).Discerns name names := by
  have hself : 100 ≤ ratio name name := ((hratio name name hname).hundred_le_iff hname).mpr rfl
  constructor
  · intro least hleast
    have hleastq : (least : ℚ) ≤ 100 := by exact_mod_cast hleast
    exact decide_eq_true (hleastq.trans hself)
  · intro other _ hcloser
    have hle : ratio name name ≤ ratio name other := of_decide_eq_true hcloser
    exact (((hratio name other hname).hundred_le_iff hname).mp (hself.trans hle)).symm

theorem doubles_ordered (hname : name ≠ "") : doubles.Ordered name := by
  constructor
  · intro a b c hab hbc
    exact Number.Double.le_trans hbc hab
  · intro a b
    rw [Bool.or_eq_true]
    exact Number.Double.le_total (score_ne_nan hname b) (score_ne_nan hname a)
  · intro least a b hab hb
    exact Number.Double.intLe_of_le hb hab

/-- Rounding can tell names from the name unless they are very long. -/
theorem doubles_discerns (hname : name ≠ "")
    (hlengths : ∀ other ∈ names, name.length + other.length ≤ 2 ^ 53) :
    doubles.Discerns name names := by
  have hself : ∀ least ≤ 100, doubles.admits name least name := by
    intro least hleast
    have hleastq : (least : ℚ) ≤ 100 := by exact_mod_cast hleast
    show Number.Double.intLe least (Similarity.score name name) = true
    rw [score_self hname, ofInt_hundred, Number.Double.intLe_finite_iff]
    refine hleastq.trans ?_
    norm_num [Number.Double.value]
  refine ⟨hself, fun other hother hcloser => ?_⟩
  by_contra hne
  have hreached := Number.Double.intLe_of_le (hself 100 (le_refl _)) hcloser
  exact Bool.false_ne_true ((score_lt hname (Ne.symm hne) (hlengths other hother)).symm.trans
    hreached)

end Scale

/-! ## Ranks -/

/-- A name with its score. -/
def Scale.scored (scale : Scale σ) (name other : String) : σ × String :=
  (scale.score name other, other)

theorem place_map (scale : Scale σ) (name a : String) (l : List String) :
    place scale (scale.scored name a) (l.map (scale.scored name)) =
      (l.orderedInsert (fun x y => ¬scale.asClose name y x) a).map (scale.scored name) := by
  induction l with
  | nil => rfl
  | cons b l ih =>
      have hcloser : scale.le (scale.scored name a).1 (scale.scored name b).1 =
          scale.asClose name b a := rfl
      rw [List.map_cons, place, List.orderedInsert_cons, hcloser]
      by_cases hb : scale.asClose name b a
      · rw [if_pos hb, if_neg (not_not.mpr hb), ih, List.map_cons]
      · rw [if_neg hb, if_pos hb, List.map_cons, List.map_cons]

theorem foldl_place_map (scale : Scale σ) (name : String) (names done : List String) :
    names.foldl (fun done other => place scale (scale.scored name other) done)
        (done.map (scale.scored name)) =
      (names.foldl (fun done other => done.orderedInsert (fun x y => ¬scale.asClose name y x) other)
        done).map (scale.scored name) := by
  induction names generalizing done with
  | nil => rfl
  | cons a names ih => rw [List.foldl_cons, List.foldl_cons, place_map, ih]

/-- The ranked names are the names sorted, each with its score. -/
theorem ranked_eq (h : scale.Ordered name) (names : List String) : ranked scale name names =
    (names.mergeSort (scale.asClose name)).map (scale.scored name) := by
  rw [← foldl_orderedInsert h.trans h.total]
  exact foldl_place_map scale name names []

/-! ## Matches -/

/-- The names that are close enough, best first, those of one score in order, and of these
the first few. -/
def bestMatches (scale : Scale σ) (name : String) (names : List String) (limit : ℕ)
    (least : ℤ) : List String :=
  ((names.filter (scale.admits name least)).mergeSort (scale.asClose name)).take limit

end Similarity

namespace Catalog

open Similarity

variable {σ : Type} {scale : Scale σ} {name : String} {c : Catalog} {limit : ℕ} {least : ℤ}

theorem suggestBy_eq (hname : name ≠ "") (h : scale.Ordered name) (c : Catalog) (limit : ℕ)
    (least : ℤ) : c.suggestBy scale name limit least =
      bestMatches scale name c.names limit least := by
  have hsorted : (c.names.mergeSort (scale.asClose name)).Pairwise fun a b =>
      scale.admits name least b = true → scale.admits name least a = true :=
    (List.pairwise_mergeSort h.trans h.total _).imp fun {a b} => h.admits_of_asClose least a b
  unfold suggestBy bestMatches
  rw [if_neg hname, ranked_eq h, ← filter_mergeSort h.trans h.total, ← take_filter hsorted]
  simp only
  rw [← List.map_take, List.filter_map, List.map_map]
  exact List.map_id _

/-- The suggestions are the best matches. So none comes twice, all of them are known, and
no name that is left out is closer than one that is not. -/
structure Best (scale : Scale σ) (name : String) (names : List String) (limit : ℕ) (least : ℤ)
    (suggestions : List String) : Prop where
  eq : suggestions = bestMatches scale name names limit least
  nodup : suggestions.Nodup
  known : ∀ other ∈ suggestions, other ∈ names
  closest : ∀ other ∈ suggestions, ∀ omitted ∈ names, omitted ∉ suggestions →
    scale.asClose name other omitted

theorem mem_mergeSort_filter {names : List String} {other : String} :
    other ∈ (names.filter (scale.admits name least)).mergeSort (scale.asClose name) ↔
      other ∈ names ∧ scale.admits name least other := by
  rw [List.mem_mergeSort, List.mem_filter]

theorem suggestBy_best (hname : name ≠ "") (h : scale.Ordered name) (hnodup : c.names.Nodup)
    (limit : ℕ) (least : ℤ) :
    Best scale name c.names limit least (c.suggestBy scale name limit least) := by
  rw [suggestBy_eq hname h]
  refine ⟨rfl, ?_, ?_, ?_⟩
  · exact (List.nodup_mergeSort.mpr (hnodup.filter _)).sublist (List.take_sublist _ _)
  · intro other hother
    exact (mem_mergeSort_filter.mp (List.mem_of_mem_take hother)).1
  · intro other hother omitted homitted hnot
    have hadmits := (mem_mergeSort_filter.mp (List.mem_of_mem_take hother)).2
    by_cases hclose : scale.admits name least omitted
    · -- The name was close enough, so it was cut off.
      have hsorted := List.pairwise_mergeSort h.trans h.total
        (c.names.filter (scale.admits name least))
      rw [← List.take_append_drop limit ((c.names.filter _).mergeSort _),
        List.pairwise_append] at hsorted
      refine hsorted.2.2 other hother omitted ?_
      have hin := mem_mergeSort_filter.mpr ⟨homitted, hclose⟩
      rw [← List.take_append_drop limit ((c.names.filter _).mergeSort _), List.mem_append] at hin
      exact hin.resolve_left hnot
    · rcases Bool.or_eq_true_iff.mp (h.total other omitted) with hcloser | hcloser
      · exact hcloser
      · exact absurd (h.admits_of_asClose least omitted other hcloser hadmits) hclose

/-- A known name that only the name itself is as close to comes first. -/
theorem head?_suggestBy (hname : name ≠ "") (h : scale.Ordered name) (hknown : name ∈ c.names)
    (hlimit : 1 ≤ limit) (hleast : least ≤ 100) (hdiscerns : scale.Discerns name c.names) :
    (c.suggestBy scale name limit least).head? = some name := by
  rw [suggestBy_eq hname h, bestMatches, List.head?_take, if_neg (by omega)]
  have hsorted := List.pairwise_mergeSort h.trans h.total
    (c.names.filter (scale.admits name least))
  have hin := mem_mergeSort_filter.mpr ⟨hknown, hdiscerns.admits_self least hleast⟩
  cases hlist : (c.names.filter (scale.admits name least)).mergeSort (scale.asClose name) with
  | nil =>
      rw [hlist] at hin
      cases hin
  | cons first rest =>
      rw [hlist] at hin hsorted
      have hfirst : first ∈ c.names := (mem_mergeSort_filter.mp (hlist ▸ List.mem_cons_self)).1
      rcases List.mem_cons.mp hin with heq | hrest
      · rw [heq]
        rfl
      · have hcloser := (List.pairwise_cons.mp hsorted).1 name hrest
        rw [hdiscerns.eq_of_asClose first hfirst hcloser]
        rfl

/-! ## What is registered -/

theorem not_mem_names_of_find? {key : String} (h : c.find? key = none) : key ∉ c.names := by
  rw [find?, Keyed.get?, Option.map_eq_none_iff, List.find?_eq_none] at h
  intro hmem
  obtain ⟨entry, hentry, hkey⟩ := List.mem_map.mp hmem
  exact h entry hentry (decide_eq_true hkey)

theorem nodup_names_put {key : String} {t : NativeType} {d : Catalog} (h : c.names.Nodup)
    (hput : c.put key t = .ok d) : d.names.Nodup := by
  unfold put at hput
  split at hput
  · cases hput
  · cases hput
    rw [names, Keyed.put_keys]
    split
    · exact h
    · rename_i hnew
      simpa using List.Nodup.concat hnew h

/-- A step keeps names apart, also one that writes to the table directly. -/
theorem nodup_names_outcome (h : c.names.Nodup) (step : Step) :
    (step.outcome c).2.names.Nodup := by
  cases step with
  | register t =>
      cases hregister : c.register t with
      | error e =>
          rw [Step.outcome_register_error hregister]
          exact h
      | ok d =>
          rw [Step.outcome_register_ok hregister]
          obtain ⟨-, ⟨known, -, -, rfl⟩ | ⟨hnew, rfl⟩⟩ := register_eq_ok hregister
          · exact h
          · simpa [names] using List.Nodup.concat (not_mem_names_of_find? hnew) h
  | put key t =>
      cases hput : c.put key t with
      | error e =>
          rw [Step.outcome_put_error hput]
          exact h
      | ok d =>
          have houtcome : (Step.put key t).outcome c = (.ok .done, d) := run_change_ok hput
          rw [houtcome]
          exact nodup_names_put h hput
  | resolve name =>
      rw [(Step.unchanged_of_reading c name 0 0).1]
      exact h
  | suggest name limit least => exact h
  | freeze => exact h

theorem nodup_names_afterSteps (h : c.names.Nodup) (steps : List Step) :
    (c.afterSteps steps).names.Nodup := by
  induction steps generalizing c with
  | nil => exact h
  | cons step rest ih => exact ih (nodup_names_outcome h step)

/-- **Suggestions are the best matches.** For the names that are registered after any steps,
and a name that is not empty:

* by their scores in double-precision numbers the suggestions are the best matches;
* if the name is registered, at least one suggestion is asked for and no more than a score
  of one hundred, it comes first, unless it has more than `2 ^ 53` characters together with
  another, for then rounding may not tell the two apart;
* with an exact ratio in place of the rounded scores the suggestions are the best matches
  as well, and the name itself comes first whatever the lengths. -/
theorem suggestions_are_best (steps : List Step) {name : String} (hname : name ≠ "")
    (limit : ℕ) (least : ℤ) :
    Best doubles name (afterSteps {} steps).names limit least
      ((afterSteps {} steps).suggest name limit least) ∧
    ((∀ other ∈ (afterSteps {} steps).names, name.length + other.length ≤ 2 ^ 53) →
      name ∈ (afterSteps {} steps).names → 1 ≤ limit → least ≤ 100 →
      ((afterSteps {} steps).suggest name limit least).head? = some name) ∧
    ∀ ratio : String → String → ℚ, (∀ a b, a ≠ "" → IsRatio a b (ratio a b)) →
      Best (.exact ratio) name (afterSteps {} steps).names limit least
        ((afterSteps {} steps).suggestBy (.exact ratio) name limit least) ∧
      (name ∈ (afterSteps {} steps).names → 1 ≤ limit → least ≤ 100 →
        ((afterSteps {} steps).suggestBy (.exact ratio) name limit least).head? = some name) := by
  have hnodup : (afterSteps {} steps).names.Nodup :=
    nodup_names_afterSteps (c := {}) List.nodup_nil steps
  refine ⟨suggestBy_best hname (Scale.doubles_ordered hname) hnodup limit least, ?_, ?_⟩
  · intro hlengths hknown hlimit hleast
    exact head?_suggestBy hname (Scale.doubles_ordered hname) hknown hlimit hleast
      (Scale.doubles_discerns hname hlengths)
  · intro ratio hratio
    refine ⟨suggestBy_best hname (Scale.exact_ordered ratio name) hnodup limit least, ?_⟩
    intro hknown hlimit hleast
    exact head?_suggestBy hname (Scale.exact_ordered ratio name) hknown hlimit hleast
      (Scale.exact_discerns hname hratio _)

/-- Two types are registered, one is written to the table, and no more can be added. -/
def fewSteps : List Step :=
  [.register (.plain "int" (.str "Int")), .register (.plain "double" (.str "Float64")),
    .put "floats" (.plain "float" (.str "Float32")), .freeze,
    .register (.plain "bool" (.str "Bool"))]

theorem double_comes_first :
    "double" ≠ "" ∧ (afterSteps {} fewSteps).names = ["int", "double", "floats"] ∧
    (∀ other ∈ ["int", "double", "floats"], "double".length + other.length ≤ 2 ^ 53) ∧
    (∀ a b, a ≠ "" → IsRatio a b (ratio a b)) ∧
    Best doubles "double" ["int", "double", "floats"] 2 0
      ((afterSteps {} fewSteps).suggest "double" 2 0) ∧
    ((afterSteps {} fewSteps).suggest "double" 2 0).head? = some "double" ∧
    Best (.exact ratio) "double" ["int", "double", "floats"] 2 0
      ((afterSteps {} fewSteps).suggestBy (.exact ratio) "double" 2 0) ∧
    ((afterSteps {} fewSteps).suggestBy (.exact ratio) "double" 2 0).head? = some "double" := by
  have hname : "double" ≠ "" := by decide
  have hnames : (afterSteps {} fewSteps).names = ["int", "double", "floats"] := by rfl
  have hlengths : ∀ other ∈ ["int", "double", "floats"],
      "double".length + other.length ≤ 2 ^ 53 := by decide
  have hratio : ∀ a b, a ≠ "" → IsRatio a b (ratio a b) := fun a b _ => ratio_isRatio a b
  obtain ⟨hbest, hfirst, hexact⟩ := suggestions_are_best fewSteps hname 2 0
  obtain ⟨hbest', hfirst'⟩ := hexact ratio hratio
  rw [hnames] at hbest hfirst hbest' hfirst'
  have hknown : "double" ∈ ["int", "double", "floats"] := by decide
  exact ⟨hname, hnames, hlengths, hratio, hbest, hfirst hlengths hknown (by decide) (by decide),
    hbest', hfirst' hknown (by decide) (by decide)⟩

end Catalog

end InputBindings
