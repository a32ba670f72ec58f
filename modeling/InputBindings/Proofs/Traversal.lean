import Mathlib.Data.List.Forall2

/-!
# Traversals that stop at the first failure

A traversal of a list succeeds exactly with the results of its elements in
their order, and fails exactly with the error of the first element that fails.
-/

namespace InputBindings.Traversal

variable {α β γ ε : Type} {f : α → Except ε β} {x : α} {xs : List α}

theorem exists_mem_of_forall₂ {R : α → β → Prop} {ys : List β} (h : List.Forall₂ R xs ys)
    (hx : x ∈ xs) : ∃ y ∈ ys, R x y := by
  obtain ⟨i, hi, rfl⟩ := List.mem_iff_getElem.mp hx
  have hlt : i < ys.length := h.length_eq ▸ hi
  exact ⟨ys[i], List.getElem_mem hlt, h.get hi hlt⟩

theorem map_eq_error_iff {g : β → γ} {r : Except ε β} {e : ε} :
    r.map g = .error e ↔ r = .error e := by
  cases r <;> simp [Except.map]

theorem exists_map_eq_ok_iff {g : β → γ} {r : Except ε β} :
    (∃ z, r.map g = .ok z) ↔ ∃ y, r = .ok y := by
  cases r <;> simp [Except.map]

theorem exists_eq_error_iff {r : Except ε β} : (∃ e, r = .error e) ↔ ¬∃ y, r = .ok y := by
  cases r <;> simp

theorem bind_of_ok {g : β → Except ε γ} {r : Except ε β} {y : β} (h : r = .ok y) :
    r >>= g = g y := by
  rw [h]
  rfl

theorem bind_of_error {g : β → Except ε γ} {r : Except ε β} {e : ε} (h : r = .error e) :
    r >>= g = .error e := by
  rw [h]
  rfl

theorem bind_eq_ok_iff {g : β → Except ε γ} {r : Except ε β} {z : γ} :
    r >>= g = .ok z ↔ ∃ y, r = .ok y ∧ g y = .ok z := by
  constructor
  · intro h
    cases r with
    | error e => cases h
    | ok y => exact ⟨y, rfl, h⟩
  · rintro ⟨y, rfl, h⟩
    exact h

theorem bind_eq_error_iff {g : β → Except ε γ} {r : Except ε β} {e : ε} :
    r >>= g = .error e ↔ r = .error e ∨ ∃ y, r = .ok y ∧ g y = .error e := by
  constructor
  · intro h
    cases r with
    | error e' => exact Or.inl (congrArg Except.error (Except.error.inj h))
    | ok y => exact Or.inr ⟨y, rfl, h⟩
  · rintro (rfl | ⟨y, rfl, h⟩)
    · rfl
    · exact h

theorem mapM_cons_of_ok {y : β} (hx : f x = .ok y) :
    (x :: xs).mapM f = (xs.mapM f).map (y :: ·) := by
  rw [List.mapM_cons, hx]
  cases xs.mapM f <;> rfl

theorem mapM_cons_of_error {e : ε} (hx : f x = .error e) : (x :: xs).mapM f = .error e := by
  rw [List.mapM_cons, hx]
  rfl

theorem mapM_eq_ok_iff {ys : List β} :
    xs.mapM f = .ok ys ↔ List.Forall₂ (fun x y => f x = .ok y) xs ys := by
  induction xs generalizing ys with
  | nil =>
      rw [List.mapM_nil, List.forall₂_nil_left_iff]
      exact ⟨fun h => (Except.ok.inj h).symm, fun h => h ▸ rfl⟩
  | cons x xs ih =>
      rw [List.forall₂_cons_left_iff]
      constructor
      · intro h
        cases hx : f x with
        | error e => rw [mapM_cons_of_error hx] at h; cases h
        | ok y =>
            rw [mapM_cons_of_ok hx] at h
            cases hxs : xs.mapM f with
            | error e => rw [hxs] at h; cases h
            | ok rest =>
                rw [hxs] at h
                exact ⟨y, rest, rfl, ih.mp hxs, (Except.ok.inj h).symm⟩
      · rintro ⟨y, rest, hx, hxs, rfl⟩
        rw [mapM_cons_of_ok hx, ih.mpr hxs]
        rfl

/-- The elements before the first failure decide nothing but that it is the
first; those behind it decide nothing at all. -/
theorem mapM_append_of_ok {before : List α} (xs : List α)
    (hbefore : ∀ b ∈ before, ∃ y, f b = .ok y) :
    ∃ ys, (before ++ xs).mapM f = (xs.mapM f).map (ys ++ ·) := by
  induction before with
  | nil =>
      refine ⟨[], ?_⟩
      rw [List.nil_append]
      cases xs.mapM f <;> rfl
  | cons b before ih =>
      obtain ⟨y, hy⟩ := hbefore b List.mem_cons_self
      obtain ⟨ys, hys⟩ := ih fun c hc => hbefore c (List.mem_cons_of_mem _ hc)
      refine ⟨y :: ys, ?_⟩
      rw [List.cons_append, mapM_cons_of_ok hy, hys]
      cases xs.mapM f <;> rfl

theorem mapM_eq_error_iff {e : ε} :
    xs.mapM f = .error e ↔ ∃ before x after, xs = before ++ x :: after ∧
      (∀ b ∈ before, ∃ y, f b = .ok y) ∧ f x = .error e := by
  constructor
  · intro h
    induction xs with
    | nil => cases h
    | cons x xs ih =>
        cases hx : f x with
        | error e' =>
            rw [mapM_cons_of_error hx] at h
            cases h
            exact ⟨[], x, xs, rfl, fun _ hb => absurd hb List.not_mem_nil, hx⟩
        | ok y =>
            rw [mapM_cons_of_ok hx] at h
            obtain ⟨before, z, after, rfl, hbefore, hz⟩ := ih (map_eq_error_iff.mp h)
            refine ⟨x :: before, z, after, rfl, ?_, hz⟩
            intro b hb
            rcases List.mem_cons.mp hb with rfl | hb
            · exact ⟨y, hx⟩
            · exact hbefore b hb
  · rintro ⟨before, z, after, rfl, hbefore, hz⟩
    obtain ⟨ys, hys⟩ := mapM_append_of_ok (z :: after) hbefore
    rw [hys, mapM_cons_of_error hz]
    rfl

theorem exists_mapM_eq_ok_iff :
    (∃ ys, xs.mapM f = .ok ys) ↔ ∀ x ∈ xs, ∃ y, f x = .ok y := by
  constructor
  · rintro ⟨ys, h⟩ x hx
    obtain ⟨y, -, hy⟩ := exists_mem_of_forall₂ (mapM_eq_ok_iff.mp h) hx
    exact ⟨y, hy⟩
  · intro h
    obtain ⟨ys, hys⟩ := mapM_append_of_ok [] h
    rw [List.append_nil, List.mapM_nil] at hys
    exact ⟨_, hys⟩

/-- Where only one error can occur, a failure anywhere is enough. -/
theorem mapM_eq_error_of_mem {e : ε} (hx : x ∈ xs) (hfails : f x = .error e)
    (honly : ∀ y ∈ xs, ∀ e', f y = .error e' → e' = e) : xs.mapM f = .error e := by
  have hnone : ¬∃ ys, xs.mapM f = .ok ys := by
    intro hok
    obtain ⟨y, hy⟩ := exists_mapM_eq_ok_iff.mp hok x hx
    cases hfails.symm.trans hy
  obtain ⟨e', he'⟩ := exists_eq_error_iff.mpr hnone
  obtain ⟨before, y, after, rfl, -, hy⟩ := mapM_eq_error_iff.mp he'
  rw [he', honly y (List.mem_append_right before List.mem_cons_self) e' hy]

/-- Pairing the results with labels afterwards is pairing each one at once. -/
theorem mapM_zip (f : α → Except ε β) (label : α → γ) (xs : List α) :
    (xs.mapM f).map (fun ys => (xs.map label).zip ys) =
      xs.mapM fun x => (f x).map fun y => (label x, y) := by
  induction xs with
  | nil => rfl
  | cons x xs ih =>
      rw [List.mapM_cons, List.mapM_cons, ← ih]
      cases f x with
      | error e => rfl
      | ok y => cases xs.mapM f <;> rfl

end InputBindings.Traversal
