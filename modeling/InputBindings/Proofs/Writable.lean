import InputBindings.Value.Text

/-!
# Values that have a text

The text of a value can fail in one place only, at an integer that has more digits than are
written. So a value has a text, plain and literal, if all integers in it are short, and what such a
value holds has one as well, also where the value holds itself and is opened.

Main statements: `exists_literalIn`, `Writable.opened`.
-/

namespace InputBindings.Value

theorem one_lt_unwritable : 1 < unwritable := by
  have hpow : ∀ n, n ≠ 0 → 1 < Nat.pow 10 n := fun _ hn => Nat.one_lt_pow hn (by decide)
  unfold unwritable
  exact hpow Number.maxDigits (by decide)

mutual

/-- All integers in the value can be written. -/
def Writable : Value → Prop
  | .int n => n.natAbs < unwritable
  | .list items => WritableItems items
  | .tuple items => WritableItems items
  | .set items => WritableItems items
  | .mapping entries => WritableEntries entries
  | .knot _ held => Writable held
  | _ => True

def WritableItems : List Value → Prop
  | [] => True
  | v :: vs => Writable v ∧ WritableItems vs

def WritableEntries : List (Value × Value) → Prop
  | [] => True
  | (k, v) :: rest => Writable k ∧ Writable v ∧ WritableEntries rest

end

/-! ## Texts -/

mutual

theorem exists_literalIn : ∀ (around : List (Nat × String)) (v : Value), v.Writable →
    ∃ s, literalIn around v = some s
  | _, .null, _ => ⟨_, by rw [literalIn]⟩
  | _, .bool _, _ => ⟨_, by rw [literalIn]⟩
  | _, .int n, h => by
      have hshort : n.natAbs < unwritable := h
      exact ⟨_, by rw [literalIn, digits, if_pos hshort]⟩
  | _, .float _, _ => ⟨_, by rw [literalIn]⟩
  | _, .str _, _ => ⟨_, by rw [literalIn]⟩
  | _, .bytes _, _ => ⟨_, by rw [literalIn]⟩
  | _, .date _, _ => ⟨_, by rw [literalIn]⟩
  | _, .moment _, _ => ⟨_, by rw [literalIn]⟩
  | around, .list items, h => by
      obtain ⟨parts, hparts⟩ := exists_literalsIn around items h
      exact ⟨_, by rw [literalIn, hparts]; rfl⟩
  | around, .tuple items, h => by
      obtain ⟨parts, hparts⟩ := exists_literalsIn around items h
      exact ⟨_, by rw [literalIn, hparts]; rfl⟩
  | around, .set items, h => by
      obtain ⟨parts, hparts⟩ := exists_literalsIn around items h
      exact ⟨_, by rw [literalIn, hparts]; rfl⟩
  | around, .mapping entries, h => by
      obtain ⟨parts, hparts⟩ := exists_entryLiteralsIn around entries h
      exact ⟨_, by rw [literalIn, hparts]; rfl⟩
  | around, .knot label held, h => by
      rw [literalIn]
      split
      · exact ⟨_, rfl⟩
      · exact exists_literalIn _ held h
  | _, .back _, _ => ⟨_, by rw [literalIn]⟩

theorem exists_literalsIn : ∀ (around : List (Nat × String)) (items : List Value),
    WritableItems items → ∃ parts, literalsIn around items = some parts
  | _, [], _ => ⟨_, by rw [literalsIn]⟩
  | around, v :: vs, ⟨hv, hvs⟩ => by
      obtain ⟨part, hpart⟩ := exists_literalIn around v hv
      obtain ⟨parts, hparts⟩ := exists_literalsIn around vs hvs
      exact ⟨_, by rw [literalsIn, hpart, hparts]; rfl⟩

theorem exists_entryLiteralsIn : ∀ (around : List (Nat × String)) (entries : List (Value × Value)),
    WritableEntries entries → ∃ parts, entryLiteralsIn around entries = some parts
  | _, [], _ => ⟨_, by rw [entryLiteralsIn]⟩
  | around, (k, v) :: rest, ⟨hk, hv, hrest⟩ => by
      obtain ⟨key, hkey⟩ := exists_literalIn around k hk
      obtain ⟨part, hpart⟩ := exists_literalIn around v hv
      obtain ⟨parts, hparts⟩ := exists_entryLiteralsIn around rest hrest
      exact ⟨_, by rw [entryLiteralsIn, hkey, hpart, hparts]; rfl⟩

end

variable {v whole : Value} {label : Nat}

theorem Writable.exists_literal (h : v.Writable) : ∃ s, v.literal = some s :=
  exists_literalIn [] v h

/-- The plain form fails exactly where the literal form does. -/
theorem text_eq_none_iff : v.text = none ↔ v.literal = none := by
  unfold text
  split
  · exact ⟨nofun, nofun⟩
  · exact ⟨nofun, nofun⟩
  · exact ⟨nofun, nofun⟩
  · exact Iff.rfl

theorem Writable.literal_ne_none (h : v.Writable) : v.literal ≠ none := by
  obtain ⟨s, hs⟩ := h.exists_literal
  rw [hs]
  exact nofun

theorem Writable.text_ne_none (h : v.Writable) : v.text ≠ none :=
  mt text_eq_none_iff.mp h.literal_ne_none

theorem Writable.exists_text (h : v.Writable) : ∃ s, v.text = some s := by
  exact Option.ne_none_iff_exists'.mp h.text_ne_none

/-- What counts as nothing can be written. -/
theorem writable_of_not_given (h : v.isGiven = false) : v.Writable := by
  cases v with
  | int n =>
      have hzero : n = 0 := by simpa [isGiven] using h
      subst hzero
      exact Nat.lt_trans Nat.zero_lt_one one_lt_unwritable
  | list items =>
      have hnil : items = [] := by simpa [isGiven] using h
      subst hnil
      trivial
  | tuple items =>
      have hnil : items = [] := by simpa [isGiven] using h
      subst hnil
      trivial
  | set items =>
      have hnil : items = [] := by simpa [isGiven] using h
      subst hnil
      trivial
  | mapping entries =>
      have hnil : entries = [] := by simpa [isGiven] using h
      subst hnil
      trivial
  | knot label held => cases h
  | _ => trivial

/-! ## Values that hold themselves -/

mutual

theorem writable_tie (hwhole : whole.Writable) : ∀ v : Value, v.Writable →
    (tie label whole v).Writable
  | .null, h => h
  | .bool _, h => h
  | .int _, h => h
  | .float _, h => h
  | .str _, h => h
  | .bytes _, h => h
  | .date _, h => h
  | .moment _, h => h
  | .list items, h => writable_tieAll hwhole items h
  | .tuple items, h => writable_tieAll hwhole items h
  | .set _, h => h
  | .mapping entries, h => writable_tieEntries hwhole entries h
  | .knot l held, h => by
      rw [tie]
      split
      · exact h
      · exact writable_tie hwhole held h
  | .back l, h => by
      rw [tie]
      split
      · exact hwhole
      · exact h

theorem writable_tieAll (hwhole : whole.Writable) : ∀ items : List Value, WritableItems items →
    WritableItems (tieAll label whole items)
  | [], _ => trivial
  | v :: vs, ⟨hv, hvs⟩ => ⟨writable_tie hwhole v hv, writable_tieAll hwhole vs hvs⟩

theorem writable_tieEntries (hwhole : whole.Writable) : ∀ entries : List (Value × Value),
    WritableEntries entries → WritableEntries (tieEntries label whole entries)
  | [], _ => trivial
  | (_, v) :: rest, ⟨hk, hv, hrest⟩ =>
    ⟨hk, writable_tie hwhole v hv, writable_tieEntries hwhole rest hrest⟩

end

theorem Writable.opened (h : v.Writable) : v.opened.Writable := by
  cases v with
  | knot label held =>
      have hwhole : (Value.knot label held).Writable := h
      exact writable_tie hwhole held h
  | _ => exact h

theorem Writable.entries {fields : List (Value × Value)} (h : v.Writable)
    (hv : v.opened = .mapping fields) : WritableEntries fields := by
  have hopened := h.opened
  rw [hv] at hopened
  exact hopened

theorem Writable.items {items : List Value} (h : v.Writable) (hv : v.opened = .list items) :
    WritableItems items := by
  have hopened := h.opened
  rw [hv] at hopened
  exact hopened

theorem writable_of_mem_items {items : List Value} (h : WritableItems items) (hv : v ∈ items) :
    v.Writable := by
  induction items with
  | nil => cases hv
  | cons w ws ih =>
      rcases List.mem_cons.mp hv with rfl | hv
      · exact h.1
      · exact ih h.2 hv

theorem writable_of_mem_entries {entries : List (Value × Value)} {entry : Value × Value}
    (h : WritableEntries entries) (hentry : entry ∈ entries) :
    entry.1.Writable ∧ entry.2.Writable := by
  induction entries with
  | nil => cases hentry
  | cons e es ih =>
      rcases List.mem_cons.mp hentry with rfl | hentry
      · exact ⟨h.1, h.2.1⟩
      · exact ih h.2.2 hentry

end InputBindings.Value
