import InputBindings.Manifest
import InputBindings.Proofs.Traversal

/-!
# The checks of an entry

The fields of a parameter entry are checked in a fixed order, and the first check that
they do not pass is reported. Each step of reading an entry is one of the checks: it gives
what the entry says if the check is passed, and the report of the check if not. So reading
succeeds exactly if all checks are passed, with the parameter that the fields describe, and
fails exactly with the report of the first one that is not.

Main statements: `readEntry_eq_ok_iff`, `readEntry_eq_error_iff`.
-/

namespace InputBindings

/-! ## The first fault -/

namespace Traversal

variable {α β ε : Type} {passes : α → Prop} {reports : α → ε → Prop} {f : α → Except ε β}
  {x : α} {xs : List α} {e : ε}

/-- What is reported of the first element that does not pass. -/
def FirstFault (xs : List α) (passes : α → Prop) (reports : α → ε → Prop) (e : ε) : Prop :=
  ∃ before x after, xs = before ++ x :: after ∧ (∀ b ∈ before, passes b) ∧
    ¬ passes x ∧ reports x e

theorem not_firstFault_nil : ¬ FirstFault [] passes reports e := by
  rintro ⟨before, x, after, hsplit, -⟩
  simp at hsplit

theorem firstFault_cons_iff : FirstFault (x :: xs) passes reports e ↔
    (¬ passes x ∧ reports x e) ∨ (passes x ∧ FirstFault xs passes reports e) := by
  constructor
  · rintro ⟨before, y, after, hsplit, hbefore, hy, hreport⟩
    cases before with
    | nil =>
        cases hsplit
        exact Or.inl ⟨hy, hreport⟩
    | cons b before =>
        cases hsplit
        obtain ⟨hx, hbefore⟩ := List.forall_mem_cons.mp hbefore
        exact Or.inr ⟨hx, before, y, after, rfl, hbefore, hy, hreport⟩
  · rintro (⟨hx, hreport⟩ | ⟨hx, before, y, after, rfl, hbefore, hy, hreport⟩)
    · exact ⟨[], x, xs, rfl, List.forall_mem_nil _, hx, hreport⟩
    · exact ⟨x :: before, y, after, rfl, List.forall_mem_cons.mpr ⟨hx, hbefore⟩, hy, hreport⟩

theorem FirstFault.not_forall (h : FirstFault xs passes reports e) : ¬ ∀ x ∈ xs, passes x := by
  obtain ⟨before, x, after, rfl, -, hx, -⟩ := h
  intro hall
  exact hx (hall x (List.mem_append_right before List.mem_cons_self))

/-- What is refused only where it is not accepted succeeds where it is. -/
theorem exists_eq_ok_iff_accepted {accepted : Prop} {gives : β → Prop} {r : Except ε β}
    (hok : ∀ y, r = .ok y ↔ accepted ∧ gives y) (herror : ∀ e, r = .error e → ¬ accepted) :
    (∃ y, r = .ok y) ↔ accepted := by
  constructor
  · rintro ⟨y, hy⟩
    exact ((hok y).mp hy).1
  · intro haccepted
    by_contra hnone
    obtain ⟨e, he⟩ := exists_eq_error_iff.mpr hnone
    exact herror e he haccepted

end Traversal

open Traversal

namespace Value

variable {v : Value} {s : String}

/-- Only a text equals a text. -/
theorem same_str_iff : v.same (.str s) = true ↔ v = .str s := by
  cases v <;> simp [same]

theorem text?_eq_some_iff : v.text? = some s ↔ v = .str s := by
  cases v <;> simp [text?]

end Value

namespace Manifest

variable {catalog : Catalog} {fields : List (Value × Value)} {name : String} {v : Value}
  {p : Parameter} {e : Error}

/-- All keys of a mapping are text. -/
def TextKeys (fields : List (Value × Value)) : Prop := ∀ field ∈ fields, ∃ s, field.1 = .str s

/-! ## What the fields say -/

/-- The text under a key, which is empty if there is none. -/
def textAt (fields : List (Value × Value)) (key : String) : String :=
  ((Value.lookup? fields key).bind Value.text?).getD ""

/-- The truth value under a key, which is false if there is none. -/
def truthAt (fields : List (Value × Value)) (key : String) : Bool :=
  ((Value.lookup? fields key).bind Value.bool?).getD false

/-- The keys that are text. -/
def keyTexts (fields : List (Value × Value)) : List String :=
  fields.filterMap fun field => field.1.text?

/-- The keys that no entry has. -/
def strangeKeys (fields : List (Value × Value)) : List String :=
  (keyTexts fields).filter (· ∉ entryKeys)

theorem lookup_eq_str_iff {key s : String} :
    Value.lookup fields key = .str s ↔ Value.lookup? fields key = some (.str s) := by
  unfold Value.lookup
  cases Value.lookup? fields key with
  | none => exact ⟨nofun, nofun⟩
  | some v => exact (Option.some.injEq v (.str s)).symm ▸ Iff.rfl

theorem lookup_of_lookup? {key : String} (h : Value.lookup? fields key = some v) :
    Value.lookup fields key = v := by
  unfold Value.lookup
  rw [h]
  rfl

theorem textAt_of_lookup? {key s : String} (h : Value.lookup? fields key = some (.str s)) :
    textAt fields key = s := by
  unfold textAt
  rw [h]
  rfl

theorem truthAt_of_lookup? {key : String} {b : Bool}
    (h : Value.lookup? fields key = some (.bool b)) : truthAt fields key = b := by
  unfold truthAt
  rw [h]
  rfl

/-! ## The checks -/

/-- What is asked of the fields of an entry. -/
inductive Check where
  | name
  | keys
  | type
  | flag (key : String)
  | known

namespace Check

/-- The checks in their order. -/
def order : List Check := [.name, .keys, .type, .flag "required", .flag "model", .known]

/-- A name and a type are texts that are not empty. No other keys are given than those of an
entry. A flag is a truth value if it is given. The type is in the catalog unless it is a
model. -/
def Passes (catalog : Catalog) (fields : List (Value × Value)) : Check → Prop
  | .name => ∃ s, s ≠ "" ∧ Value.lookup? fields "name" = some (.str s)
  | .keys => ∀ field ∈ fields, ∃ key ∈ entryKeys, field.1 = .str key
  | .type => ∃ s, s ≠ "" ∧ Value.lookup? fields "type" = some (.str s)
  | .flag key => ∀ v, Value.lookup? fields key = some v → ∃ b, v = .bool b
  | .known => truthAt fields "model" = true ∨ ∃ t, catalog.find? (textAt fields "type") = some t

/-- An entry without a name is reported with what is given for one. -/
def nameless (given : Value) : Error :=
  match given.isGiven, given.text with
  | false, _ => .noName ""
  | true, some s => .noName s
  | true, none => .noText

/-- What is reported if a check is the first one that is not passed. -/
def report (catalog : Catalog) (fields : List (Value × Value)) : Check → Error
  | .name => nameless (Value.lookup fields "name")
  | .keys => .unknownKeys (textAt fields "name") ((strangeKeys fields).mergeSort (· ≤ ·))
  | .type => .noType (textAt fields "name")
  | .flag key => .flagNotTruth (textAt fields "name") key (Value.lookup fields key)
  | .known => .unknownType (textAt fields "type") (catalog.suggest (textAt fields "type"))

end Check

/-- A step of reading is a check: it gives the value if the check is passed and its report
if not. -/
structure Decides (catalog : Catalog) (fields : List (Value × Value)) (c : Check) {β : Type}
    (r : Except Error β) (value : β) : Prop where
  ok : c.Passes catalog fields → r = .ok value
  error : ¬ c.Passes catalog fields → r = .error (c.report catalog fields)

section Decides

variable {β γ : Type} {c : Check} {r : Except Error β} {value : β} {next : β → Except Error γ}
  {z : γ}

theorem Decides.bind_eq_ok_iff (h : Decides catalog fields c r value) :
    r >>= next = .ok z ↔ c.Passes catalog fields ∧ next value = .ok z := by
  by_cases hc : c.Passes catalog fields
  · rw [bind_of_ok (h.ok hc)]
    exact ⟨fun hnext => ⟨hc, hnext⟩, fun hnext => hnext.2⟩
  · rw [bind_of_error (h.error hc)]
    exact ⟨nofun, fun hnext => absurd hnext.1 hc⟩

theorem Decides.bind_eq_error_iff (h : Decides catalog fields c r value) :
    r >>= next = .error e ↔ (¬ c.Passes catalog fields ∧ e = c.report catalog fields) ∨
      (c.Passes catalog fields ∧ next value = .error e) := by
  by_cases hc : c.Passes catalog fields
  · rw [bind_of_ok (h.ok hc)]
    simp [hc]
  · rw [bind_of_error (h.error hc)]
    simp [hc, eq_comm]

end Decides

/-! ## The steps -/

theorem eq_empty_of_lookup {key : String}
    (h : ¬ ∃ s, s ≠ "" ∧ Value.lookup? fields key = some (.str s)) {s : String}
    (hs : Value.lookup fields key = .str s) : s = "" := by
  by_contra hne
  exact h ⟨s, hne, lookup_eq_str_iff.mp hs⟩

theorem decides_readName (catalog : Catalog) (fields : List (Value × Value)) :
    Decides catalog fields .name (readName fields) (textAt fields "name") := by
  constructor
  · rintro ⟨s, hs, hlookup⟩
    unfold readName
    rw [lookup_of_lookup? hlookup, textAt_of_lookup? hlookup]
    exact if_neg hs
  · intro h
    unfold readName
    show _ = Except.error (Check.nameless (Value.lookup fields "name"))
    split
    · rename_i s hs
      rw [hs, eq_empty_of_lookup h hs]
      rfl
    · rename_i hs
      unfold Check.nameless Value.written
      cases hgiven : (Value.lookup fields "name").isGiven with
      | false => rfl
      | true => cases (Value.lookup fields "name").text <;> rfl

theorem decides_readType (catalog : Catalog) (fields : List (Value × Value)) :
    Decides catalog fields .type (readType (textAt fields "name") fields)
      (textAt fields "type") := by
  constructor
  · rintro ⟨s, hs, hlookup⟩
    unfold readType
    rw [lookup_of_lookup? hlookup, textAt_of_lookup? hlookup]
    exact if_neg hs
  · intro h
    unfold readType
    split
    · rename_i s hs
      rw [eq_empty_of_lookup h hs]
      rfl
    · rfl

theorem decides_readFlag (catalog : Catalog) (fields : List (Value × Value)) (key : String) :
    Decides catalog fields (.flag key) (readFlag (textAt fields "name") key fields)
      (truthAt fields key) := by
  unfold readFlag
  constructor
  · intro h
    split
    · rename_i hlookup
      unfold truthAt
      rw [hlookup]
      rfl
    · rename_i b hlookup
      rw [truthAt_of_lookup? hlookup]
      rfl
    · rename_i v hv hlookup
      obtain ⟨b, hb⟩ := h v hlookup
      exact absurd hb (hv b)
  · intro h
    split
    · rename_i hlookup
      exact absurd (fun v hv => by rw [hlookup] at hv; cases hv) h
    · rename_i b hlookup
      refine absurd (fun v hv => ?_) h
      rw [hlookup] at hv
      exact ⟨b, (Option.some.inj hv).symm⟩
    · rename_i v hv hlookup
      have hreport : Check.report catalog fields (.flag key) =
          .flagNotTruth (textAt fields "name") key v := by
        rw [Check.report, lookup_of_lookup? hlookup]
      rw [hreport]
      rfl

theorem map_key_of_textKeys (h : TextKeys fields) :
    fields.map (·.1) = (keyTexts fields).map .str := by
  unfold keyTexts
  induction fields with
  | nil => rfl
  | cons field rest ih =>
      obtain ⟨⟨s, hs⟩, hrest⟩ := List.forall_mem_cons.mp h
      have htext : field.1.text? = some s := Value.text?_eq_some_iff.mpr hs
      simp only [List.map_cons, List.filterMap_cons, htext]
      rw [ih hrest, hs]

/-- Of text keys those are refused that are not among the names. -/
theorem otherKeys_of_textKeys (names : List String) (h : TextKeys fields) :
    Settings.otherKeys names fields = ((keyTexts fields).filter (· ∉ names)).map .str := by
  unfold Settings.otherKeys
  rw [map_key_of_textKeys h, List.filter_map]
  refine congrArg (List.map Value.str) (List.filter_congr fun s _ => ?_)
  simp [Value.same_str_iff, List.any_eq]

theorem textKeys_map_str (keys : List String) :
    Settings.textKeys (keys.map .str) = .ok (keys.mergeSort (· ≤ ·)) := by
  unfold Settings.textKeys
  refine bind_eq_ok_iff.mpr ⟨keys, mapM_eq_ok_iff.mpr ?_, rfl⟩
  rw [List.forall₂_map_left_iff, List.forall₂_same]
  exact fun _ _ => rfl

theorem otherKeys_eq_nil_iff {names : List String} : Settings.otherKeys names fields = [] ↔
    ∀ field ∈ fields, ∃ name ∈ names, field.1 = .str name := by
  simp [Settings.otherKeys, List.filter_eq_nil_iff, Value.same_str_iff]

theorem decides_checkKeys (catalog : Catalog) (h : TextKeys fields) :
    Decides catalog fields .keys (checkKeys (textAt fields "name") fields) () := by
  have hnil : Settings.otherKeys entryKeys fields = [] ↔ Check.keys.Passes catalog fields :=
    otherKeys_eq_nil_iff
  constructor
  · intro hpasses
    unfold checkKeys
    rw [hnil.mpr hpasses]
    rfl
  · intro hfails
    have hsome : (Settings.otherKeys entryKeys fields).isEmpty = false := by
      rw [List.isEmpty_eq_false_iff]
      exact mt hnil.mp hfails
    have hkeys : Settings.textKeys (Settings.otherKeys entryKeys fields) =
        .ok ((strangeKeys fields).mergeSort (· ≤ ·)) := by
      rw [otherKeys_of_textKeys entryKeys h, textKeys_map_str]
      rfl
    unfold checkKeys
    dsimp only
    rw [hsome, hkeys]
    rfl

/-! ## The parameter that is described -/

/-- A model has a type of its own, and any other parameter one of the catalog. -/
def HasType (catalog : Catalog) (fields : List (Value × Value)) (t : NativeType) : Prop :=
  if truthAt fields "model" = true then
    t = .model (textAt fields "type") (Value.lookup fields "julia_type")
  else catalog.find? (textAt fields "type") = some t

/-- What the fields say of a parameter of this type, with defaults for what they do not say. -/
def described (fields : List (Value × Value)) (t : NativeType) : Parameter where
  name := textAt fields "name"
  type := t
  required := truthAt fields "required"
  nativeSpelling := Value.lookup fields "cpp_type"
  target := Value.lookup fields "julia_type"
  description := (Value.lookup? fields "description").getD (.str "")

def Describes (catalog : Catalog) (fields : List (Value × Value)) (p : Parameter) : Prop :=
  ∃ t, HasType catalog fields t ∧ p = described fields t

theorem passes_known_iff : Check.known.Passes catalog fields ↔ ∃ t, HasType catalog fields t := by
  unfold Check.Passes HasType
  by_cases hmodel : truthAt fields "model" = true <;> simp [hmodel]

/-- The last step of reading, which looks the type up. -/
def describe (catalog : Catalog) (fields : List (Value × Value)) : Except Error Parameter := do
  let t ← if truthAt fields "model" then
      pure (.model (textAt fields "type") (Value.lookup fields "julia_type"))
    else catalog.resolve (textAt fields "type")
  return described fields t

theorem describe_of_hasType {t : NativeType} (h : HasType catalog fields t) :
    describe catalog fields = .ok (described fields t) := by
  unfold HasType at h
  unfold describe
  by_cases hmodel : truthAt fields "model" = true
  · rw [if_pos hmodel] at h
    simp only [hmodel, if_true, h]
    rfl
  · rw [if_neg hmodel] at h
    simp only [hmodel, Catalog.resolve, h]
    rfl

theorem describe_of_not_passes (h : ¬ Check.known.Passes catalog fields) :
    describe catalog fields = .error (Check.known.report catalog fields) := by
  obtain ⟨hmodel, hfind⟩ := not_or.mp h
  have hnone : catalog.find? (textAt fields "type") = none := by
    rw [Option.eq_none_iff_forall_ne_some]
    exact fun t ht => hfind ⟨t, ht⟩
  unfold describe
  simp only [hmodel, Catalog.resolve, hnone]
  rfl

theorem describe_eq_error_iff : describe catalog fields = .error e ↔
    ¬ Check.known.Passes catalog fields ∧ e = Check.known.report catalog fields := by
  by_cases hknown : Check.known.Passes catalog fields
  · obtain ⟨t, ht⟩ := passes_known_iff.mp hknown
    rw [describe_of_hasType ht]
    exact ⟨nofun, fun h => absurd hknown h.1⟩
  · rw [describe_of_not_passes hknown]
    simp [hknown, eq_comm]

/-! ## All checks -/

theorem readParameter_eq_error_iff (h : TextKeys fields) :
    readParameter catalog fields = .error e ↔ FirstFault Check.order (Check.Passes catalog fields)
      (fun c e => e = c.report catalog fields) e := by
  unfold readParameter
  rw [(decides_readName catalog fields).bind_eq_error_iff,
    (decides_checkKeys catalog h).bind_eq_error_iff,
    (decides_readType catalog fields).bind_eq_error_iff,
    (decides_readFlag catalog fields "required").bind_eq_error_iff,
    (decides_readFlag catalog fields "model").bind_eq_error_iff]
  simp only [Check.order, firstFault_cons_iff, not_firstFault_nil, and_false, or_false]
  rw [← describe_eq_error_iff]
  exact Iff.rfl

/-! ## Entries -/

/-- An entry is a mapping that passes all checks. -/
def Accepted (catalog : Catalog) (v : Value) : Prop :=
  ∃ fields, v.opened = .mapping fields ∧ ∀ c ∈ Check.order, c.Passes catalog fields

/-- What is reported of an entry: that it is no mapping, or the first check that it does not
pass. -/
inductive Rejected (catalog : Catalog) (v : Value) : Error → Prop where
  | notMapping (h : ∀ fields, v.opened ≠ .mapping fields) : Rejected catalog v (.entryNotMapping v)
  | check {fields : List (Value × Value)} {e : Error} (h : v.opened = .mapping fields)
      (hfirst : FirstFault Check.order (Check.Passes catalog fields)
        (fun c e => e = c.report catalog fields) e) : Rejected catalog v e

/-- The parameter is the one that the fields of the entry describe. -/
def Entered (catalog : Catalog) (v : Value) (p : Parameter) : Prop :=
  ∃ fields, v.opened = .mapping fields ∧ Describes catalog fields p

/-- The keys of an entry are text if it is a mapping. -/
def TextEntry (v : Value) : Prop := ∀ fields, v.opened = .mapping fields → TextKeys fields

theorem readEntry_of_mapping (h : v.opened = .mapping fields) :
    readEntry catalog v = readParameter catalog fields := by
  unfold readEntry
  rw [h]

theorem readEntry_of_not_mapping (h : ∀ fields, v.opened ≠ .mapping fields) :
    readEntry catalog v = .error (.entryNotMapping v) := by
  unfold readEntry
  split
  · rename_i fields hfields
    exact absurd hfields (h fields)
  · rfl

end Manifest

end InputBindings
