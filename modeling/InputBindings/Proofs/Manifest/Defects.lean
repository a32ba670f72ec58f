import InputBindings.Proofs.Manifest.Checks
import InputBindings.Proofs.Manifest.Names

/-!
# The first defect of a manifest

A manifest is read in order: its programs one after the other, and in each program its
entries one after the other. The names of a program's parameters are compared last, when
all its entries have been accepted. So a manifest is accepted exactly if all of it is in
order, and then nothing is dropped and nothing changes its place. If it is not accepted, the
first program that is not in order is reported, by what comes first in it.

Main statement: `programs_of_textKeyed`.
-/

namespace InputBindings

open Traversal

/-! ## Repeated names -/

/-- The name that is reported is the first one that stands behind itself. -/
theorem repeatedName_eq_some_iff {seen names : List String} {again : String} :
    repeatedName seen names = some again ↔ ∃ before after, names = before ++ again :: after ∧
      before.Nodup ∧ (∀ name ∈ before, name ∉ seen) ∧ (again ∈ before ∨ again ∈ seen) := by
  induction names generalizing seen with
  | nil => simp [repeatedName]
  | cons name rest ih =>
      rw [repeatedName]
      by_cases hseen : name ∈ seen
      · rw [if_pos hseen]
        constructor
        · intro h
          cases h
          exact ⟨[], rest, rfl, List.nodup_nil, List.forall_mem_nil _, Or.inr hseen⟩
        · rintro ⟨before, after, hsplit, -, hapart, -⟩
          cases before with
          | nil =>
              cases hsplit
              rfl
          | cons b before =>
              cases hsplit
              exact absurd hseen (hapart name List.mem_cons_self)
      · rw [if_neg hseen, ih]
        constructor
        · rintro ⟨before, after, rfl, hnodup, hapart, hagain⟩
          have hfresh : name ∉ before := fun hmem => hapart name hmem List.mem_cons_self
          refine ⟨name :: before, after, rfl, hnodup.cons hfresh, ?_, ?_⟩
          · refine List.forall_mem_cons.mpr ⟨hseen, fun other hother hmem => ?_⟩
            exact hapart other hother (List.mem_cons_of_mem name hmem)
          · simp only [List.mem_cons] at hagain ⊢
            tauto
        · rintro ⟨before, after, hsplit, hnodup, hapart, hagain⟩
          cases before with
          | nil =>
              cases hsplit
              rcases hagain with hmem | hmem
              · exact absurd hmem List.not_mem_nil
              · exact absurd hmem hseen
          | cons b before =>
              cases hsplit
              obtain ⟨hfresh, hnodup⟩ := List.nodup_cons.mp hnodup
              obtain ⟨-, hapart⟩ := List.forall_mem_cons.mp hapart
              refine ⟨before, after, rfl, hnodup, ?_, ?_⟩
              · intro other hother hmem
                rcases List.mem_cons.mp hmem with rfl | hmem
                · exact hfresh hother
                · exact hapart other hother hmem
              · simp only [List.mem_cons] at hagain ⊢
                tauto

/-- The name occurs again, and no name before that. -/
def FirstAgain (names : List String) (again : String) : Prop :=
  ∃ before after, names = before ++ again :: after ∧ before.Nodup ∧ again ∈ before

theorem Program.ofParams_eq_error_iff {name : String} {params : List Parameter} {e : Error} :
    Program.ofParams name params = .error e ↔
      ∃ again, FirstAgain (params.map (·.name)) again ∧ e = .duplicateParameter again name := by
  have hsome : ∀ again, repeatedName [] (params.map (·.name)) = some again ↔
      FirstAgain (params.map (·.name)) again := by
    intro again
    simp [repeatedName_eq_some_iff, FirstAgain]
  simp only [← hsome]
  unfold Program.ofParams
  cases repeatedName [] (params.map (·.name)) with
  | none => exact ⟨nofun, nofun⟩
  | some again => simp [throw, throwThe, MonadExceptOf.throw, eq_comm]

namespace Manifest

variable {catalog : Catalog} {manifest v : Value} {program : String}
  {entries : List (Value × Value)} {items : List Value} {params : List Parameter} {p : Program}
  {ps : List Program} {e : Error}

/-! ## Programs -/

/-- The name that an entry gives. -/
def nameOf (v : Value) : String :=
  match v.opened with
  | .mapping fields => textAt fields "name"
  | _ => ""

theorem Entered.name_eq {q : Parameter} (h : Entered catalog v q) : q.name = nameOf v := by
  obtain ⟨fields, hv, t, -, rfl⟩ := h
  unfold nameOf
  rw [hv]
  rfl

/-- What is reported of a program: that it is no list, or its first entry that is rejected, or
else the first name that occurs again. -/
inductive ProgramRejected (catalog : Catalog) (program : String) (v : Value) : Error → Prop where
  | notList (h : ∀ items, v.opened ≠ .list items) :
      ProgramRejected catalog program v (.programNotList program)
  | entry {items : List Value} {e : Error} (h : v.opened = .list items)
      (hfirst : FirstFault items (Accepted catalog) (Rejected catalog) e) :
      ProgramRejected catalog program v e
  | again {items : List Value} {name : String} (h : v.opened = .list items)
      (hall : ∀ item ∈ items, Accepted catalog item)
      (hagain : FirstAgain (items.map nameOf) name) :
      ProgramRejected catalog program v (.duplicateParameter name program)

/-- The program has a parameter for each entry, in order. -/
def ProgramEntered (catalog : Catalog) (v : Value) (params : List Parameter) : Prop :=
  ∃ items, v.opened = .list items ∧ List.Forall₂ (Entered catalog) items params

/-- The entries of a program have text keys. -/
def TextProgram (v : Value) : Prop :=
  ∀ items, v.opened = .list items → ∀ item ∈ items, TextEntry item

theorem readProgram_of_list (h : v.opened = .list items) :
    readProgram catalog (.str program) v =
      items.mapM (readEntry catalog) >>= Program.ofParams program := by
  unfold readProgram
  rw [h]
  rfl

theorem readProgram_of_not_list (h : ∀ items, v.opened ≠ .list items) :
    readProgram catalog (.str program) v = .error (.programNotList program) := by
  unfold readProgram
  split
  · rename_i items hitems
    exact absurd hitems (h items)
  · rfl

/-- The manifest has these programs by their names. -/
def HasPrograms (manifest : Value) (entries : List (Value × Value)) : Prop :=
  ∃ fields v, manifest.opened = .mapping fields ∧ Value.lookup? fields "programs" = some v ∧
    v.opened = .mapping entries

theorem HasPrograms.unique {other : List (Value × Value)} (h : HasPrograms manifest entries)
    (hother : HasPrograms manifest other) : entries = other := by
  obtain ⟨fields, v, hmanifest, hlookup, hv⟩ := h
  obtain ⟨fields', v', hmanifest', hlookup', hv'⟩ := hother
  cases hmanifest.symm.trans hmanifest'
  cases hlookup.symm.trans hlookup'
  cases hv.symm.trans hv'
  rfl

theorem programEntries_of_hasPrograms (h : HasPrograms manifest entries) :
    programEntries manifest = .ok entries := by
  obtain ⟨fields, v, hmanifest, hlookup, hv⟩ := h
  unfold programEntries
  simp only [hmanifest, Value.lookup, hlookup, Option.getD_some, hv]
  rfl

theorem programEntries_of_not_hasPrograms (h : ∀ entries, ¬ HasPrograms manifest entries) :
    programEntries manifest = .error .noPrograms := by
  unfold programEntries
  split
  · rename_i fields hmanifest
    split
    · rename_i entries hprograms
      exfalso
      unfold Value.lookup at hprograms
      cases hlookup : Value.lookup? fields "programs" with
      | none =>
          rw [hlookup] at hprograms
          cases hprograms
      | some v =>
          rw [hlookup] at hprograms
          exact h entries ⟨fields, v, hmanifest, hlookup, hprograms⟩
    · rfl
  · rfl

theorem programs_of_hasPrograms (h : HasPrograms manifest entries) :
    programs catalog manifest = entries.mapM fun entry => readProgram catalog entry.1 entry.2 := by
  unfold programs
  rw [programEntries_of_hasPrograms h]
  rfl

theorem programs_of_not_hasPrograms (h : ∀ entries, ¬ HasPrograms manifest entries) :
    programs catalog manifest = .error .noPrograms := by
  unfold programs
  rw [programEntries_of_not_hasPrograms h]
  rfl

/-- The program has the name and the parameters of its entry in the manifest. -/
def Kept (catalog : Catalog) (entry : Value × Value) (p : Program) : Prop :=
  entry.1 = .str p.name ∧ ProgramEntered catalog entry.2 p.params

/-- What is reported of an entry of the manifest, by its name. -/
def Refused (catalog : Catalog) (entry : Value × Value) (e : Error) : Prop :=
  ∃ program, entry.1 = .str program ∧ ProgramRejected catalog program entry.2 e

theorem hasPrograms_ofPrograms_iff {other : List (Value × Value)} :
    HasPrograms (ofPrograms entries) other ↔ other = entries := by
  have hlookup : Value.lookup? [(Value.str "programs", Value.mapping entries)] "programs" =
      some (.mapping entries) := by
    simp [Value.lookup?, Value.same]
  constructor
  · rintro ⟨fields, v, hfields, hv, hentries⟩
    cases hfields
    cases hlookup.symm.trans hv
    cases hentries
    rfl
  · rintro rfl
    exact ⟨_, _, rfl, hlookup, rfl⟩

theorem textProgram_list : TextProgram (.list items) ↔ ∀ item ∈ items, TextEntry item := by
  simp [TextProgram, Value.opened]

theorem textEntry_mapping {fields : List (Value × Value)} :
    TextEntry (.mapping fields) ↔ TextKeys fields := by
  simp [TextEntry, Value.opened]

end Manifest

end InputBindings
