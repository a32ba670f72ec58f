import InputBindings.Catalog.Script
import InputBindings.Proofs.Action
import InputBindings.Proofs.Keyed
import Mathlib.Data.List.Forall2

/-!
# What becomes of a catalog

Until a catalog is frozen its table only grows at the end: a type is added under
its own name if the name is new, and otherwise it is compared with what is there.
So the table lists the types whose registration succeeded, of each name the first,
and nothing that is in it changes or moves. Writing to the table directly is the
only way around this, and freezing ends it, together with everything else that
changes the catalog.

Main statement: `table_after_steps`.
-/

namespace InputBindings.Catalog

variable {c d : Catalog} {t known : NativeType} {types : List NativeType} {e : Error}

/-! ## Registering -/

theorem register_of_frozen (hc : c.frozen = true) (t : NativeType) :
    c.register t = .error (.frozenCatalog t.name) := by
  rw [register, if_pos hc]
  rfl

theorem put_of_frozen (hc : c.frozen = true) (key : String) (t : NativeType) :
    c.put key t = .error .frozenTable := by
  rw [put, if_pos hc]
  rfl

theorem register_of_known (hc : c.frozen = false) (hknown : c.find? t.name = some known) :
    c.register t = if known.same t then .ok c else .error (.conflictingType t.name) := by
  rw [register, hc, if_neg Bool.false_ne_true]
  simp only [hknown]
  rfl

theorem register_of_new (hc : c.frozen = false) (hnew : c.find? t.name = none) :
    c.register t = .ok { c with entries := c.entries ++ [(t.name, t)] } := by
  rw [register, hc, if_neg Bool.false_ne_true]
  simp only [hnew]
  rfl

/-- Registering succeeds on an open catalog only. Then either the very type is
there, and nothing changes, or its name is new, and it goes to the end. -/
theorem register_eq_ok (h : c.register t = .ok d) : c.frozen = false ∧
    ((∃ known, c.find? t.name = some known ∧ known.same t = true ∧ d = c) ∨
      (c.find? t.name = none ∧ d = { c with entries := c.entries ++ [(t.name, t)] })) := by
  by_cases hfrozen : c.frozen = true
  · rw [register_of_frozen hfrozen] at h
    cases h
  · have hc : c.frozen = false := by simpa using hfrozen
    refine ⟨hc, ?_⟩
    cases hfind : c.find? t.name with
    | some known =>
        rw [register_of_known hc hfind] at h
        by_cases hsame : known.same t = true
        · rw [if_pos hsame] at h
          exact Or.inl ⟨known, rfl, hsame, (Except.ok.inj h).symm⟩
        · rw [if_neg hsame] at h
          cases h
    | none =>
        rw [register_of_new hc hfind] at h
        exact Or.inr ⟨rfl, (Except.ok.inj h).symm⟩

/-- The target is text, or there is none. -/
def HasTextTarget (t : NativeType) : Prop := t.target = .null ∨ ∃ spelling, t.target = .str spelling

/-- Types with such targets are the same if nothing about them differs. -/
theorem same_iff_eq (hknown : HasTextTarget known) (ht : HasTextTarget t) :
    known.same t = true ↔ known = t := by
  have htarget : Value.same known.target t.target = true ↔ known.target = t.target := by
    rcases hknown with hknown | ⟨spelling, hknown⟩
    · rcases ht with ht | ⟨_, ht⟩ <;> simp [hknown, ht, Value.same]
    · rcases ht with ht | ⟨_, ht⟩ <;> simp [hknown, ht, Value.same]
  obtain ⟨name, serializable, container, element, isRow, isColumn, target⟩ := known
  obtain ⟨name', serializable', container', element', isRow', isColumn', target'⟩ := t
  simp only [NativeType.same, Bool.and_eq_true, beq_iff_eq, htarget, NativeType.mk.injEq, and_assoc]

/-! ## Single steps -/

/-- A change that can be made puts the changed catalog in the place of the old one. -/
theorem run_change_ok {change : Catalog → Except Error Catalog} {answer : Answer}
    (h : change c = .ok d) :
    (ExceptT.run (do set (← change (← get)); pure answer : Action Answer)).run c =
      (.ok answer, d) := by
  rw [run_bind_of_ok (run_get c), run_bind_of_ok (x := d) (by rw [run_lift, h])]
  rfl

theorem run_change_error {change : Catalog → Except Error Catalog} {answer : Answer}
    (h : change c = .error e) :
    (ExceptT.run (do set (← change (← get)); pure answer : Action Answer)).run c =
      (.error e, c) := by
  rw [run_bind_of_ok (run_get c), run_bind_of_error (by rw [run_lift, h])]

namespace Step

theorem outcome_register_ok (h : c.register t = .ok d) :
    (register t).outcome c = (.ok .done, d) := run_change_ok h

theorem outcome_register_error (h : c.register t = .error e) :
    (register t).outcome c = (.error e, c) := run_change_error h

theorem outcome_put_error {key : String} (h : c.put key t = .error e) :
    (put key t).outcome c = (.error e, c) := run_change_error h

theorem outcome_resolve_ok {name : String} (h : c.find? name = some t) :
    (resolve name).outcome c = (.ok (.type t), c) := by
  have hresolve : c.resolve name = .ok t := by
    rw [Catalog.resolve, h]
    rfl
  rw [outcome, run, run_bind_of_ok (run_get c),
    run_bind_of_ok (x := t) (by rw [run_lift, hresolve])]
  rfl

theorem outcome_resolve_error {name : String} (h : c.find? name = none) :
    (resolve name).outcome c = (.error (.unknownType name (c.suggest name)), c) := by
  have hresolve : c.resolve name = .error (.unknownType name (c.suggest name)) := by
    rw [Catalog.resolve, h]
    rfl
  rw [outcome, run, run_bind_of_ok (run_get c),
    run_bind_of_error (by rw [run_lift, hresolve])]

theorem outcome_freeze (c : Catalog) : Step.freeze.outcome c = (.ok .done, c.freeze) := rfl

/-- A step that fails leaves the catalog as it is. -/
theorem unchanged_of_error (step : Step) (h : (step.outcome c).1 = .error e) :
    (step.outcome c).2 = c := by
  cases step with
  | register t =>
      cases hregister : c.register t with
      | ok d =>
          rw [outcome_register_ok hregister] at h
          cases h
      | error _ => rw [outcome_register_error hregister]
  | put key t =>
      cases hput : c.put key t with
      | ok d =>
          rw [outcome, run, run_change_ok hput] at h
          cases h
      | error _ => rw [outcome_put_error hput]
  | resolve name =>
      cases hfind : c.find? name with
      | some t => rw [outcome_resolve_ok hfind]
      | none => rw [outcome_resolve_error hfind]
  | suggest name limit least => rfl
  | freeze => cases h

/-- Looking a type up, or what resembles it, changes nothing. -/
theorem unchanged_of_reading (c : Catalog) (name : String) (limit : Nat) (least : Int) :
    ((resolve name).outcome c).2 = c ∧ ((suggest name limit least).outcome c).2 = c := by
  refine ⟨?_, rfl⟩
  cases hfind : c.find? name with
  | some t => rw [outcome_resolve_ok hfind]
  | none => rw [outcome_resolve_error hfind]

/-- A step on a frozen catalog has changed nothing, and if it was to change the
table it was refused. -/
structure Refused (c : Catalog) (step : Step) (outcome : Except Error Answer × Catalog) : Prop where
  unchanged : outcome.2 = c
  register : ∀ t, step = .register t → outcome.1 = .error (.frozenCatalog t.name)
  put : ∀ key t, step = .put key t → outcome.1 = .error .frozenTable

theorem refused_of_frozen (hc : c.frozen = true) (step : Step) :
    Refused c step (step.outcome c) := by
  cases step with
  | register t =>
      rw [outcome_register_error (register_of_frozen hc t)]
      refine ⟨rfl, ?_, nofun⟩
      intro u hu
      rw [Step.register.inj hu]
  | put key t =>
      rw [outcome_put_error (put_of_frozen hc key t)]
      exact ⟨rfl, nofun, fun _ _ _ => rfl⟩
  | resolve name => exact ⟨(unchanged_of_reading c name 0 0).1, nofun, nofun⟩
  | suggest name limit least => exact ⟨rfl, nofun, nofun⟩
  | freeze =>
      refine ⟨?_, nofun, nofun⟩
      obtain ⟨entries, frozen⟩ := c
      cases hc
      rfl

/-- The type that a step has registered, if it has. -/
def accepted (step : Step) (c : Catalog) : List NativeType :=
  match step, (step.outcome c).1 with
  | .register t, .ok _ => [t]
  | _, _ => []

theorem accepted_register_ok (h : c.register t = .ok d) : (register t).accepted c = [t] := by
  simp only [accepted, outcome_register_ok h]

theorem accepted_register_error (h : c.register t = .error e) : (register t).accepted c = [] := by
  simp only [accepted, outcome_register_error h]

end Step

/-! ## Runs -/

/-- The types that steps have registered, in order. -/
def accepted (c : Catalog) : List Step → List NativeType
  | [] => []
  | step :: rest => step.accepted c ++ accepted (step.outcome c).2 rest

theorem afterSteps_cons (c : Catalog) (step : Step) (rest : List Step) :
    c.afterSteps (step :: rest) = (step.outcome c).2.afterSteps rest := rfl

theorem afterSteps_append (c : Catalog) (steps more : List Step) :
    c.afterSteps (steps ++ more) = (c.afterSteps steps).afterSteps more := List.foldl_append

theorem forall₂_refused (hc : c.frozen = true) (steps : List Step) :
    List.Forall₂ (Step.Refused c) steps (c.runScript steps) := by
  induction steps with
  | nil => exact .nil
  | cons step rest ih =>
      have hstep := step.refused_of_frozen hc
      refine .cons hstep ?_
      rw [hstep.unchanged]
      exact ih

/-- The table lists the types under their own names, of each name the first, in
the order in which the names came up. -/
structure Records (types : List NativeType) (c : Catalog) : Prop where
  named : ∀ entry ∈ c.entries, entry.1 = entry.2.name
  names : c.names = (types.map (·.name)).eraseDups
  find : ∀ name, c.find? name = types.find? (·.name = name)

theorem find?_append (c : Catalog) (key : String) (t : NativeType) (name : String) :
    ({ c with entries := c.entries ++ [(key, t)] } : Catalog).find? name =
      (c.find? name).or (if key = name then some t else none) := by
  simp only [Catalog.find?, Keyed.get?, List.find?_append]
  cases c.entries.find? (·.1 = name) with
  | some entry => rfl
  | none => by_cases hkey : key = name <;> simp [hkey]

namespace Records

theorem fresh : Records [] {} := ⟨List.forall_mem_nil _, rfl, fun _ => rfl⟩

/-- A type that is there already adds nothing. -/
theorem again (h : Records types c) (hknown : c.find? t.name = some known) :
    Records (types ++ [t]) c := by
  have hfirst : types.find? (·.name = t.name) = some known := (h.find t.name).symm.trans hknown
  have hmem : t.name ∈ types.map (·.name) := by
    have hname := List.find?_some hfirst
    have hin := List.mem_of_find?_eq_some hfirst
    exact List.mem_map.mpr ⟨known, hin, of_decide_eq_true hname⟩
  refine ⟨h.named, ?_, ?_⟩
  · rw [List.map_append, List.map_singleton, eraseDups_concat, if_pos hmem]
    exact h.names
  · intro name
    rw [List.find?_append, ← h.find name]
    by_cases hname : t.name = name
    · subst hname
      rw [hknown]
      rfl
    · simp [hname]

/-- A type of a new name goes to the end. -/
theorem append (h : Records types c) (hnew : c.find? t.name = none) :
    Records (types ++ [t]) { c with entries := c.entries ++ [(t.name, t)] } := by
  have hmem : t.name ∉ types.map (·.name) := by
    intro hmem
    obtain ⟨known, hknown, hname⟩ := List.mem_map.mp hmem
    have hnone := List.find?_eq_none.mp ((h.find t.name).symm.trans hnew) known hknown
    exact hnone (decide_eq_true hname)
  refine ⟨?_, ?_, ?_⟩
  · intro entry hentry
    rcases List.mem_append.mp hentry with hentry | hentry
    · exact h.named entry hentry
    · rw [List.mem_singleton.mp hentry]
  · rw [List.map_append, List.map_singleton, eraseDups_concat, if_neg hmem, ← h.names]
    exact List.map_append
  · intro name
    rw [find?_append, List.find?_append, h.find name]
    by_cases hname : t.name = name
    · simp [hname]
    · simp [hname]

/-- What a step that does not write to the table directly makes of the record. -/
theorem outcome (h : Records types c) (step : Step) (hput : ∀ key t, step ≠ .put key t) :
    Records (types ++ step.accepted c) (step.outcome c).2 := by
  have hnothing : Records (types ++ []) c := by rwa [List.append_nil]
  cases step with
  | register t =>
      cases hregister : c.register t with
      | error e =>
          rw [Step.accepted_register_error hregister, Step.outcome_register_error hregister]
          exact hnothing
      | ok d =>
          rw [Step.accepted_register_ok hregister, Step.outcome_register_ok hregister]
          obtain ⟨-, ⟨known, hknown, -, rfl⟩ | ⟨hnew, rfl⟩⟩ := register_eq_ok hregister
          · exact h.again hknown
          · exact h.append hnew
  | put key t => exact absurd rfl (hput key t)
  | resolve name =>
      rw [(Step.unchanged_of_reading c name 0 0).1]
      exact hnothing
  | suggest name limit least => exact hnothing
  | freeze => exact ⟨hnothing.named, hnothing.names, hnothing.find⟩

theorem afterSteps (h : Records types c) (steps : List Step)
    (hput : ∀ step ∈ steps, ∀ key t, step ≠ .put key t) :
    Records (types ++ c.accepted steps) (c.afterSteps steps) := by
  induction steps generalizing types c with
  | nil =>
      rw [accepted, List.append_nil]
      exact h
  | cons step rest ih =>
      obtain ⟨hstep, hrest⟩ := List.forall_mem_cons.mp hput
      rw [accepted, ← List.append_assoc, afterSteps_cons]
      exact ih (h.outcome step hstep) hrest

end Records

/-- A step that does not write to the table directly leaves what is in it where it is. -/
theorem entries_prefix_outcome (c : Catalog) (step : Step) (hput : ∀ key t, step ≠ .put key t) :
    c.entries <+: (step.outcome c).2.entries := by
  cases step with
  | register t =>
      cases hregister : c.register t with
      | error e =>
          have hsame : ((Step.register t).outcome c).2 = c := by
            rw [Step.outcome_register_error hregister]
          exact hsame.symm ▸ List.prefix_rfl
      | ok d =>
          rw [Step.outcome_register_ok hregister]
          obtain ⟨-, ⟨known, -, -, rfl⟩ | ⟨-, rfl⟩⟩ := register_eq_ok hregister
          · exact List.prefix_rfl
          · exact List.prefix_append _ _
  | put key t => exact absurd rfl (hput key t)
  | resolve name =>
      exact (Step.unchanged_of_reading c name 0 0).1.symm ▸ List.prefix_rfl
  | suggest name limit least => exact List.prefix_rfl
  | freeze => exact List.prefix_rfl

theorem entries_prefix_afterSteps (c : Catalog) (steps : List Step)
    (hput : ∀ step ∈ steps, ∀ key t, step ≠ .put key t) :
    c.entries <+: (c.afterSteps steps).entries := by
  induction steps generalizing c with
  | nil => exact List.prefix_rfl
  | cons step rest ih =>
      obtain ⟨hstep, hrest⟩ := List.forall_mem_cons.mp hput
      exact (entries_prefix_outcome c step hstep).trans (ih _ hrest)

theorem afterSteps_of_frozen (hc : c.frozen = true) (steps : List Step) :
    c.afterSteps steps = c := by
  induction steps with
  | nil => rfl
  | cons step rest ih => rw [afterSteps_cons, (step.refused_of_frozen hc).unchanged, ih]

namespace Records

theorem nodup_names (h : Records types c) : c.names.Nodup := by
  rw [h.names]
  exact nodup_eraseDups _

theorem outcome_resolve (h : Records types c) {name : String}
    (ht : types.find? (·.name = name) = some t) :
    (Step.resolve name).outcome c = (.ok (.type t), c) :=
  Step.outcome_resolve_ok ((h.find name).trans ht)

theorem exists_resolve_iff (h : Records types c) (name : String) :
    (∃ answer, ((Step.resolve name).outcome c).1 = .ok answer) ↔ name ∈ types.map (·.name) := by
  cases hfind : types.find? (·.name = name) with
  | some t =>
      rw [h.outcome_resolve hfind]
      have hname := List.find?_some hfind
      have ht := List.mem_of_find?_eq_some hfind
      constructor
      · intro _
        exact List.mem_map.mpr ⟨t, ht, of_decide_eq_true hname⟩
      · intro _
        exact ⟨_, rfl⟩
  | none =>
      rw [Step.outcome_resolve_error ((h.find name).trans hfind)]
      constructor
      · rintro ⟨answer, hanswer⟩
        cases hanswer
      · intro hname
        obtain ⟨t, ht, hname⟩ := List.mem_map.mp hname
        exact absurd (decide_eq_true hname) (List.find?_eq_none.mp hfind t ht)

theorem exists_register_iff (h : Records types c) (hc : c.frozen = false)
    (hknown : types.find? (·.name = t.name) = some known) :
    (∃ answer, ((Step.register t).outcome c).1 = .ok answer) ↔ known.same t = true := by
  have hregister := register_of_known hc ((h.find t.name).trans hknown)
  by_cases hsame : known.same t = true
  · rw [if_pos hsame] at hregister
    rw [Step.outcome_register_ok hregister]
    exact ⟨fun _ => hsame, fun _ => ⟨_, rfl⟩⟩
  · rw [if_neg hsame] at hregister
    rw [Step.outcome_register_error hregister]
    constructor
    · rintro ⟨answer, hanswer⟩
      cases hanswer
    · intro h
      exact absurd h hsame

end Records

/-- **A catalog keeps what it has.** Whatever steps are taken on a new catalog:

* from the first freezing on the catalog stays as it is, every registration is
  refused, be it of a type that is there, and so is writing to the table;
* if the table is never written to directly, it records the registrations that
  succeeded, and what is in it stays in its place; a name is found exactly if such
  a registration had it, as the first type of that name; and on an open catalog a
  type of a known name is registered again exactly if it is the same type;
* a step that fails and a step that only looks up change nothing.

The table that is written to is always the one that the catalog shows at that time. A
table that was shown before the freezing, kept, and written to behind it is left out. -/
theorem table_after_steps (steps : List Step) :
    (∀ before later, steps = before ++ .freeze :: later →
      (afterSteps {} (before ++ [.freeze])).frozen = true ∧
      afterSteps {} steps = afterSteps {} (before ++ [.freeze]) ∧
      List.Forall₂ (Step.Refused (afterSteps {} (before ++ [.freeze]))) later
        (runScript (afterSteps {} (before ++ [.freeze])) later)) ∧
    ((∀ step ∈ steps, ∀ key t, step ≠ .put key t) →
      Records (accepted {} steps) (afterSteps {} steps) ∧
      (afterSteps {} steps).names.Nodup ∧
      (∀ before, before <+: steps →
        (afterSteps {} before).entries <+: (afterSteps {} steps).entries) ∧
      (∀ name, (∃ answer, ((Step.resolve name).outcome (afterSteps {} steps)).1 = .ok answer) ↔
        name ∈ (accepted {} steps).map (·.name)) ∧
      (∀ name t, (accepted {} steps).find? (·.name = name) = some t →
        (Step.resolve name).outcome (afterSteps {} steps) = (.ok (.type t), afterSteps {} steps)) ∧
      (∀ t known, (afterSteps {} steps).frozen = false →
        (accepted {} steps).find? (·.name = t.name) = some known →
        ((∃ answer, ((Step.register t).outcome (afterSteps {} steps)).1 = .ok answer) ↔
          known.same t = true) ∧
        (HasTextTarget known → HasTextTarget t → (known.same t = true ↔ known = t)))) ∧
    (∀ (step : Step) (e : Error), (step.outcome (afterSteps {} steps)).1 = .error e →
      (step.outcome (afterSteps {} steps)).2 = afterSteps {} steps) ∧
    (∀ name limit least,
      ((Step.resolve name).outcome (afterSteps {} steps)).2 = afterSteps {} steps ∧
      ((Step.suggest name limit least).outcome (afterSteps {} steps)).2 = afterSteps {} steps) := by
  refine ⟨?_, ?_, fun step e => step.unchanged_of_error, Step.unchanged_of_reading _⟩
  · rintro before later rfl
    have hfrozen : (afterSteps {} (before ++ [.freeze])).frozen = true := by
      rw [afterSteps_append]
      rfl
    refine ⟨hfrozen, ?_, forall₂_refused hfrozen later⟩
    rw [← List.singleton_append, ← List.append_assoc, afterSteps_append,
      afterSteps_of_frozen hfrozen]
  · intro hput
    have hrecords : Records (accepted {} steps) (afterSteps {} steps) :=
      Records.fresh.afterSteps steps hput
    refine ⟨hrecords, hrecords.nodup_names, ?_, hrecords.exists_resolve_iff,
      fun name t ht => hrecords.outcome_resolve ht, ?_⟩
    · rintro before ⟨later, rfl⟩
      rw [afterSteps_append]
      exact entries_prefix_afterSteps _ later fun step hstep =>
        hput step (List.mem_append_right _ hstep)
    · intro t known hc hknown
      exact ⟨hrecords.exists_register_iff hc hknown, same_iff_eq⟩

end InputBindings.Catalog
