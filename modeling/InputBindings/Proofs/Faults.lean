import InputBindings.Proofs.Emission
import InputBindings.Proofs.Manifest.Names
import InputBindings.Proofs.Options

/-!
# What generating can fail with

Nearly all that can be wrong with a parameter when it is written is a defect of its
type or of its description, and is reported as one. Three things are not: the native
spelling of a model that is not text, a target type that has no text, and a call that
stands further to the right than any line can. A manifest that is accepted may hold
the first two, since only the name, the type and the flags of an entry are looked at
when it is read, and settings that are accepted may ask for the third. Nothing else
gets past the defects: a parameter strays in one of these ways exactly if its failure
is no defect, and the programs fail so exactly if the first parameter that fails in
the first program that fails strays.

Main statement: `errors_are_defects_or_stray`.
-/

namespace InputBindings

open Traversal Writing

namespace Error

/-- A defect of a type or of a parameter as it is described. -/
def IsDefect (e : Error) : Prop := e.kind = .configuration ∨ e.kind = .descriptor

theorem IsDefect.isReported {e : Error} (h : e.IsDefect) : e.isReported = true := by
  unfold Error.isReported
  rcases h with h | h <;> rw [h]

end Error

/-! ## Settings that are read -/

namespace Settings

variable {entries : List (Value × Value)} {s : Settings}

theorem nonneg_of_ofEntries (h : ofEntries entries = .ok s) :
    0 ≤ s.baseIndent ∧ 0 ≤ s.indentStep := by
  have hnonneg : ∀ {n : Int}, Form.indent.Admits (.int n) → 0 ≤ n := by
    rintro n ⟨⟩
    assumption
  obtain ⟨-, -, -, -, -, hbase, hstep⟩ := forall_options_iff.mp (admits_value h)
  exact ⟨hnonneg hbase, hnonneg hstep⟩

theorem nonneg_of_ofValue? {v : Value} (h : ofValue? v = .ok (some s)) :
    0 ≤ s.baseIndent ∧ 0 ≤ s.indentStep := by
  unfold ofValue? at h
  split at h
  · exact nonneg_of_ofEntries (some_map_eq_ok_iff.mp h)
  · exact nonneg_of_ofEntries (some_map_eq_ok_iff.mp h)
  · cases h

end Settings

/-! ## What can be wrong with a parameter -/

theorem NativeType.isDefect_of_family {t : NativeType} {s : Settings} {e : Error}
    (h : t.family s = .error e) : e.IsDefect := by
  unfold family at h
  split at h
  · cases h
  · unfold containerFamily at h
    split at h
    · cases h
      exact Or.inl rfl
    · split at h
      · cases h
        exact Or.inl rfl
      · cases h
  · cases h
  · cases h
    exact Or.inl rfl

theorem NativeType.isDefect_of_targetType {t : NativeType} {e : Error}
    (h : t.targetType = .error e) : e.IsDefect := by
  unfold targetType at h
  split at h
  · cases h
  · split at h
    · cases h
    · split at h
      · cases h
      · cases h
        exact Or.inl rfl

namespace Parameter

variable {p : Parameter} {s : Settings} {program : String} {e : Error}

theorem kind_of_checkName (h : p.checkName = .error e) : e.kind = .descriptor := by
  unfold checkName at h
  split at h
  · cases h
    rfl
  · split at h
    · cases h
    · cases h
      rfl

theorem isDefect_of_checkName (h : p.checkName = .error e) : e.IsDefect :=
  Or.inr (kind_of_checkName h)

theorem isDefect_of_targetType (h : p.targetType = .error e) : e.IsDefect := by
  unfold targetType at h
  split at h
  · cases h
  · exact NativeType.isDefect_of_targetType h

/-- The blanks in front of the call, which can only be written if those in front of
its guard can. -/
def blanks (p : Parameter) (s : Settings) : Except Error String := do
  let _ ← indentation s.baseIndent
  indentation (StoreCall.column p.required s.baseIndent s.indentStep)

/-- The failures of a parameter that are no defects. -/
inductive Stray (p : Parameter) (s : Settings) : Error → Prop where
  /-- The native spelling of a model is not text. -/
  | spelling {typeName : String} (family_eq : p.type.family s = .ok (.model typeName))
      (name : p.checkName = .ok ()) (underlying : p.underlying.text? = none) :
      Stray p s .spellingNotText
  /-- The target type has no text. -/
  | target {family : Family} {accessor : String} {target : Value}
      (family_eq : p.type.family s = .ok family) (name : p.checkName = .ok ())
      (accessor_eq : p.accessor s family = .ok accessor) (target_eq : p.targetType = .ok target)
      (text : target.text = none) : Stray p s .noText
  /-- The call stands too far to the right. -/
  | column {call : StoreCall} {e : Error} (call_eq : p.type.family s >>= p.storeCall s = .ok call)
      (blanks : p.blanks s = .error e) : Stray p s e

theorem identifier_eq_error (h : p.identifier = .error e) :
    e.IsDefect ∨ e = .spellingNotText ∧ p.underlying.text? = none := by
  unfold identifier at h
  split at h
  · dsimp only at h
    split at h
    · cases h
      exact Or.inl (Or.inr rfl)
    · cases h
  · rename_i hspelling
    cases h
    refine Or.inr ⟨rfl, ?_⟩
    cases hunderlying : p.underlying with
    | str spelling => exact absurd hunderlying (hspelling spelling)
    | _ => rfl

theorem identifier_of_text? (h : p.underlying.text? = none) :
    p.identifier = .error .spellingNotText := by
  unfold identifier
  split
  · rename_i spelling hspelling
    rw [hspelling] at h
    cases h
  · rfl

theorem storeCall_eq_error {family : Family} (hfamily : p.type.family s = .ok family)
    (h : p.storeCall s family = .error e) : e.IsDefect ∨ p.Stray s e := by
  unfold storeCall at h
  rcases bind_eq_error_iff.mp h with hname | ⟨_, hname, h⟩
  · exact Or.inl (isDefect_of_checkName hname)
  rcases bind_eq_error_iff.mp h with haccessor | ⟨accessor, haccessor, h⟩
  · cases family with
    | plain => cases haccessor
    | container element shape => cases haccessor
    | model typeName =>
        rcases bind_eq_error_iff.mp haccessor with hidentifier | ⟨_, _, hpure⟩
        · rcases identifier_eq_error hidentifier with hdefect | ⟨rfl, hspelling⟩
          · exact Or.inl hdefect
          · exact Or.inr (.spelling hfamily hname hspelling)
        · cases hpure
  rcases bind_eq_error_iff.mp h with htarget | ⟨target, htarget, h⟩
  · exact Or.inl (isDefect_of_targetType htarget)
  rcases bind_eq_error_iff.mp h with hwritten | ⟨_, _, hpure⟩
  · unfold Value.written at hwritten
    split at hwritten
    · cases hwritten
    · rename_i htext
      cases hwritten
      exact Or.inr (.target hfamily hname haccessor htarget htext)
  · cases hpure

theorem emitText_singleton_eq_error_iff : emitText s program [p] = .error e ↔
    p.type.family s >>= p.storeCall s = .error e ∨
      ∃ call, p.type.family s >>= p.storeCall s = .ok call ∧ p.blanks s = .error e := by
  cases hcall : p.type.family s >>= p.storeCall s with
  | error e' =>
      rw [emitText_singleton (writes_emit_of_error hcall)]
      simp [Except.map]
  | ok call =>
      obtain ⟨written, hwrite⟩ :=
        call.exists_writes_write s p.required s.baseIndent s.indentStep
      have hblanks : (indentation s.baseIndent >>= fun _ =>
          (indentation (StoreCall.column p.required s.baseIndent s.indentStep)).map
            fun _ => ()) = (p.blanks s).map fun _ => () := by
        unfold blanks
        cases indentation s.baseIndent <;> rfl
      rw [hblanks] at hwrite
      rw [emitText_singleton (writes_emit_of_ok hcall hwrite), map_eq_error_iff,
        map_eq_error_iff]
      simp

theorem Stray.isReported (h : p.Stray s e) : e.isReported = false := by
  cases h with
  | spelling => rfl
  | target => rfl
  | column _ hblanks =>
      have hlevel : ∀ level, indentation level = .error e → e.isReported = false := by
        intro level hlevel
        rcases indentation_eq_error hlevel with ⟨-, rfl⟩ | ⟨-, rfl⟩ <;> rfl
      rcases bind_eq_error_iff.mp hblanks with hbase | ⟨_, -, hcolumn⟩
      · exact hlevel _ hbase
      · exact hlevel _ hcolumn

/-- A parameter strays with an error exactly if it fails with it alone and the error is
no defect. -/
theorem stray_iff : p.Stray s e ↔ emitText s program [p] = .error e ∧ ¬e.IsDefect := by
  constructor
  · intro h
    refine ⟨emitText_singleton_eq_error_iff.mpr ?_, fun hdefect => ?_⟩
    · cases h with
      | spelling hfamily hname hspelling =>
          refine Or.inl (bind_eq_error_iff.mpr (Or.inr ⟨_, hfamily, ?_⟩))
          refine bind_eq_error_iff.mpr (Or.inr ⟨_, hname, bind_eq_error_iff.mpr (Or.inl ?_)⟩)
          exact bind_eq_error_iff.mpr (Or.inl (identifier_of_text? hspelling))
      | target hfamily hname haccessor htarget htext =>
          refine Or.inl (bind_eq_error_iff.mpr (Or.inr ⟨_, hfamily, ?_⟩))
          refine bind_eq_error_iff.mpr (Or.inr ⟨_, hname, bind_eq_error_iff.mpr (Or.inr ?_)⟩)
          refine ⟨_, haccessor, bind_eq_error_iff.mpr (Or.inr ⟨_, htarget, ?_⟩)⟩
          refine bind_eq_error_iff.mpr (Or.inl ?_)
          unfold Value.written
          rw [htext]
          rfl
      | column hcall hblanks => exact Or.inr ⟨_, hcall, hblanks⟩
    · cases hdefect.isReported.symm.trans h.isReported
  · rintro ⟨h, hdefect⟩
    rcases emitText_singleton_eq_error_iff.mp h with hcall | ⟨call, hcall, hblanks⟩
    · rcases bind_eq_error_iff.mp hcall with hfamily | ⟨family, hfamily, hcall⟩
      · exact absurd (NativeType.isDefect_of_family hfamily) hdefect
      · exact (storeCall_eq_error hfamily hcall).resolve_left hdefect
    · exact .column hcall hblanks

/-- Where a call stands to the right of its guard, it fails only beyond the widest
indentation. -/
theorem blanks_eq_error (hbase : 0 ≤ s.baseIndent) (hstep : 0 ≤ s.indentStep)
    (h : p.blanks s = .error e) :
    maxIndentation < StoreCall.column p.required s.baseIndent s.indentStep ∧
      e = .indentOutOfRange := by
  have hcolumn := StoreCall.le_column hstep p.required s.baseIndent
  rcases bind_eq_error_iff.mp h with hguard | ⟨_, -, hcall⟩
  · obtain ⟨hwide, he⟩ := (indentation_eq_error hguard).resolve_left (by omega)
    exact ⟨by omega, he⟩
  · exact (indentation_eq_error hcall).resolve_left (by omega)

theorem Stray.cases_of_nonneg (h : p.Stray s e) (hbase : 0 ≤ s.baseIndent)
    (hstep : 0 ≤ s.indentStep) : e = .spellingNotText ∨ e = .noText ∨
      (maxIndentation < StoreCall.column p.required s.baseIndent s.indentStep ∧
        e = .indentOutOfRange) := by
  cases h with
  | spelling => exact Or.inl rfl
  | target => exact Or.inr (Or.inl rfl)
  | column _ hblanks => exact Or.inr (Or.inr (blanks_eq_error hbase hstep hblanks))

/-- The native spelling of the parameter is text and its target type, if it has one, has a
text, as those who describe parameters are asked for. -/
structure Described (p : Parameter) : Prop where
  spelling : ∃ spelling, p.underlying = .str spelling
  target : ∀ v, p.targetType = .ok v → ∃ text, v.text = some text

theorem Described.not_stray (hp : p.Described) (hbase : 0 ≤ s.baseIndent)
    (hstep : 0 ≤ s.indentStep) (hwidth : s.baseIndent + s.indentStep ≤ maxIndentation) :
    ¬p.Stray s e := by
  intro h
  cases h with
  | spelling _ _ hunderlying =>
      obtain ⟨spelling, hspelling⟩ := hp.spelling
      rw [hspelling] at hunderlying
      cases hunderlying
  | target _ _ _ htarget htext =>
      obtain ⟨text, hwritten⟩ := hp.target _ htarget
      cases htext.symm.trans hwritten
  | column _ hblanks =>
      have hwide := (blanks_eq_error hbase hstep hblanks).1
      have hcolumn := StoreCall.column_le hstep p.required s.baseIndent
      omega

end Parameter

/-! ## What programs fail with -/

namespace Manifest

variable {catalog : Catalog} {manifest : Value} {ps : List Program}

theorem nodup_of_mem_byName (h : programs catalog manifest = .ok ps)
    {program : String × List Parameter} (hprogram : program ∈ Generation.byName ps) :
    (program.2.map (·.name)).Nodup := by
  obtain ⟨p, hp, rfl⟩ := List.mem_map.mp (Keyed.mem_of_mem_ofList hprogram)
  obtain ⟨entries, -, hreads⟩ := programs_eq_ok_iff.mp h
  obtain ⟨i, hi, rfl⟩ := List.mem_iff_getElem.mp hp
  exact (hreads.get (hreads.length_eq ▸ hi) hi).apart

end Manifest

namespace Generation

variable {catalog : Catalog} {manifest v : Value} {ps : List Program} {s : Settings}

/-- The first program that fails does so at its first parameter that fails, and that
one strays. -/
def Strays (s : Settings) (programs : List (String × List Parameter)) (e : Error) : Prop :=
  ∃ before program after, programs = before ++ program :: after ∧
    (∀ earlier ∈ before, ∃ text, Parameter.emitText s earlier.1 earlier.2 = .ok text) ∧
    ∃ fine p rest, program.2 = fine ++ p :: rest ∧ Parameter.Faultless s fine ∧ p.Stray s e

theorem sequential_stray_iff {programs : List (String × List Parameter)} {e : Error}
    (hapart : ∀ program ∈ programs, (program.2.map (·.name)).Nodup) :
    sequential s programs = .error e ∧ ¬e.IsDefect ↔ Strays s programs e := by
  rw [sequential_eq_error_iff]
  constructor
  · rintro ⟨⟨before, program, after, rfl, hbefore, herror⟩, hdefect⟩
    obtain ⟨fine, p, rest, hparams, hfine, hfault⟩ := Parameter.emitText_eq_error_iff.mp herror
    refine ⟨before, program, after, rfl, hbefore, fine, p, rest, hparams, hfine, ?_⟩
    unfold Parameter.FaultBehind at hfault
    split at hfault
    · rw [hfault] at hdefect
      exact absurd (Or.inr rfl) hdefect
    · exact Parameter.stray_iff.mpr ⟨hfault, hdefect⟩
  · rintro ⟨before, program, after, rfl, hbefore, fine, p, rest, hparams, hfine, hstray⟩
    obtain ⟨herror, hdefect⟩ := Parameter.stray_iff.mp hstray
    refine ⟨⟨before, program, after, rfl, hbefore, ?_⟩, hdefect⟩
    refine Parameter.emitText_eq_error_iff.mpr ⟨fine, p, rest, hparams, hfine, ?_⟩
    have hnames := hapart program (List.mem_append_right _ List.mem_cons_self)
    rw [hparams, List.map_append, List.map_cons, List.nodup_append] at hnames
    refine (if_neg ?_).mpr herror
    intro hmem
    exact hnames.2.2 _ hmem _ List.mem_cons_self rfl

/-- **What generating fails with.** Of a manifest and settings that are accepted, whatever
the number of workers and the order in which they finish, generating fails with an error
that is no defect of a type or of a parameter exactly if the first parameter that fails in
the first program that fails strays. Then the native spelling of a model is not text, or a
target type has no text, or the call stands beyond the widest indentation, and the error
says so and is not reported to the user. If all native spellings are text, all target types
have a text and the settings leave room, then defects are all that generating fails
with. -/
theorem errors_are_defects_or_stray (h : Manifest.programs catalog manifest = .ok ps)
    (hs : Settings.ofValue? v = .ok (some s)) :
    (∀ schedule jobs e, (texts schedule jobs s (byName ps) = .error e ∧ ¬e.IsDefect) ↔
      Strays s (byName ps) e) ∧
    (∀ p e, Parameter.Stray p s e → e.isReported = false ∧
      (e = .spellingNotText ∨ e = .noText ∨
        (maxIndentation < StoreCall.column p.required s.baseIndent s.indentStep ∧
          e = .indentOutOfRange))) ∧
    ((∀ program ∈ byName ps, ∀ p ∈ program.2, p.Described) →
      s.baseIndent + s.indentStep ≤ maxIndentation →
      ∀ schedule jobs e, texts schedule jobs s (byName ps) = .error e → e.IsDefect) := by
  obtain ⟨hbase, hstep⟩ := Settings.nonneg_of_ofValue? hs
  have hstrays : ∀ schedule jobs e,
      (texts schedule jobs s (byName ps) = .error e ∧ ¬e.IsDefect) ↔ Strays s (byName ps) e := by
    intro schedule jobs e
    rw [texts_eq_sequential]
    exact sequential_stray_iff fun _ => Manifest.nodup_of_mem_byName h
  refine ⟨hstrays, ?_, ?_⟩
  · intro p e hstray
    exact ⟨hstray.isReported, hstray.cases_of_nonneg hbase hstep⟩
  · intro hdescribed hwidth schedule jobs e herror
    by_contra hdefect
    obtain ⟨before, program, after, hprograms, -, fine, p, rest, hparams, -, hstray⟩ :=
      (hstrays schedule jobs e).mp ⟨herror, hdefect⟩
    have hprogram : program ∈ byName ps :=
      hprograms ▸ List.mem_append_right _ List.mem_cons_self
    have hp : p ∈ program.2 := hparams ▸ List.mem_append_right _ List.mem_cons_self
    exact (hdescribed program hprogram p hp).not_stray hbase hstep hwidth hstray

/-- A manifest with a required integer `a` and settings that are left out are accepted,
and what generating could fail with are defects. -/
theorem defects_of_integer :
    Manifest.programs Catalog.standard
      (Manifest.ofPrograms [(.str "fit", .list [Manifest.integerEntry "a"])]) =
      .ok [⟨"fit", [Manifest.integer "a"]⟩] ∧
    Settings.ofValue? .null = .ok (some {}) ∧
    ∀ schedule jobs e, texts schedule jobs {} (byName [⟨"fit", [Manifest.integer "a"]⟩]) =
      .error e → e.IsDefect := by
  have h : Manifest.programs Catalog.standard
      (Manifest.ofPrograms [(.str "fit", .list [Manifest.integerEntry "a"])]) =
      .ok [⟨"fit", [Manifest.integer "a"]⟩] :=
    Manifest.programs_eq_ok_iff.mpr
      ⟨_, by cbv, .cons (Manifest.reads_singleton rfl Manifest.readEntry_a) .nil⟩
  have hs : Settings.ofValue? .null = .ok (some {}) := by rfl
  refine ⟨h, hs, (errors_are_defects_or_stray h hs).2.2 ?_ (by decide)⟩
  intro program hprogram p hp
  cases List.mem_singleton.mp hprogram
  cases List.mem_singleton.mp hp
  refine ⟨⟨"int", rfl⟩, ?_⟩
  intro v hv
  cases hv
  exact ⟨"Int", rfl⟩

/-- The entry of a required model whose native spelling is a number. -/
def numberedEntry : Value :=
  .mapping [(.str "name", .str "m"), (.str "type", .str "Model"), (.str "model", .bool true),
    (.str "cpp_type", .int 5), (.str "required", .bool true)]

def numbered : Parameter :=
  { name := "m", type := .model "Model" .null, required := true, nativeSpelling := .int 5 }

theorem readEntry_numberedEntry :
    Manifest.readEntry Catalog.standard numberedEntry = .ok numbered := by
  cbv

/-- The manifest of a model whose native spelling is a number is accepted, and generating
then fails in a way that is no defect and is not reported to the user. -/
theorem number_as_spelling_strays :
    Manifest.programs Catalog.standard
      (Manifest.ofPrograms [(.str "fit", .list [numberedEntry])]) = .ok [⟨"fit", [numbered]⟩] ∧
    Settings.ofValue? .null = .ok (some {}) ∧
    texts .inOrder 1 {} (byName [⟨"fit", [numbered]⟩]) = .error .spellingNotText ∧
    ¬Error.spellingNotText.IsDefect ∧ Error.spellingNotText.isReported = false := by
  refine ⟨?_, by rfl, by rfl, ?_, rfl⟩
  · exact Manifest.programs_eq_ok_iff.mpr
      ⟨_, by cbv, .cons (Manifest.reads_singleton rfl readEntry_numberedEntry) .nil⟩
  · rintro (h | h) <;> cases h

end Generation

end InputBindings
