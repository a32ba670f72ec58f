import InputBindings.Proofs.Faults
import InputBindings.Proofs.Manifest.Defects

/-!
# Repeated names

The names of a program's parameters are compared twice, when the program is made and when its
parameters are written, each time with a record of the names that have occurred. Writing finds other
faults as well, one parameter after the other, but a repetition is found there in no other way: no
step of writing a parameter fails with one. So a program that could be made is never refused for a
repetition when it is written, and where each parameter can be written alone the two comparisons
agree, on the same name and with the same words.

Main statement: `repetitions_found_alike`.
-/

namespace InputBindings

open Traversal

/-! ## Steps that find no repetition -/

/-- Whatever it fails with, it is no repeated name. -/
def Unrepeated {α : Type} (r : Except Error α) : Prop :=
  ∀ again program, r ≠ .error (.duplicateParameter again program)

namespace Unrepeated

variable {α β : Type} {r : Except Error α}

theorem bind {next : α → Except Error β} (h : Unrepeated r)
    (hnext : ∀ x, r = .ok x → Unrepeated (next x)) : Unrepeated (r >>= next) := by
  intro again program hr
  rcases bind_eq_error_iff.mp hr with hr | ⟨x, hx, hnext'⟩
  · exact h again program hr
  · exact hnext x hx again program hnext'

theorem ok (x : α) : Unrepeated (.ok x : Except Error α) := nofun

end Unrepeated

section Steps

variable {p : Parameter} {t : NativeType} {v : Value} {s : Settings}

theorem unrepeated_family : Unrepeated (t.family s) := by
  intro again program h
  unfold NativeType.family NativeType.containerFamily at h
  split at h
  · cases h
  · split at h
    · cases h
    · split at h <;> cases h
  · cases h
  · cases h

theorem unrepeated_checkName : Unrepeated p.checkName := by
  intro again program h
  unfold Parameter.checkName at h
  split at h
  · cases h
  · split at h <;> cases h

theorem unrepeated_identifier : Unrepeated p.identifier := by
  intro again program h
  unfold Parameter.identifier at h
  split at h
  · dsimp only at h
    split at h <;> cases h
  · cases h

theorem unrepeated_accessor (family : Family) : Unrepeated (p.accessor s family) := by
  cases family with
  | plain => exact .ok _
  | container element shape => exact .ok _
  | model typeName => exact unrepeated_identifier.bind fun _ _ => .ok _

theorem unrepeated_targetType : Unrepeated p.targetType := by
  intro again program h
  unfold Parameter.targetType NativeType.targetType at h
  split at h
  · cases h
  · split at h
    · cases h
    · split at h
      · cases h
      · split at h <;> cases h

theorem unrepeated_written : Unrepeated v.written := by
  intro again program h
  unfold Value.written at h
  split at h <;> cases h

theorem unrepeated_storeCall (family : Family) : Unrepeated (p.storeCall s family) := by
  refine unrepeated_checkName.bind fun _ _ => ?_
  refine (unrepeated_accessor family).bind fun _ _ => ?_
  refine unrepeated_targetType.bind fun _ _ => ?_
  exact unrepeated_written.bind fun _ _ => .ok _

theorem unrepeated_indentation (level : Int) : Unrepeated (indentation level) := by
  intro again program h
  rcases indentation_eq_error h with ⟨-, he⟩ | ⟨-, he⟩
  · cases he
  · cases he

end Steps

namespace Parameter

variable {s : Settings} {program : String} {params : List Parameter} {e : Error}

/-- A parameter alone repeats nothing. -/
theorem unrepeated_singleton (p : Parameter) : Unrepeated (emitText s program [p]) := by
  intro again name h
  rcases emitText_singleton_eq_error_iff.mp h with hcall | ⟨call, -, hblanks⟩
  · exact unrepeated_family.bind (fun family _ => unrepeated_storeCall family) again name hcall
  · refine (unrepeated_indentation s.baseIndent).bind (fun _ _ => ?_) again name hblanks
    exact unrepeated_indentation _

theorem unrepeated_emitText (h : (params.map (·.name)).Nodup) :
    Unrepeated (emitText s program params) := by
  intro again name he
  obtain ⟨before, p, after, rfl, -, hfault⟩ := emitText_eq_error_iff.mp he
  rw [List.map_append, List.map_cons] at h
  have hfresh : p.name ∉ before.map (·.name) := fun hmem =>
    List.disjoint_of_nodup_append h hmem List.mem_cons_self
  exact unrepeated_singleton p again name ((if_neg hfresh).mp hfault)

/-- Where each parameter can be written alone, a list fails exactly with the first name that occurs
again. -/
theorem emitText_eq_error_iff_firstAgain
    (halone : ∀ p ∈ params, ∃ text, emitText s "" [p] = .ok text) :
    emitText s program params = .error e ↔
      ∃ again, FirstAgain (params.map (·.name)) again ∧ e = .duplicateParameter again program := by
  rw [emitText_eq_error_iff]
  constructor
  · rintro ⟨before, p, after, rfl, ⟨hnodup, -⟩, hfault⟩
    unfold FaultBehind at hfault
    split at hfault
    · rename_i hagain
      refine ⟨p.name, ⟨before.map (·.name), after.map (·.name), ?_, hnodup, hagain⟩, hfault⟩
      rw [List.map_append, List.map_cons]
    · obtain ⟨text, htext⟩ := halone p (List.mem_append_right before List.mem_cons_self)
      cases hfault.symm.trans htext
  · rintro ⟨again, ⟨before, after, hsplit, hnodup, hagain⟩, rfl⟩
    obtain ⟨done, rest, rfl, rfl, hrest⟩ := List.map_eq_append_iff.mp hsplit
    obtain ⟨p, later, rfl, rfl, -⟩ := List.map_eq_cons_iff.mp hrest
    refine ⟨done, p, later, rfl, ⟨hnodup, fun q hq => ?_⟩, (if_pos hagain).mpr rfl⟩
    exact halone q (List.mem_append_left _ hq)

end Parameter

namespace Generation

variable {s : Settings} {programs : List (String × List Parameter)}

theorem unrepeated_sequential (h : ∀ program ∈ programs, (program.2.map (·.name)).Nodup) :
    Unrepeated (sequential s programs) := by
  intro again name he
  obtain ⟨before, program, after, rfl, -, hfault⟩ := sequential_eq_error_iff.mp he
  have hnames := h program (List.mem_append_right before List.mem_cons_self)
  exact Parameter.unrepeated_emitText hnames again name hfault

end Generation

/-! ## Both comparisons -/

/-- A repeated name is a fault of the description, and its words name the parameter and, unless its
name is empty, the program. -/
theorem message_duplicateParameter (again program : String) :
    (Error.duplicateParameter again program).kind = .descriptor ∧
      (Error.duplicateParameter again program).message =
        some (if program = "" then "Duplicate parameter '" ++ again ++ "'"
          else "Duplicate parameter '" ++ again ++ "' in program '" ++ program ++ "'") := by
  have hstart : "Duplicate parameter '" = "Duplicate parameter " ++ "'" := rfl
  have hmiddle : "' in program '" = "'" ++ " in program " ++ "'" := rfl
  refine ⟨rfl, congrArg some ?_⟩
  unfold Wording.duplicate Wording.named
  simp only [hstart, hmiddle, String.append_assoc]

/-- **Repeated names are found alike.** The names in each program of a manifest that is accepted
differ, so generating never fails with a repeated name, whatever the settings, the number of workers
and the order in which they finish. And for all parameters that can be written alone, making a
program of them fails exactly where writing them as that program does, with the same error: the
first name that occurs again, in words that give this name and that of the program if it has one. -/
theorem repetitions_found_alike :
    (∀ catalog manifest ps, Manifest.programs catalog manifest = .ok ps →
      (∀ p ∈ ps, (p.params.map (·.name)).Nodup) ∧
        ∀ schedule jobs s, Unrepeated (Generation.texts schedule jobs s (Generation.byName ps))) ∧
    ∀ (s : Settings) (program : String) (params : List Parameter),
      (∀ p ∈ params, ∃ text, Parameter.emitText s "" [p] = .ok text) →
      (∀ e, Program.ofParams program params = .error e ↔
        Parameter.emitText s program params = .error e) ∧
      ∀ e, Parameter.emitText s program params = .error e ↔
        ∃ again, FirstAgain (params.map (·.name)) again ∧ e = .duplicateParameter again program ∧
          e.kind = .descriptor ∧
          e.message = some (if program = "" then "Duplicate parameter '" ++ again ++ "'"
            else "Duplicate parameter '" ++ again ++ "' in program '" ++ program ++ "'") := by
  refine ⟨fun catalog manifest ps h => ⟨fun p hp => ?_, fun schedule jobs s => ?_⟩,
    fun s program params halone => ⟨fun e => ?_, fun e => ?_⟩⟩
  · obtain ⟨entries, -, hreads⟩ := Manifest.programs_eq_ok_iff.mp h
    obtain ⟨i, hi, rfl⟩ := List.mem_iff_getElem.mp hp
    exact (hreads.get (hreads.length_eq ▸ hi) hi).apart
  · rw [Generation.texts_eq_sequential]
    exact Generation.unrepeated_sequential fun _ => Manifest.nodup_of_mem_byName h
  · rw [Parameter.emitText_eq_error_iff_firstAgain halone, Program.ofParams_eq_error_iff]
  · rw [Parameter.emitText_eq_error_iff_firstAgain halone]
    constructor
    · rintro ⟨again, hagain, rfl⟩
      exact ⟨again, hagain, rfl, message_duplicateParameter again program⟩
    · rintro ⟨again, hagain, rfl, -⟩
      exact ⟨again, hagain, rfl⟩

open Manifest in
/-- A program `fit` of the integers `a` and `b` is read and generated without a repetition. Of `a`,
`b` and `a` again, each of which can be written alone, none can be made, and they cannot be written
as it. -/
theorem a_found_again :
    programs Catalog.standard
      (ofPrograms [(.str "fit", .list [integerEntry "a", integerEntry "b"])]) =
      .ok [⟨"fit", [integer "a", integer "b"]⟩] ∧
    Unrepeated (Generation.texts .inOrder 2 {}
      (Generation.byName [⟨"fit", [integer "a", integer "b"]⟩])) ∧
    (∀ p ∈ [integer "a", integer "b", integer "a"],
      ∃ text, Parameter.emitText {} "" [p] = .ok text) ∧
    Program.ofParams "fit" [integer "a", integer "b", integer "a"] =
      .error (.duplicateParameter "a" "fit") ∧
    Parameter.emitText {} "fit" [integer "a", integer "b", integer "a"] =
      .error (.duplicateParameter "a" "fit") := by
  obtain ⟨hdiffer, halike⟩ := repetitions_found_alike
  have hread : programs Catalog.standard
      (ofPrograms [(.str "fit", .list [integerEntry "a", integerEntry "b"])]) =
      .ok [⟨"fit", [integer "a", integer "b"]⟩] := by cbv
  have halone : ∀ p ∈ [integer "a", integer "b", integer "a"],
      ∃ text, Parameter.emitText {} "" [p] = .ok text := by
    intro p hp
    simp only [List.mem_cons, List.not_mem_nil, or_false] at hp
    rcases hp with rfl | rfl | rfl <;> exact ⟨_, by rfl⟩
  obtain ⟨hsame, hfirst⟩ := halike {} "fit" _ halone
  have hwritten : Parameter.emitText {} "fit" [integer "a", integer "b", integer "a"] =
      .error (.duplicateParameter "a" "fit") :=
    (hfirst _).mpr ⟨"a", ⟨["a", "b"], [], rfl, by decide, by decide⟩, rfl,
      message_duplicateParameter "a" "fit"⟩
  exact ⟨hread, (hdiffer _ _ _ hread).2 .inOrder 2 {}, halone, (hsame _).mpr hwritten, hwritten⟩

end InputBindings
