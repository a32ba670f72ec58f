import InputBindings.Catalog.Standard
import InputBindings.Manifest
import InputBindings.Proofs.Batches
import InputBindings.Proofs.Keyed
import InputBindings.Proofs.Writable
import Mathlib

/-!
# The names of the programs of a manifest

A program is named by the text of its key. Keys that differ may have the same text:
the number 1 and the text that spells it are two keys of a manifest and one name, and
where programs are told apart by their names the second takes the place of the first.
Among keys that are null, truth values, integers or text this is the only way: two of
them have the same text only if one is text and spells the other.

Main statement: `programs_kept_iff_names_differ`.
-/

namespace InputBindings

open Traversal

namespace Value

/-! ## Keys that are told apart by their texts -/

/-- Null, a truth value, an integer or text. -/
def isSimple : Value → Bool
  | .null | .bool _ | .int _ | .str _ => true
  | _ => false

theorem repr_ne_word (n : Int) : n.repr ≠ "None" ∧ n.repr ≠ "True" ∧ n.repr ≠ "False" := by
  have hwords : ["None", "True", "False"].map String.toInt? = [none, none, none] := by cbv
  simp only [List.map_cons, List.map_nil, List.cons.injEq, and_true] at hwords
  have hne : ∀ word : String, word.toInt? = none → n.repr ≠ word := by
    rintro word hword rfl
    rw [Int.toInt?_repr] at hword
    cases hword
  exact ⟨hne _ hwords.1, hne _ hwords.2.1, hne _ hwords.2.2⟩

theorem text_int {n : Int} (h : n.natAbs < unwritable) : (Value.int n).text = some n.repr := by
  show digits n = some n.repr
  rw [digits, if_pos h]
  rfl

/-- The null, truth value or integer that a text stands for. -/
def ofWord (s : String) : Option Value :=
  if s = "None" then some .null
  else if s = "True" then some (.bool true)
  else if s = "False" then some (.bool false)
  else s.toInt?.map .int

/-- A simple value is text or can be told from its text. -/
theorem ofWord_of_text {v : Value} {s : String} (hv : v.isSimple = true) (htext : v.text = some s)
    (hstr : v ≠ .str s) : ofWord s = some v := by
  cases v with
  | null =>
      cases htext
      rfl
  | bool b =>
      cases b with
      | true =>
          cases htext
          rfl
      | false =>
          cases htext
          rfl
  | int n =>
      have hdigits : digits n = some s := htext
      unfold digits at hdigits
      split at hdigits
      · cases hdigits
        obtain ⟨hnone, htrue, hfalse⟩ := repr_ne_word n
        show ofWord n.repr = some (.int n)
        rw [ofWord, if_neg hnone, if_neg htrue, if_neg hfalse, Int.toInt?_repr]
        rfl
      · cases hdigits
  | str t =>
      cases htext
      exact absurd rfl hstr
  | _ => cases hv

/-- Simple values of the same text are the same, unless one of them is that text. -/
theorem eq_of_text {a b : Value} {s : String} (ha : a.isSimple = true) (hb : b.isSimple = true)
    (hatext : a.text = some s) (hbtext : b.text = some s) (hastr : a ≠ .str s)
    (hbstr : b ≠ .str s) : a = b := by
  have h := ofWord_of_text ha hatext hastr
  rw [ofWord_of_text hb hbtext hbstr] at h
  exact (Option.some.inj h).symm

theorem same_self_of_isSimple {v : Value} (hv : v.isSimple = true) : v.same v = true := by
  cases v with
  | null | bool _ | int _ | str _ => simp [Value.same]
  | _ => cases hv

theorem written_eq_ok_iff {v : Value} {s : String} : v.written = .ok s ↔ v.text = some s := by
  unfold written
  cases v.text with
  | some t =>
      constructor
      · intro h
        exact congrArg some (Except.ok.inj h)
      · intro h
        exact congrArg Except.ok (Option.some.inj h)
  | none => exact ⟨nofun, nofun⟩

end Value

/-! ## What is read from a manifest -/

theorem repeatedName_eq_none_iff {seen names : List String} :
    repeatedName seen names = none ↔ names.Nodup ∧ ∀ name ∈ names, name ∉ seen := by
  induction names generalizing seen with
  | nil => simp [repeatedName]
  | cons name rest ih =>
      rw [repeatedName]
      by_cases hseen : name ∈ seen
      · simp [hseen]
      · rw [if_neg hseen, ih, List.nodup_cons]
        constructor
        · rintro ⟨hrest, hapart⟩
          refine ⟨⟨?_, hrest⟩, ?_⟩
          · intro hmem
            exact hapart name hmem List.mem_cons_self
          · refine List.forall_mem_cons.mpr ⟨hseen, ?_⟩
            intro other hother hmem
            exact hapart other hother (List.mem_cons_of_mem name hmem)
        · rintro ⟨⟨hmem, hrest⟩, hapart⟩
          refine ⟨hrest, ?_⟩
          intro other hother hcons
          rcases List.mem_cons.mp hcons with rfl | hold
          · exact hmem hother
          · exact hapart other (List.mem_cons_of_mem name hother) hold

theorem Program.ofParams_eq_ok_iff {name : String} {params : List Parameter} {p : Program} :
    Program.ofParams name params = .ok p ↔ p = ⟨name, params⟩ ∧ (params.map (·.name)).Nodup := by
  have hapart : repeatedName [] (params.map (·.name)) = none ↔ (params.map (·.name)).Nodup := by
    simp [repeatedName_eq_none_iff]
  rw [← hapart, Program.ofParams]
  cases repeatedName [] (params.map (·.name)) with
  | some again => exact ⟨nofun, nofun⟩
  | none =>
      constructor
      · intro h
        exact ⟨(Except.ok.inj h).symm, rfl⟩
      · rintro ⟨rfl, -⟩
        rfl

namespace Manifest

variable {catalog : Catalog} {manifest : Value} {entries : List (Value × Value)}
  {ps : List Program}

/-- The program is named by the text of the key and has the parameters that are
listed under it, in their order; their names differ. -/
structure Reads (catalog : Catalog) (entry : Value × Value) (p : Program) : Prop where
  name : entry.1.text = some p.name
  params : ∃ items, entry.2.opened = .list items ∧ items.mapM (readEntry catalog) = .ok p.params
  apart : (p.params.map (·.name)).Nodup

theorem readProgram_eq_ok_iff {key v : Value} {p : Program} :
    readProgram catalog key v = .ok p ↔ Reads catalog (key, v) p := by
  constructor
  · intro h
    unfold readProgram at h
    split at h
    · rename_i items hopened
      obtain ⟨name, hname, h⟩ := bind_eq_ok_iff.mp h
      obtain ⟨params, hparams, h⟩ := bind_eq_ok_iff.mp h
      obtain ⟨rfl, hapart⟩ := Program.ofParams_eq_ok_iff.mp h
      exact ⟨Value.written_eq_ok_iff.mp hname, ⟨items, hopened, hparams⟩, hapart⟩
    · obtain ⟨_, -, h⟩ := bind_eq_ok_iff.mp h
      cases h
  · rintro ⟨hname, ⟨items, hopened, hparams⟩, hapart⟩
    unfold readProgram
    simp only [hopened]
    refine bind_eq_ok_iff.mpr ⟨_, Value.written_eq_ok_iff.mpr hname, ?_⟩
    refine bind_eq_ok_iff.mpr ⟨_, hparams, ?_⟩
    exact Program.ofParams_eq_ok_iff.mpr ⟨rfl, hapart⟩

theorem programs_eq_ok_iff : programs catalog manifest = .ok ps ↔
    ∃ entries, programEntries manifest = .ok entries ∧
      List.Forall₂ (Reads catalog) entries ps := by
  unfold programs
  rw [bind_eq_ok_iff]
  simp only [mapM_eq_ok_iff, readProgram_eq_ok_iff]

theorem reads_singleton {key entry : Value} {name : String} {p : Parameter}
    (hkey : key.text = some name) (hentry : readEntry catalog entry = .ok p) :
    Reads catalog (key, .list [entry]) ⟨name, [p]⟩ :=
  ⟨hkey, ⟨_, rfl, mapM_eq_ok_iff.mpr (.cons hentry .nil)⟩, List.nodup_singleton _⟩

theorem map_text_of_reads (h : List.Forall₂ (Reads catalog) entries ps) :
    entries.map (·.1.text) = (ps.map (·.name)).map some := by
  induction h with
  | nil => rfl
  | cons hp _ ih => rw [List.map_cons, List.map_cons, List.map_cons, hp.name, ih]

/-- The names differ exactly if the texts of the keys do. -/
theorem nodup_names_iff (h : List.Forall₂ (Reads catalog) entries ps) :
    (ps.map (·.name)).Nodup ↔ (entries.map (·.1.text)).Nodup := by
  rw [map_text_of_reads h]
  exact (List.nodup_map_iff fun _ _ => Option.some.inj).symm

/-- Of simple keys that differ two give one name exactly if one is text and spells
the other. -/
theorem nodup_names_iff_of_simple (h : List.Forall₂ (Reads catalog) entries ps)
    (hsimple : ∀ entry ∈ entries, entry.1.isSimple = true)
    (hdiffer : entries.Pairwise fun a b => a.1.same b.1 = false) :
    (ps.map (·.name)).Nodup ↔ ∀ a ∈ entries, ∀ b ∈ entries, ∀ s, a.1 = .str s →
      b.1.text = some s → b.1 = .str s := by
  rw [nodup_names_iff h]
  constructor
  · intro hnodup a ha b hb s hstr htext
    have htexts : a.1.text = b.1.text := by
      rw [hstr, htext]
      rfl
    rw [← List.inj_on_of_nodup_map hnodup ha hb htexts]
    exact hstr
  · intro hspelled
    refine List.pairwise_map.mpr (hdiffer.imp_of_mem ?_)
    intro a b ha hb hab htexts
    have hmem : a.1.text ∈ (ps.map (·.name)).map some :=
      map_text_of_reads h ▸ List.mem_map_of_mem ha
    obtain ⟨s, -, hs⟩ := List.mem_map.mp hmem
    have heq : a.1 = b.1 := by
      by_cases hastr : a.1 = .str s
      · rw [hastr, hspelled a ha b hb s hastr (htexts ▸ hs.symm)]
      · by_cases hbstr : b.1 = .str s
        · exact absurd (hspelled b hb a ha s hbstr hs.symm) hastr
        · exact Value.eq_of_text (hsimple a ha) (hsimple b hb) hs.symm (htexts ▸ hs.symm)
            hastr hbstr
    rw [heq, Value.same_self_of_isSimple (hsimple b hb)] at hab
    cases hab

end Manifest

namespace Generation

theorem map_name_byName (ps : List Program) :
    (byName ps).map (·.1) = (ps.map (·.name)).eraseDups := by
  rw [byName, Keyed.map_key_ofList, List.map_map]
  rfl

/-- No program gives way to another exactly if their names differ. -/
theorem byName_eq_iff {ps : List Program} :
    byName ps = ps.map (fun p => (p.name, p.params)) ↔ (ps.map (·.name)).Nodup := by
  rw [byName, Keyed.ofList_eq_self_iff, List.map_map]
  rfl

/-- Of programs with different names each has its text under its name. -/
theorem texts_byName_eq_ok {schedule : Schedule} {jobs : Int} {s : Settings} {ps : List Program}
    {result : List (String × String)} (hnames : (ps.map (·.name)).Nodup)
    (h : texts schedule jobs s (byName ps) = .ok result) :
    List.Forall₂ (fun p entry => entry.1 = p.name ∧
      Parameter.emitText s p.name p.params = .ok entry.2) ps result := by
  rw [texts_eq_sequential, byName_eq_iff.mpr hnames, sequential_eq_ok_iff] at h
  exact List.forall₂_map_left_iff.mp h

end Generation

namespace Manifest

variable {catalog : Catalog} {manifest : Value} {ps : List Program}

/-- **Programs are kept if their names differ.** A manifest that is accepted gives a
program for each entry, named by the text of its key. When they are put under their
names there is one entry for each different name, so each program is kept, with its
own parameters and with a section of its own in the code, exactly if the names differ.
They do unless two keys have the same text; and of keys that are null, truth values,
integers or text, and differ as keys, two have the same text exactly if one is text and
spells the other. -/
theorem programs_kept_iff_names_differ (h : programs catalog manifest = .ok ps) :
    ∃ entries, programEntries manifest = .ok entries ∧
      List.Forall₂ (Reads catalog) entries ps ∧
      (Generation.byName ps).map (·.1) = (ps.map (·.name)).eraseDups ∧
      (Generation.byName ps = ps.map (fun p => (p.name, p.params)) ↔ (ps.map (·.name)).Nodup) ∧
      ((ps.map (·.name)).Nodup ↔ (entries.map (·.1.text)).Nodup) ∧
      ((∀ entry ∈ entries, entry.1.isSimple = true) →
        entries.Pairwise (fun a b => a.1.same b.1 = false) →
        ((ps.map (·.name)).Nodup ↔ ∀ a ∈ entries, ∀ b ∈ entries, ∀ s, a.1 = .str s →
          b.1.text = some s → b.1 = .str s)) ∧
      ((ps.map (·.name)).Nodup → ∀ schedule jobs s result,
        Generation.texts schedule jobs s (Generation.byName ps) = .ok result →
        List.Forall₂ (fun p entry => entry.1 = p.name ∧
          Parameter.emitText s p.name p.params = .ok entry.2) ps result) := by
  obtain ⟨entries, hentries, hreads⟩ := programs_eq_ok_iff.mp h
  refine ⟨entries, hentries, hreads, Generation.map_name_byName ps, Generation.byName_eq_iff,
    nodup_names_iff hreads, nodup_names_iff_of_simple hreads, ?_⟩
  intro hnames schedule jobs s result htexts
  exact Generation.texts_byName_eq_ok hnames htexts

/-- A manifest of these programs. -/
def ofPrograms (entries : List (Value × Value)) : Value :=
  .mapping [(.str "programs", .mapping entries)]

/-- The entry of a required integer. -/
def integerEntry (name : String) : Value :=
  .mapping [(.str "name", .str name), (.str "type", .str "int"), (.str "required", .bool true)]

def integer (name : String) : Parameter :=
  { name, type := .plain "int" (.str "Int"), required := true }

theorem readEntry_a : readEntry Catalog.standard (integerEntry "a") = .ok (integer "a") := by
  cbv

theorem readEntry_b : readEntry Catalog.standard (integerEntry "b") = .ok (integer "b") := by
  cbv

theorem text_one : (Value.int 1).text = some "1" :=
  Value.text_int Value.one_lt_unwritable

/-- The programs `1` and `fit` of a manifest are both kept: its keys, a number and a text
that is not its digits, differ and so do their texts. -/
theorem kept_one_fit :
    programs Catalog.standard
      (ofPrograms [(.int 1, .list [integerEntry "a"]), (.str "fit", .list [integerEntry "b"])]) =
      .ok [⟨"1", [integer "a"]⟩, ⟨"fit", [integer "b"]⟩] ∧
    Generation.byName [⟨"1", [integer "a"]⟩, ⟨"fit", [integer "b"]⟩] =
      [("1", [integer "a"]), ("fit", [integer "b"])] := by
  have h : programs Catalog.standard
      (ofPrograms [(.int 1, .list [integerEntry "a"]), (.str "fit", .list [integerEntry "b"])]) =
      .ok [⟨"1", [integer "a"]⟩, ⟨"fit", [integer "b"]⟩] :=
    programs_eq_ok_iff.mpr ⟨_, by cbv, .cons (reads_singleton text_one readEntry_a)
      (.cons (reads_singleton rfl readEntry_b) .nil)⟩
  obtain ⟨_, -, -, -, hkept, -⟩ := programs_kept_iff_names_differ h
  exact ⟨h, hkept.mpr (by decide)⟩

/-- The number 1 and the text that spells it are different keys of a manifest that is
accepted. Both programs are named `1`, the second takes the place of the first, and the
code has only the second one's section. -/
theorem one_of_two_kept :
    (Value.int 1).same (.str "1") = false ∧
    programs Catalog.standard
      (ofPrograms [(.int 1, .list [integerEntry "a"]), (.str "1", .list [integerEntry "b"])]) =
      .ok [⟨"1", [integer "a"]⟩, ⟨"1", [integer "b"]⟩] ∧
    Generation.byName [⟨"1", [integer "a"]⟩, ⟨"1", [integer "b"]⟩] = [("1", [integer "b"])] ∧
    (Generation.texts .inOrder 1 {} [("1", [integer "b"])]).map Generation.render =
      .ok "# 1\n  Store(\"b\", convert(Int, b))\n" := by
  refine ⟨by cbv, ?_, by rfl, by cbv⟩
  exact programs_eq_ok_iff.mpr ⟨_, by cbv, .cons (reads_singleton text_one readEntry_a)
    (.cons (reads_singleton rfl readEntry_b) .nil)⟩

end Manifest

end InputBindings
