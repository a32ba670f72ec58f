import InputBindings.Proofs.Action
import InputBindings.Proofs.Manifest.Names
import InputBindings.Session

/-!
# Generating a selection of programs

A request may name the programs that it wants. A name that is not there ends it before
anything is announced or rendered. Otherwise generating goes on with the programs that
are named, in the order of the manifest, and what comes of it is made of their texts
alone: the other programs, the count of workers, and the order in which names are given
and how often leave no trace.

Main statement: `generate_of_selection`.
-/

namespace InputBindings.Command

open Traversal

variable {loader : Loader} {names : List String} {ps : List Program} {settings : Settings}
  {s : Session} {r : GenerateRequest} {jobs : Int}

/-! ## What is selected -/

/-- The programs whose names are among the given ones, all if none are given. -/
def chosen (names : List String) (ps : List Program) : List Program :=
  ps.filter fun p => names.isEmpty || names.contains p.name

theorem chosen_nil : chosen [] ps = ps := by
  simp [chosen]

theorem nodup_chosen (hnames : (ps.map (·.name)).Nodup) :
    ((chosen names ps).map (·.name)).Nodup :=
  hnames.sublist (List.filter_sublist.map _)

/-- Neither the order in which names are given nor how often matters. -/
theorem chosen_eq_of_mem_iff {names' : List String}
    (h : ∀ name, name ∈ names ↔ name ∈ names') : chosen names ps = chosen names' ps := by
  have hempty : names = [] ↔ names' = [] := by
    rw [List.eq_nil_iff_forall_not_mem, List.eq_nil_iff_forall_not_mem]
    exact forall_congr' fun name => not_congr (h name)
  unfold chosen
  refine List.filter_congr fun p _ => ?_
  rw [Bool.eq_iff_iff]
  simp only [Bool.or_eq_true, List.isEmpty_iff, List.contains_iff_mem, hempty, h]

theorem select_of_unknown (h : ∃ name ∈ names, name ∉ ps.map (·.name)) :
    select names ps = .error (.unknownPrograms
      (names.filter fun name => !(ps.map (·.name)).contains name) (ps.map (·.name))) := by
  obtain ⟨name, hname, hunknown⟩ := h
  have hmissing : name ∈ names.filter fun name => !(ps.map (·.name)).contains name := by
    rw [List.mem_filter]
    exact ⟨hname, by simpa using hunknown⟩
  unfold select
  rw [if_neg (by simpa using List.ne_nil_of_mem hname)]
  exact if_neg (by simpa using List.ne_nil_of_mem hmissing)

theorem select_of_known (h : ∀ name ∈ names, name ∈ ps.map (·.name)) :
    select names ps = .ok (chosen names ps) := by
  unfold select
  by_cases hempty : names = []
  · rw [hempty, chosen_nil]
    rfl
  · have hmissing : names.filter (fun name => !(ps.map (·.name)).contains name) = [] := by
      rw [List.filter_eq_nil_iff]
      intro name hname
      simpa using h name hname
    have hsome : names.isEmpty = false := by simpa using hempty
    rw [hsome, if_neg Bool.false_ne_true]
    refine (if_pos (by rw [hmissing]; rfl)).trans ?_
    simp only [chosen, hsome, Bool.false_or]
    rfl

/-! ## What is rendered -/

/-- The code of programs, each rendered by itself, or the error of the first that has
none. -/
def codeOf (settings : Settings) (ps : List Program) : Except Error String :=
  (Generation.sequential settings (ps.map fun p => (p.name, p.params))).map Generation.render

/-- The session after the programs have been announced. -/
def announced (ps : List Program) (s : Session) : Session :=
  ((ExceptT.run (announce ps)).run s).2

theorem run_announce : (ExceptT.run (announce ps)).run s = (.ok (), announced ps s) := rfl

theorem run_ofExcept {α : Type} (x : Except Error α) :
    (ExceptT.run (ofExcept x)).run s = (x, s) := rfl

theorem run_deliver_none (code : String) :
    (ExceptT.run (deliver code none)).run s = (.ok (), { s with output := s.output ++ code }) :=
  rfl

/-- Each program has a text by itself, and these are the texts under the names. -/
def Rendered (settings : Settings) (ps : List Program) (result : List (String × String)) : Prop :=
  List.Forall₂ (fun p entry => entry.1 = p.name ∧
    Parameter.emitText settings p.name p.params = .ok entry.2) ps result

theorem codeOf_eq_ok_iff {code : String} : codeOf settings ps = .ok code ↔
    ∃ result, Rendered settings ps result ∧ Generation.render result = code := by
  have hrendered : ∀ result, Generation.sequential settings
      (ps.map fun p => (p.name, p.params)) = .ok result ↔ Rendered settings ps result := by
    intro result
    rw [Generation.sequential_eq_ok_iff, List.forall₂_map_left_iff]
    exact Iff.rfl
  unfold codeOf
  simp only [← hrendered]
  cases Generation.sequential settings (ps.map fun p => (p.name, p.params)) with
  | error e => simp [Except.map]
  | ok result => simp [Except.map]

theorem codeOf_of_first_failure {before after : List Program} {p : Program} {e : Error}
    (hbefore : ∀ q ∈ before, ∃ text, Parameter.emitText settings q.name q.params = .ok text)
    (hp : Parameter.emitText settings p.name p.params = .error e) :
    codeOf settings (before ++ p :: after) = .error e := by
  refine map_eq_error_iff.mpr (Generation.sequential_eq_error_iff.mpr ?_)
  rw [List.map_append, List.map_cons]
  refine ⟨_, _, _, rfl, ?_, hp⟩
  intro earlier hearlier
  obtain ⟨q, hq, rfl⟩ := List.mem_map.mp hearlier
  exact hbefore q hq

theorem exists_codeOf_iff : (∃ code, codeOf settings ps = .ok code) ↔
    ∀ p ∈ ps, ∃ text, Parameter.emitText settings p.name p.params = .ok text := by
  rw [codeOf, exists_map_eq_ok_iff, Generation.sequential_eq_mapM, exists_mapM_eq_ok_iff,
    List.forall_mem_map]
  simp only [exists_map_eq_ok_iff]

/-! ## What comes of a request -/

/-- An action that goes on with a result succeeds exactly if there is one and what follows
succeeds. -/
theorem succeeds_iff {α β : Type} {x : Except Error α} {next : α → Command β} {y : β} :
    ((ExceptT.run (ofExcept x >>= next)).run s).1 = .ok y ↔
      ∃ a, x = .ok a ∧ ((ExceptT.run (next a)).run s).1 = .ok y := by
  cases x with
  | error e =>
      rw [run_bind_of_error (run_ofExcept _)]
      simp
  | ok a =>
      rw [run_bind_of_ok (run_ofExcept _)]
      simp

theorem run_generate_of_unknown
    (hload : Manifest.load s.files Catalog.standard r.manifest loader = .ok ps)
    (hnames : r.programs.getD [] = names)
    (hunknown : ∃ name ∈ names, name ∉ ps.map (·.name)) :
    (ExceptT.run (generate settings r loader)).run s =
      (.error (.unknownPrograms
        (names.filter fun name => !(ps.map (·.name)).contains name) (ps.map (·.name))), s) := by
  unfold generate
  rw [hnames]
  rw [run_bind_of_ok (run_get s), run_bind_of_ok ((run_ofExcept _).trans (by rw [hload])),
    run_bind_of_error ((run_ofExcept _).trans (by rw [select_of_unknown hunknown]))]

/-- Once the selection is known to be there, only the programs that are selected and the
place of the output count. -/
theorem run_generate_of_known (settings : Settings)
    (hload : Manifest.load s.files Catalog.standard r.manifest loader = .ok ps)
    (hapart : (ps.map (·.name)).Nodup) (hjobs : r.jobs = .value jobs)
    (hnames : r.programs.getD [] = names) (hknown : ∀ name ∈ names, name ∈ ps.map (·.name)) :
    (ExceptT.run (generate settings r loader)).run s =
      (ExceptT.run (ofExcept (codeOf settings (chosen names ps)) >>= fun code =>
        deliver code r.output)).run (announced (chosen names ps) s) := by
  have hget : r.jobs.get = .ok jobs := by
    rw [hjobs]
    rfl
  unfold generate
  rw [run_bind_of_ok (run_get s), run_bind_of_ok ((run_ofExcept _).trans (by rw [hload])), hnames,
    run_bind_of_ok ((run_ofExcept _).trans (by rw [select_of_known hknown])),
    run_bind_of_ok run_announce, run_bind_of_ok ((run_ofExcept _).trans (by rw [hget])),
    Generation.texts_eq_sequential, Generation.byName_eq_iff.mpr (nodup_chosen hapart), codeOf]
  cases Generation.sequential settings ((chosen names ps).map fun p => (p.name, p.params)) <;> rfl

/-- **Selecting is leaving out.** Take any loader and a manifest that it makes of a file.
A request for a program that the manifest does not have fails with a reported error,
whatever the settings and the count of workers, and leaves the session as it was. Any other
request announces the programs that are selected and delivers their texts, in the order of
the manifest, each the one that the program has by itself; if some of them have none, it
fails with the error of the first one instead. So it succeeds exactly if all that are
selected have texts and these can be delivered, as on the standard output they always can.
Requests that select the same programs for the same place come to the same, whatever they
say of the count of workers, whatever else their manifests have, and however they spell the
selection; and of the spelling only matters which names are in it, where none at all stand
for all. Printing is taken to succeed: that a screen reads styles in names, and may fail at
that, is left out. -/
theorem generate_of_selection
    (hload : Manifest.load s.files Catalog.standard r.manifest loader = .ok ps)
    (hapart : (ps.map (·.name)).Nodup) (hjobs : r.jobs = .value jobs)
    (hnames : r.programs.getD [] = names) :
    ((∃ name ∈ names, name ∉ ps.map (·.name)) →
      ∃ e : Error, e.isReported = true ∧
        e = .unknownPrograms (names.filter fun name => !(ps.map (·.name)).contains name)
          (ps.map (·.name)) ∧
        ∀ settings, (ExceptT.run (generate settings r loader)).run s = (.error e, s)) ∧
    ((∀ name ∈ names, name ∈ ps.map (·.name)) →
      (∀ result, Rendered settings (chosen names ps) result →
        (ExceptT.run (generate settings r loader)).run s =
          (ExceptT.run (deliver (Generation.render result) r.output)).run
            (announced (chosen names ps) s) ∧
        (r.output = none → (ExceptT.run (generate settings r loader)).run s =
          (.ok (), { announced (chosen names ps) s with
            output := s.output ++ Generation.render result }))) ∧
      (∀ before p after e, chosen names ps = before ++ p :: after →
        (∀ q ∈ before, ∃ text, Parameter.emitText settings q.name q.params = .ok text) →
        Parameter.emitText settings p.name p.params = .error e →
        (ExceptT.run (generate settings r loader)).run s =
          (.error e, announced (chosen names ps) s)) ∧
      (((ExceptT.run (generate settings r loader)).run s).1 = .ok () ↔
        ∃ result, Rendered settings (chosen names ps) result ∧
          ((ExceptT.run (deliver (Generation.render result) r.output)).run
            (announced (chosen names ps) s)).1 = .ok ()) ∧
      (r.output = none →
        (((ExceptT.run (generate settings r loader)).run s).1 = .ok () ↔
          ∀ p ∈ chosen names ps, ∃ text,
            Parameter.emitText settings p.name p.params = .ok text)) ∧
      (∀ r' ps' jobs' names',
        Manifest.load s.files Catalog.standard r'.manifest loader = .ok ps' →
        (ps'.map (·.name)).Nodup → r'.jobs = .value jobs' → r'.programs.getD [] = names' →
        (∀ name ∈ names', name ∈ ps'.map (·.name)) → r'.output = r.output →
        chosen names' ps' = chosen names ps →
        (ExceptT.run (generate settings r' loader)).run s =
          (ExceptT.run (generate settings r loader)).run s)) ∧
    (∀ names', (∀ name, name ∈ names' ↔ name ∈ names) → chosen names' ps = chosen names ps) ∧
    chosen [] ps = ps := by
  refine ⟨?_, ?_, fun _ => chosen_eq_of_mem_iff, chosen_nil⟩
  · intro hunknown
    exact ⟨_, rfl, rfl, fun _ => run_generate_of_unknown hload hnames hunknown⟩
  intro hknown
  have hrun := run_generate_of_known settings hload hapart hjobs hnames hknown
  refine ⟨?_, ?_, ?_, ?_, ?_⟩
  · intro result hresult
    have hdeliver : (ExceptT.run (generate settings r loader)).run s =
        (ExceptT.run (deliver (Generation.render result) r.output)).run
          (announced (chosen names ps) s) := by
      rw [hrun, codeOf_eq_ok_iff.mpr ⟨result, hresult, rfl⟩]
      exact run_bind_of_ok (run_ofExcept _)
    refine ⟨hdeliver, ?_⟩
    intro houtput
    rw [hdeliver, houtput]
    exact run_deliver_none _
  · intro before p after e hchosen hbefore hp
    rw [hrun, hchosen, codeOf_of_first_failure hbefore hp]
    exact run_bind_of_error (run_ofExcept _)
  · rw [hrun, succeeds_iff]
    simp only [codeOf_eq_ok_iff]
    constructor
    · rintro ⟨_, ⟨result, hresult, rfl⟩, hdeliver⟩
      exact ⟨result, hresult, hdeliver⟩
    · rintro ⟨result, hresult, hdeliver⟩
      exact ⟨_, ⟨result, hresult, rfl⟩, hdeliver⟩
  · intro houtput
    rw [hrun, houtput, succeeds_iff, ← exists_codeOf_iff]
    constructor
    · rintro ⟨code, hcode, -⟩
      exact ⟨code, hcode⟩
    · rintro ⟨code, hcode⟩
      exact ⟨code, hcode, rfl⟩
  · intro r' ps' jobs' names' hload' hapart' hjobs' hnames' hknown' houtput hchosen
    rw [hrun, run_generate_of_known settings hload' hapart' hjobs' hnames' hknown', houtput,
      hchosen]

/-- A manifest of two programs; the parameter of the second one has a name that cannot be
stored. -/
def fitAndRun : String :=
  "\x7b\"programs\": \x7b\"fit\": [\x7b\"name\": \"a\", \"type\": \"int\"\x7d], " ++
    "\"run\": [\x7b\"name\": \"a-b\", \"type\": \"int\"\x7d]\x7d\x7d"

/-- The file `m` holds that manifest. -/
def fitAndRunFiles : Files := ({} : Files).put "m" (.file fitAndRun.toUTF8)

def optionalInteger (name : String) : Parameter := { name, type := .plain "int" (.str "Int") }

theorem source_fitAndRun : Yaml.Source.ofBytes fitAndRun.toUTF8 = ⟨fitAndRun.toList, none⟩ := by
  have hparts : (Yaml.Source.ofBytes fitAndRun.toUTF8).chars = fitAndRun.toList ∧
      (Yaml.Source.ofBytes fitAndRun.toUTF8).cut = none := by decide +kernel
  cases hsource : Yaml.Source.ofBytes fitAndRun.toUTF8 with
  | mk chars cut =>
      rw [hsource] at hparts
      rw [← hparts.1, ← hparts.2]

theorem load_fitAndRun : Manifest.load fitAndRunFiles Catalog.standard "m" =
    .ok [⟨"fit", [optionalInteger "a"]⟩, ⟨"run", [optionalInteger "a-b"]⟩] := by
  have hread : fitAndRunFiles.read "m" = .ok fitAndRun.toUTF8 := by cbv
  have hvalue : Yaml.value ⟨fitAndRun.toList, none⟩ = .ok (Manifest.ofPrograms
      [(.str "fit", .list [.mapping [(.str "name", .str "a"), (.str "type", .str "int")]]),
       (.str "run", .list [.mapping [(.str "name", .str "a-b"), (.str "type", .str "int")]])]) := by
    cbv
  unfold Manifest.load Files.document Loader.yaml
  simp only [hread, source_fitAndRun, hvalue]
  cbv

/-- With the loader of YAML documents, the first program is generated by itself, however often
it is named, although the second one cannot be. -/
theorem fit_generated_alone :
    Parameter.emitText {} "run" [optionalInteger "a-b"] = .error (.notIdentifier "a-b") ∧
    (ExceptT.run (generate {} { manifest := "m", programs := some ["fit", "fit"] })).run
        { files := fitAndRunFiles } =
      (.ok (), { announced [⟨"fit", [optionalInteger "a"]⟩] { files := fitAndRunFiles } with
        output := "# fit\n  if a !== nothing\n    Store(\"a\", convert(Int, a))\n  end\n" }) := by
  have hrendered : Rendered {} [⟨"fit", [optionalInteger "a"]⟩]
      [("fit", "  if a !== nothing\n    Store(\"a\", convert(Int, a))\n  end\n")] :=
    .cons ⟨rfl, by rfl⟩ .nil
  obtain ⟨-, hknown, -⟩ := generate_of_selection (s := { files := fitAndRunFiles })
    (r := { manifest := "m", programs := some ["fit", "fit"] }) load_fitAndRun (by decide) rfl rfl
  exact ⟨by rfl, ((hknown (by decide)).1 _ hrendered).2 rfl⟩

end InputBindings.Command
