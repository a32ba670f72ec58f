import InputBindings.Proofs.Files
import InputBindings.Proofs.Selection

/-!
# What a run leaves behind

A request to generate is read off the files first: settings, manifest, selection, and
then the texts of all programs. On the way only the console changes. The code is
delivered in one last step, to the standard output or to one file, so a request that
fails on the way leaves no other trace, and one that succeeds leaves a single one.

Main statement: `failed_run_writes_nothing`.
-/

namespace InputBindings.Command

open Traversal

variable {loader : Loader} {fs : Files} {r : GenerateRequest} {s : Session} {code : String}

/-! ## What can fail on the way -/

/-- The settings that a request is made with, given what files are loaded with. -/
def settingsFor (loader : Loader) (fs : Files) (r : GenerateRequest) : Except Error Settings :=
  r.config.mapM Given.get >>= fun path => Settings.load fs path loader

/-- The code that a request asks for. -/
def codeFor (loader : Loader) (fs : Files) (r : GenerateRequest) : Except Error String := do
  let settings ← settingsFor loader fs r
  let ps ← Manifest.load fs Catalog.standard r.manifest loader
  let chosen ← select (r.programs.getD []) ps
  let jobs ← r.jobs.get
  let texts ← Generation.texts .inOrder jobs settings (Generation.byName chosen)
  return Generation.render texts

/-- A request that comes to no code: the settings or the manifest cannot be loaded, the
selection names what is not there, the count of workers is missing, or one of the
programs that are selected cannot be rendered. -/
inductive Fails (loader : Loader) (fs : Files) (r : GenerateRequest) : Prop where
  | settings {e : Error} (h : settingsFor loader fs r = .error e)
  | manifest {e : Error} (h : Manifest.load fs Catalog.standard r.manifest loader = .error e)
  | selection {ps : List Program} {e : Error}
      (load : Manifest.load fs Catalog.standard r.manifest loader = .ok ps)
      (h : select (r.programs.getD []) ps = .error e)
  | jobs {e : Error} (h : r.jobs.get = .error e)
  | program {settings : Settings} {ps chosen : List Program}
      {program : String × List Parameter} {e : Error}
      (settings_eq : settingsFor loader fs r = .ok settings)
      (load : Manifest.load fs Catalog.standard r.manifest loader = .ok ps)
      (selected : select (r.programs.getD []) ps = .ok chosen)
      (mem : program ∈ Generation.byName chosen)
      (h : Parameter.emitText settings program.1 program.2 = .error e)

theorem exists_texts_eq_error_iff {schedule : Schedule} {jobs : Int} {settings : Settings}
    {programs : List (String × List Parameter)} :
    (∃ e, Generation.texts schedule jobs settings programs = .error e) ↔
      ∃ program ∈ programs, ∃ e, Parameter.emitText settings program.1 program.2 = .error e := by
  rw [Generation.texts_eq_sequential, Generation.sequential_eq_mapM, exists_eq_error_iff,
    exists_mapM_eq_ok_iff]
  simp only [exists_map_eq_ok_iff, exists_eq_error_iff, not_forall, exists_prop]

theorem codeFor_eq_ok_iff : codeFor loader fs r = .ok code ↔
    ∃ settings, settingsFor loader fs r = .ok settings ∧
    ∃ ps, Manifest.load fs Catalog.standard r.manifest loader = .ok ps ∧
    ∃ chosen, select (r.programs.getD []) ps = .ok chosen ∧
    ∃ jobs, r.jobs.get = .ok jobs ∧
    ∃ texts, Generation.texts .inOrder jobs settings (Generation.byName chosen) = .ok texts ∧
      Generation.render texts = code := by
  unfold codeFor
  simp only [bind_eq_ok_iff]
  simp [pure, Except.pure]

theorem fails_iff : Fails loader fs r ↔ ∃ e, codeFor loader fs r = .error e := by
  constructor
  · intro h
    rw [exists_eq_error_iff]
    rintro ⟨code, hcode⟩
    obtain ⟨settings, hsettings, ps, hload, chosen, hselect, jobs, hjobs, texts, htexts, -⟩ :=
      codeFor_eq_ok_iff.mp hcode
    cases h with
    | settings h => cases h.symm.trans hsettings
    | manifest h => cases h.symm.trans hload
    | selection hload' h =>
        cases hload'.symm.trans hload
        cases h.symm.trans hselect
    | jobs h => cases h.symm.trans hjobs
    | program hsettings' hload' hselect' hmem h =>
        cases hsettings'.symm.trans hsettings
        cases hload'.symm.trans hload
        cases hselect'.symm.trans hselect
        obtain ⟨e, he⟩ := exists_texts_eq_error_iff.mpr ⟨_, hmem, _, h⟩
        cases he.symm.trans htexts
  · rintro ⟨e, h⟩
    rcases bind_eq_error_iff.mp h with hsettings | ⟨settings, hsettings, h⟩
    · exact .settings hsettings
    rcases bind_eq_error_iff.mp h with hload | ⟨ps, hload, h⟩
    · exact .manifest hload
    rcases bind_eq_error_iff.mp h with hselect | ⟨chosen, hselect, h⟩
    · exact .selection hload hselect
    rcases bind_eq_error_iff.mp h with hjobs | ⟨jobs, hjobs, h⟩
    · exact .jobs hjobs
    rcases bind_eq_error_iff.mp h with htexts | ⟨texts, htexts, h⟩
    · obtain ⟨program, hmem, e, hprogram⟩ := exists_texts_eq_error_iff.mp ⟨e, htexts⟩
      exact .program hsettings hload hselect hmem hprogram
    · cases h

/-! ## The last step -/

/-- The action touches nothing but the console and then delivers the code, or fails as
the code does. -/
def Delivers (action : Command Unit) (code : Except Error String) (output : Option (Given String))
    (s : Session) : Prop :=
  ∃ console, (ExceptT.run action).run s =
    (ExceptT.run (ofExcept code >>= fun code => deliver code output)).run { s with console }

namespace Delivers

variable {output : Option (Given String)}

theorem deliver (code : String) :
    Delivers (Command.deliver code output) (pure code) output s :=
  ⟨s.console, (run_bind_of_ok (run_ofExcept _)).symm⟩

theorem ofExcept_bind {α : Type} {x : Except Error α} {next : α → Command Unit}
    {code : α → Except Error String} (h : ∀ a, Delivers (next a) (code a) output s) :
    Delivers (ofExcept x >>= next) (x >>= code) output s := by
  cases x with
  | error e =>
      refine ⟨s.console, ?_⟩
      rw [run_bind_of_error (run_ofExcept _)]
      exact (run_bind_of_error (run_ofExcept _)).symm
  | ok a =>
      obtain ⟨console, hnext⟩ := h a
      refine ⟨console, ?_⟩
      rw [run_bind_of_ok (run_ofExcept _), hnext]
      rfl

theorem get_bind {next : Session → Command Unit} {code : Except Error String}
    (h : Delivers (next s) code output s) : Delivers (get >>= next) code output s := by
  obtain ⟨console, hnext⟩ := h
  refine ⟨console, ?_⟩
  rw [run_bind_of_ok (run_get s), hnext]

theorem announce_bind {ps : List Program} {next : Unit → Command Unit} {code : Except Error String}
    (h : ∀ s', Delivers (next ()) code output s') :
    Delivers (announce ps >>= next) code output s := by
  obtain ⟨console, hnext⟩ := h (announced ps s)
  refine ⟨console, ?_⟩
  rw [run_bind_of_ok run_announce, hnext]
  rfl

end Delivers

/-- All that comes before the delivery of the code happens on the console. -/
theorem delivers_run (loader : Loader) (r : GenerateRequest) (s : Session) :
    Delivers (run (.generate r) loader) (codeFor loader s.files r) r.output s := by
  have hcode : codeFor loader s.files r = r.config.mapM Given.get >>= fun path =>
      Settings.load s.files path loader >>= fun settings =>
      Manifest.load s.files Catalog.standard r.manifest loader >>= fun ps =>
      select (r.programs.getD []) ps >>= fun chosen =>
      r.jobs.get >>= fun jobs =>
      Generation.texts .inOrder jobs settings (Generation.byName chosen) >>= fun texts =>
      pure (Generation.render texts) := by
    unfold codeFor settingsFor
    cases r.config.mapM Given.get <;> rfl
  rw [hcode]
  unfold run
  refine .ofExcept_bind fun path => .get_bind (.ofExcept_bind fun settings => ?_)
  show Delivers (generate settings r loader) _ _ _
  unfold generate
  refine .get_bind (.ofExcept_bind fun ps => .ofExcept_bind fun chosen => ?_)
  -- the code does not depend on what has been announced
  refine .announce_bind fun s' => .ofExcept_bind fun jobs => ?_
  exact .ofExcept_bind fun texts => .deliver _

theorem run_deliver_nothing (code : String) (s : Session) :
    (ExceptT.run (deliver code (some .nothing))).run s = (.error .nothingGiven, s) := rfl

theorem run_deliver_value (code path : String) (s : Session) :
    (ExceptT.run (deliver code (some (.value path)))).run s =
      (ExceptT.run (ofExcept (s.files.writeChanged path code) >>= fun files =>
        (modify fun s => { s with files }) >>= fun _ =>
          print ("[green]Generated[/green] " ++ path))).run s := rfl

theorem run_deliver_some (code : String) (given : Given String) (s : Session) :
    (∃ e, (ExceptT.run (deliver code (some given))).run s = (.error e, s)) ∨
      ∃ path files console, given = .value path ∧ s.files.writeChanged path code = .ok files ∧
        (ExceptT.run (deliver code (some given))).run s = (.ok (), { s with files, console }) := by
  cases given with
  | nothing => exact Or.inl ⟨_, run_deliver_nothing code s⟩
  | value path =>
      rw [run_deliver_value]
      cases hwrite : s.files.writeChanged path code with
      | error e => exact Or.inl ⟨e, run_bind_of_error (run_ofExcept _)⟩
      | ok files =>
          refine Or.inr ⟨path, files, s.console.print ("[green]Generated[/green] " ++ path), rfl,
            hwrite, ?_⟩
          rw [run_bind_of_ok (run_ofExcept _)]
          rfl

/-! ## Whole runs -/

theorem perform_of_error {request : Request} {e : Error} {v : Session}
    (h : (ExceptT.run (run request loader)).run s = (.error e, v)) :
    Session.perform request s loader = ({ v with console := Session.report e v.console }, 1) := by
  unfold Session.perform
  rw [h]

theorem perform_of_ok {request : Request} {v : Session}
    (h : (ExceptT.run (run request loader)).run s = (.ok (), v)) :
    Session.perform request s loader = (v, 0) := by
  unfold Session.perform
  rw [h]

theorem perform_of_fails (h : Fails loader s.files r) :
    ∃ console, Session.perform (.generate r) s loader = ({ s with console }, 1) := by
  obtain ⟨e, hcode⟩ := fails_iff.mp h
  obtain ⟨console, hrun⟩ := delivers_run loader r s
  rw [hcode, run_bind_of_error (run_ofExcept _)] at hrun
  have hperform := perform_of_error hrun
  exact ⟨_, hperform⟩

/-- A run that comes to code ends as its delivery does. -/
theorem run_of_codeFor (h : codeFor loader s.files r = .ok code) :
    ∃ console, (ExceptT.run (run (.generate r) loader)).run s =
      (ExceptT.run (deliver code r.output)).run { s with console } := by
  obtain ⟨console, hrun⟩ := delivers_run loader r s
  rw [h, run_bind_of_ok (run_ofExcept _)] at hrun
  exact ⟨console, hrun⟩

theorem exists_codeFor_of_not_fails (h : ¬Fails loader s.files r) :
    ∃ code, codeFor loader s.files r = .ok code := by
  rw [fails_iff, exists_eq_error_iff] at h
  exact not_not.mp h

/-- With an output file, a run ends well exactly if the file can be written, and then
nothing but the files and the console has changed. -/
theorem perform_of_output {given : Given String} (hcode : codeFor loader s.files r = .ok code)
    (houtput : r.output = some given) :
    (∃ console, Session.perform (.generate r) s loader = ({ s with console }, 1)) ∨
      ∃ path files console, given = .value path ∧ s.files.writeChanged path code = .ok files ∧
        Session.perform (.generate r) s loader = ({ s with files, console }, 0) := by
  obtain ⟨console, hrun⟩ := run_of_codeFor hcode
  rw [houtput] at hrun
  rcases run_deliver_some code given { s with console } with
    ⟨e, hdeliver⟩ | ⟨path, files, console', hgiven, hwrite, hdeliver⟩
  · have hperform := perform_of_error (hrun.trans hdeliver)
    exact Or.inl ⟨_, hperform⟩
  · exact Or.inr ⟨path, files, console', hgiven, hwrite, perform_of_ok (hrun.trans hdeliver)⟩

/-- **A failed run writes nothing.** Take any loader. If the settings or the manifest cannot
be loaded, the selection is not there, or one of the selected programs cannot be rendered,
the run exits with one and all files and the standard output are as they were. Otherwise
there is code. Without an output file the run then exits with zero, the code follows on the
standard output and no file has changed. With one, the standard output is as it was, and if
the run exits with zero, the code stands where the path of the file leads, up to the
spelling of line ends, everything else stands where it stood, and every path that leads
elsewhere reads as before. Printing is taken to succeed: texts are handed to the console as
they are, and that a screen reads styles in names and paths, and may fail at that, is left
out. -/
theorem failed_run_writes_nothing (loader : Loader) (r : GenerateRequest) (s : Session) :
    (Fails loader s.files r → ∃ console,
      Session.perform (.generate r) s loader = ({ s with console }, 1)) ∧
    (¬Fails loader s.files r → ∃ code, codeFor loader s.files r = .ok code ∧
      (r.output = none → ∃ console, Session.perform (.generate r) s loader =
        ({ s with console, output := s.output ++ code }, 0)) ∧
      ∀ given, r.output = some given →
        (∃ console, Session.perform (.generate r) s loader = ({ s with console }, 1)) ∨
        ∃ path place content after console, given = .value path ∧
          s.files.place path = .ok place ∧
          Session.perform (.generate r) s loader = ({ s with files := after, console }, 0) ∧
          after.entry? place = some (.file content) ∧
          (content = code.toUTF8 ∨ Files.decode content = .ok code) ∧
          (∀ other, other ≠ place → after.entry? other = s.files.entry? other) ∧
          ∀ other text, s.files.place other ≠ .ok place →
            (after.read other = .ok text ↔ s.files.read other = .ok text)) := by
  refine ⟨perform_of_fails, fun hfails => ?_⟩
  obtain ⟨code, hcode⟩ := exists_codeFor_of_not_fails hfails
  refine ⟨code, hcode, ?_, ?_⟩
  · intro houtput
    obtain ⟨console, hrun⟩ := run_of_codeFor hcode
    rw [houtput, run_deliver_none] at hrun
    exact ⟨console, perform_of_ok hrun⟩
  · intro given houtput
    rcases perform_of_output hcode houtput with hone | ⟨path, after, console, hgiven, hwrite, hzero⟩
    · exact Or.inl hone
    · obtain ⟨place, content, hplace, hentry, hcontent, hsame⟩ :=
        Files.sameElsewhere_of_writeChanged hwrite
      exact Or.inr ⟨path, place, content, after, console, hgiven, hplace, hzero, hentry, hcontent,
        hsame.entry, fun other text hother => hsame.read_eq_ok_iff hother⟩

end InputBindings.Command
