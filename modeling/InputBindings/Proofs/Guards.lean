import InputBindings.Proofs.Surface

/-!
# Guards

Whether a parameter is required shows in its guard and nowhere else. It is not asked for where a
parameter is refused, and the call inside a guard is that of a required parameter, one step further
to the right. So a list is compared with the one in which all parameters are required, and two
lists that differ in that respect only are compared with the same one. The one thing that can tell
them apart is the room to the right: there may be enough in front of a statement and not enough in
front of a call inside a guard.

Main statement: `required_only_guards`.
-/

namespace InputBindings.Parameter

open Writing

variable {p q : Parameter} {ps qs : List Parameter} {s : Settings} {program : String}

/-! ## Lists in which all is required -/

/-- The parameter, which must be given. -/
def require (p : Parameter) : Parameter := { p with required := true }

/-- The parameters differ at most in whether they must be given. -/
def SameButRequired (p q : Parameter) : Prop := q = { p with required := q.required }

theorem map_require_eq (h : List.Forall₂ SameButRequired ps qs) :
    qs.map require = ps.map require := by
  induction h with
  | nil => rfl
  | @cons p q ps qs hsame _ ih =>
      have hpq : q.require = p.require := by
        rw [hsame]
        rfl
      rw [List.map_cons, List.map_cons, hpq, ih]

/-! ## Lines without guards -/

/-- The lines of a list and those that are left without its guards: of an optional parameter the
guard and its end are gone, and the line between them stands a step further to the left. -/
inductive Unguards (s : Settings) : List Parameter → List String → List String → Prop where
  | nil : Unguards s [] [] []
  | required {p : Parameter} {ps : List Parameter} {lines bare : List String}
      (required : p.required = true) (line : String) (rest : Unguards s ps lines bare) :
      Unguards s (p :: ps) (line :: lines) (line :: bare)
  | guarded {p : Parameter} {ps : List Parameter} {lines bare : List String}
      (optional : p.required = false) (line : String) (rest : Unguards s ps lines bare) :
      Unguards s (p :: ps)
        ((spaces s.baseIndent ++ ("if " ++ p.name ++ " !== " ++ s.absent)) ::
          (spaces s.indentStep ++ line) :: (spaces s.baseIndent ++ "end") :: lines)
        (line :: bare)

theorem spaces_add {base step : Int} (hbase : 0 ≤ base) (hstep : 0 ≤ step) :
    spaces (base + step) = spaces step ++ spaces base := by
  have hsum : (base + step).toNat = step.toNat + base.toNat := by omega
  unfold spaces
  rw [hsum, List.replicate_add, String.ofList_append]

/-- A guarded call can be written where a statement can. -/
def Roomy (s : Settings) : Prop :=
  s.baseIndent ≤ maxIndentation → s.baseIndent + s.indentStep ≤ maxIndentation

theorem Passes.require {passage : Passage} (h : p.Passes passage) :
    p.require.Passes passage := by
  cases h with
  | plain hplain => exact .plain hplain
  | container hshape hcontainer helement => exact .container hshape hcontainer helement
  | model hmodel hunderlying hidentifier => exact .model hmodel hunderlying hidentifier

theorem Targets.require {target : String} (h : p.Targets target) : p.require.Targets target := by
  cases h with
  | own hgiven htext => exact .own hgiven htext
  | type hown hgiven htext => exact .type hown hgiven htext
  | array hown htype hcontainer helement hname =>
      exact .array hown htype hcontainer helement hname
  | model hown htype hmodel hidentifier => exact .model hown htype hmodel hidentifier

theorem Drafts.require {d : Draft} (h : p.Drafts d) :
    p.require.Drafts { d with required := true } :=
  ⟨h.checked, h.passage.require, h.name, h.target.require, rfl⟩

/-- The lines of a draft without its guard are those that it has if it must be given. -/
theorem unguards_lines {d : Draft} (h : p.Drafts d) (hbase : 0 ≤ s.baseIndent)
    (hstep : 0 ≤ s.indentStep) {ps : List Parameter} {lines bare : List String}
    (hrest : Unguards s ps lines bare) :
    Unguards s (p :: ps) (d.lines s s.baseIndent s.indentStep ++ lines)
      (Draft.lines { d with required := true } s s.baseIndent s.indentStep ++ bare) := by
  have hbare : Draft.lines { d with required := true } s s.baseIndent s.indentStep =
      [spaces s.baseIndent ++ (d.call s).text] := rfl
  have hguard : (d.call s).guard s = "if " ++ p.name ++ " !== " ++ s.absent := by
    rw [StoreCall.guard, Draft.call, h.name]
  have hspaces : spaces (s.baseIndent + s.indentStep) ++ (d.call s).text =
      spaces s.indentStep ++ (spaces s.baseIndent ++ (d.call s).text) := by
    rw [spaces_add hbase hstep, String.append_assoc]
  rw [hbare]
  unfold Draft.lines
  rw [h.required]
  cases hrequired : p.required with
  | true => exact .required hrequired _ hrest
  | false =>
      rw [hguard, hspaces]
      exact .guarded hrequired _ hrest

/-! ## A parameter and the one that must be given -/

/-- What a parameter comes to as it is and if it must be given: the same, where a guarded call has
room in front if a statement has; and if the one is written, the other one is what is left of it
without its guard. -/
def Pairs (s : Settings) (p : Parameter) : Prop :=
  ∃ result result' written bare,
    Writes (p.emit s) s.baseIndent s.indentStep result written ∧
    Writes (p.require.emit s) s.baseIndent s.indentStep result' bare ∧
    (Roomy s → result = result') ∧
    (result = .ok () → result' = .ok () ∧ ∀ {ps lines rest}, Unguards s ps lines rest →
      Unguards s (p :: ps) (written ++ lines) (bare ++ rest))

theorem pairs_of_refuses {e : Error} (h : p.Refuses e) (s : Settings) : Pairs s p := by
  have hrequire : p.require.Refuses e := h
  refine ⟨_, _, _, _, writes_emit_of_error (h s), writes_emit_of_error (hrequire s),
    fun _ => rfl, ?_⟩
  intro hok
  cases hok

theorem pairs_of_drafts {d : Draft} (h : p.Drafts d) (hbase : 0 ≤ s.baseIndent)
    (hstep : 0 ≤ s.indentStep) : Pairs s p := by
  have hleft := StoreCall.le_column hstep p.required s.baseIndent
  have hright := StoreCall.column_le hstep p.required s.baseIndent
  by_cases hdepth : s.baseIndent ≤ maxIndentation
  · have hbare : Writes (p.require.emit s) s.baseIndent s.indentStep _ _ :=
      h.require.writes_lines s ⟨hbase, hdepth⟩ ⟨hbase, hdepth⟩
    by_cases hinner : StoreCall.column p.required s.baseIndent s.indentStep ≤ maxIndentation
    · have hlines := h.writes_lines s ⟨hbase, hdepth⟩ ⟨by omega, hinner⟩
      refine ⟨_, _, _, _, hlines, hbare, fun _ => rfl, fun _ => ⟨rfl, ?_⟩⟩
      exact unguards_lines h hbase hstep
    · have hguard := h.writes_guard s ⟨hbase, hdepth⟩ (Int.not_le.mp hinner)
      refine ⟨_, _, _, _, hguard, hbare, fun hroomy => ?_, fun hok => ?_⟩
      · have hroom := hroomy hdepth
        omega
      · cases hok
  · have hwide := Int.not_le.mp hdepth
    refine ⟨_, _, _, _, h.writes_nothing s _ hwide, h.require.writes_nothing s _ hwide,
      fun _ => rfl, fun hok => ?_⟩
    cases hok

theorem pairs (p : Parameter) (hbase : 0 ≤ s.baseIndent) (hstep : 0 ≤ s.indentStep) :
    Pairs s p := by
  rcases p.refuses_or_drafts with ⟨e, hrefuses⟩ | ⟨d, hdrafts⟩
  · exact pairs_of_refuses hrefuses s
  · exact pairs_of_drafts hdrafts hbase hstep

/-! ## A list and the one in which all is required -/

/-- The induction carries the names that have occurred, which are the same for both lists. -/
theorem exists_writes_both (program : String) (seen : List String) (ps : List Parameter)
    (hbase : 0 ≤ s.baseIndent) (hstep : 0 ≤ s.indentStep) :
    ∃ result result' written bare,
      Writes (emitEach s program seen ps) s.baseIndent s.indentStep result written ∧
      Writes (emitEach s program seen (ps.map require)) s.baseIndent s.indentStep result' bare ∧
      (Roomy s → result = result') ∧
      (result = .ok () → result' = .ok () ∧ Unguards s ps written bare) := by
  induction ps generalizing seen with
  | nil =>
      exact ⟨_, _, _, _, writes_emitEach_nil seen, writes_emitEach_nil seen, fun _ => rfl,
        fun _ => ⟨rfl, .nil⟩⟩
  | cons p rest ih =>
      rw [List.map_cons]
      by_cases hseen : p.name ∈ seen
      · have hseen' : p.require.name ∈ seen := hseen
        refine ⟨_, _, _, _, writes_emitEach_repeated program rest hseen,
          writes_emitEach_repeated program (rest.map require) hseen', fun _ => rfl, ?_⟩
        intro hok
        cases hok
      have hseen' : p.require.name ∉ seen := hseen
      obtain ⟨result, result', written, bare, hp, hrequire, hsame, hwritten⟩ :=
        pairs p hbase hstep
      cases result with
      | error e =>
          cases result' with
          | error e' =>
              refine ⟨_, _, _, _, writes_emitEach_failing program rest hseen hp,
                writes_emitEach_failing program (rest.map require) hseen' hrequire, ?_, ?_⟩
              · intro hroomy
                rw [Except.error.inj (hsame hroomy)]
              · intro hok
                cases hok
          | ok _ =>
              -- Only a list without room for its guarded calls comes here.
              obtain ⟨result, more, hrest⟩ :=
                exists_writes_emitEach s program (p.require.name :: seen) (rest.map require)
                  s.baseIndent s.indentStep
              refine ⟨_, _, _, _, writes_emitEach_failing program rest hseen hp,
                writes_emitEach_cons hseen' hrequire hrest, ?_, ?_⟩
              · intro hroomy
                cases hsame hroomy
              · intro hok
                cases hok
      | ok _ =>
          obtain ⟨rfl, hguards⟩ := hwritten rfl
          obtain ⟨result, result', more, moreBare, hrest, hrest', hsame, hunguards⟩ :=
            ih (p.name :: seen)
          refine ⟨_, _, _, _, writes_emitEach_cons hseen hp hrest,
            writes_emitEach_cons hseen' hrequire hrest', hsame, fun hok => ?_⟩
          obtain ⟨hok', hmore⟩ := hunguards hok
          exact ⟨hok', hguards hmore⟩

/-- The list is written as these lines, to every sink. -/
def HasLines (s : Settings) (program : String) (ps : List Parameter) (lines : List String) :
    Prop :=
  ∀ w : Sink, (emitAll s program ps).run w =
    (.ok (Text.closedLines lines), { w with lines := w.lines ++ lines })

/-- With room for its guarded calls a list comes to what it comes to if all is required. -/
theorem emitText_error_iff_require (hroomy : Roomy s) (hbase : 0 ≤ s.baseIndent)
    (hstep : 0 ≤ s.indentStep) (ps : List Parameter) {e : Error} :
    emitText s program ps = .error e ↔ emitText s program (ps.map require) = .error e := by
  obtain ⟨result, result', written, bare, hwrites, hwrites', hsame, -⟩ :=
    exists_writes_both program [] ps hbase hstep
  have hresult := hsame hroomy
  subst hresult
  rw [emitText_of_writes hwrites, emitText_of_writes hwrites']
  cases result with
  | error _ => exact Iff.rfl
  | ok _ => exact ⟨nofun, nofun⟩

theorem unguards_of_emitText {text : String} (hbase : 0 ≤ s.baseIndent) (hstep : 0 ≤ s.indentStep)
    (h : emitText s program ps = .ok text) : ∃ lines bare, text = Text.closedLines lines ∧
      HasLines s program ps lines ∧ HasLines s program (ps.map require) bare ∧
        Unguards s ps lines bare := by
  obtain ⟨result, result', written, bare, hwrites, hwrites', -, hunguards⟩ :=
    exists_writes_both program [] ps hbase hstep
  rw [emitText_of_writes hwrites] at h
  cases result with
  | error _ => cases h
  | ok _ =>
      obtain ⟨rfl, hbare⟩ := hunguards rfl
      exact ⟨written, bare, (Except.ok.inj h).symm, run_emitAll_ok hwrites,
        run_emitAll_ok hwrites', hbare⟩

theorem count_drafts : count.Drafts ⟨.plain, "n", "UInt", false⟩ :=
  ⟨rfl, .plain ⟨rfl, rfl⟩, rfl, .type rfl rfl rfl, rfl⟩

/-- Without the room an optional count fails, and one that must be given does not. -/
theorem roomy_of_count (hbase : 0 ≤ s.baseIndent)
    (h : ∀ e, emitText s "" [count] = .error e ↔ emitText s "" [count.require] = .error e) :
    Roomy s := by
  intro hdepth
  by_contra hinner
  have hwide : maxIndentation < StoreCall.column count.required s.baseIndent s.indentStep :=
    Int.not_le.mp hinner
  have hguard := count_drafts.writes_guard s ⟨hbase, hdepth⟩ hwide
  have hcall : Writes (count.require.emit s) s.baseIndent s.indentStep _ _ :=
    count_drafts.require.writes_lines s ⟨hbase, hdepth⟩ ⟨hbase, hdepth⟩
  have herror : emitText s "" [count] = .error _ := emitText_singleton hguard
  have htext : emitText s "" [count.require] = .ok _ := emitText_singleton hcall
  rw [h, htext] at herror
  cases herror

/-- **Being required shows in the guard only.** Take settings that were read. Lists that differ
only in which parameters are required come to the same, whichever lists they are, exactly if a
guarded call has room in front wherever a statement has: they fail with the same error or are both
written. And whatever the settings, a list that is written is, without its guards, the list in which
all parameters are required: of each optional parameter the guard and its end go, and the call
between them moves a step to the left. -/
theorem required_only_guards {v : Value} (hs : Settings.ofValue? v = .ok (some s)) :
    ((∀ program ps qs, List.Forall₂ SameButRequired ps qs →
        ∀ e, emitText s program ps = .error e ↔ emitText s program qs = .error e) ↔ Roomy s) ∧
    ∀ program ps text, emitText s program ps = .ok text →
      ∃ lines bare, text = Text.closedLines lines ∧ HasLines s program ps lines ∧
        HasLines s program (ps.map require) bare ∧ Unguards s ps lines bare := by
  obtain ⟨hbase, hstep⟩ := Settings.nonneg_of_ofValue? hs
  refine ⟨⟨fun hsame => ?_, fun hroomy program ps qs hflags e => ?_⟩, fun program ps text h => ?_⟩
  · exact roomy_of_count hbase (hsame "" [count] [count.require] (.cons rfl .nil))
  · rw [emitText_error_iff_require hroomy hbase hstep ps, ← map_require_eq hflags,
      ← emitText_error_iff_require hroomy hbase hstep qs]
  · exact unguards_of_emitText hbase hstep h

theorem count_unguarded : ∃ lines bare,
    "  if n !== nothing\n    Store(\"n\", convert(UInt, n))\n  end\n" = Text.closedLines lines ∧
      HasLines {} "fit" [count] lines ∧ HasLines {} "fit" [count.require] bare ∧
        Unguards {} [count] lines bare := by
  obtain ⟨-, hunguards⟩ := required_only_guards (v := .null) (s := {}) (by rfl)
  exact hunguards "fit" [count] _ (by rfl)

/-- The settings file of a step beyond all machine integers. -/
def deepStep : Value := .mapping [(.str "indent_step", .int (10 ^ 20))]

/-- Under settings that are read, an optional parameter hides the defect of the one behind it,
which shows if the first one is required. -/
theorem optional_hides_defect :
    Settings.ofValue? deepStep = .ok (some { indentStep := 10 ^ 20 }) ∧
    List.Forall₂ SameButRequired [count, size "a-b"] [count.require, size "a-b"] ∧
    emitText { indentStep := 10 ^ 20 } "fit" [count, size "a-b"] = .error .indentOutOfRange ∧
    emitText { indentStep := 10 ^ 20 } "fit" [count.require, size "a-b"] =
      .error (.notIdentifier "a-b") := by
  refine ⟨by cbv, .cons rfl (.cons rfl .nil), by rfl, by rfl⟩

end InputBindings.Parameter
