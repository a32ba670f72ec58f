import InputBindings.Proofs.Draft

/-!
# The settings decide the surface only

A parameter list is read without the settings: it comes to drafts, or to the first
parameter that repeats a name or is refused. A run under some settings follows that
reading, with one line for each row of each draft, unless a line stands too far to the
right. A row is made of pieces, and the settings only have a say in how a piece is
spelled and how many blanks stand in front.

Main statement: `surface_of_settings`.
-/

namespace InputBindings

open Traversal Writing

/-! ## Rows -/

/-- A piece of a line. -/
inductive Piece where
  | fixed (text : String)
  | storePrefix
  | unsignedMarker (element : String)
  | objectSuffix
  | absent
  deriving DecidableEq, Repr

def Piece.text (s : Settings) : Piece → String
  | .fixed text => text
  | .storePrefix => s.storePrefix
  | .unsignedMarker element => if element ∈ s.unsignedElements then s.unsignedMarker else ""
  | .objectSuffix => s.objectSuffix
  | .absent => s.absent

def Passage.pieces : Passage → List Piece
  | .plain => [.storePrefix]
  | .container element shape =>
    [.storePrefix, .unsignedMarker element, .fixed (accessorSuffix "" .other shape)]
  | .model identifier => [.storePrefix, .fixed identifier, .objectSuffix]

theorem Passage.accessor_eq_join (passage : Passage) (s : Settings) :
    passage.accessor s = String.join (passage.pieces.map (Piece.text s)) := by
  cases passage with
  | plain => simp [accessor, pieces, Piece.text]
  | container element shape =>
      by_cases h : element ∈ s.unsignedElements <;>
        simp [accessor, pieces, Piece.text, accessorSuffix, h]
  | model identifier => simp [accessor, pieces, Piece.text, String.append_assoc]

/-- What a line does for its parameter. -/
inductive Role where
  | call
  | guard
  | guardEnd
  deriving DecidableEq, Repr

/-- A line up to its spelling. -/
structure Row where
  role : Role
  draft : Draft
  deriving DecidableEq, Repr

namespace Row

def pieces (r : Row) : List Piece :=
  match r.role with
  | .call => r.draft.passage.pieces ++ [.fixed ("(\"" ++ r.draft.name ++ "\", convert(" ++
      r.draft.target ++ ", " ++ r.draft.name ++ "))")]
  | .guard => [.fixed ("if " ++ r.draft.name ++ " !== "), .absent]
  | .guardEnd => [.fixed StoreCall.guardEnd]

/-- The line without its indentation. -/
def body (r : Row) (s : Settings) : String := String.join (r.pieces.map (Piece.text s))

/-- Where the line stands. -/
def column (r : Row) (s : Settings) : Int :=
  match r.role with
  | .call => StoreCall.column r.draft.required s.baseIndent s.indentStep
  | _ => s.baseIndent

def line (r : Row) (s : Settings) : String := spaces (r.column s) ++ r.body s

end Row

namespace Draft

def rows (d : Draft) : List Row :=
  if d.required then [⟨.call, d⟩] else [⟨.guard, d⟩, ⟨.call, d⟩, ⟨.guardEnd, d⟩]

theorem body_call (d : Draft) (s : Settings) : Row.body ⟨.call, d⟩ s = (d.call s).text := by
  simp [Row.body, Row.pieces, StoreCall.text, call, Passage.accessor_eq_join, Piece.text,
    String.join_append, String.append_assoc]

theorem body_guard (d : Draft) (s : Settings) : Row.body ⟨.guard, d⟩ s = (d.call s).guard s := by
  simp [Row.body, Row.pieces, StoreCall.guard, call, Piece.text]

theorem body_guardEnd (d : Draft) (s : Settings) :
    Row.body ⟨.guardEnd, d⟩ s = StoreCall.guardEnd := by
  simp [Row.body, Row.pieces, Piece.text]

theorem lines_eq_map_line (d : Draft) (s : Settings) :
    d.lines s s.baseIndent s.indentStep = d.rows.map fun r => r.line s := by
  unfold lines rows
  cases hrequired : d.required <;>
    simp [Row.line, Row.column, StoreCall.column, hrequired, body_call, body_guard, body_guardEnd]

end Draft

/-! ## Readings of parameter lists -/

namespace Parameter

variable {program : String} {params : List Parameter} {seen : List String} {s s' : Settings}
  {reading : Except Error (List Draft)}

/-- What a parameter list comes to, given the names that have occurred. -/
inductive Reading (program : String) :
    List String → List Parameter → Except Error (List Draft) → Prop where
  | nil {seen : List String} : Reading program seen [] (.ok [])
  | repeated {seen : List String} {p : Parameter} {rest : List Parameter} (name : p.name ∈ seen) :
      Reading program seen (p :: rest) (.error (.duplicateParameter p.name program))
  | refused {seen : List String} {p : Parameter} {rest : List Parameter} {e : Error}
      (name : p.name ∉ seen) (refuses : p.Refuses e) : Reading program seen (p :: rest) (.error e)
  | drafted {seen : List String} {p : Parameter} {rest : List Parameter} {d : Draft}
      {more : Except Error (List Draft)} (name : p.name ∉ seen) (drafts : p.Drafts d)
      (rest_reading : Reading program (p.name :: seen) rest more) :
      Reading program seen (p :: rest) (more.map (d :: ·))

theorem exists_reading (program : String) (seen : List String) (params : List Parameter) :
    ∃ reading, Reading program seen params reading := by
  induction params generalizing seen with
  | nil => exact ⟨_, .nil⟩
  | cons p rest ih =>
      by_cases hname : p.name ∈ seen
      · exact ⟨_, .repeated hname⟩
      rcases p.refuses_or_drafts with ⟨e, hrefuses⟩ | ⟨d, hdrafts⟩
      · exact ⟨_, .refused hname hrefuses⟩
      · obtain ⟨more, hmore⟩ := ih (p.name :: seen)
        exact ⟨_, .drafted hname hdrafts hmore⟩

theorem Reading.forall₂_drafts {ds : List Draft} (h : Reading program seen params (.ok ds)) :
    List.Forall₂ Drafts params ds := by
  generalize hreading : (.ok ds : Except Error (List Draft)) = reading at h
  induction h generalizing ds with
  | nil =>
      cases hreading
      exact .nil
  | repeated => cases hreading
  | refused => cases hreading
  | @drafted _ _ _ d more _ hdrafts _ ih =>
      cases more with
      | error e => cases hreading
      | ok rest =>
          cases hreading
          exact .cons hdrafts (ih rfl)

/-- The error of a line that stands too far to the right, and there is such a line. -/
def TooWide (s : Settings) (params : List Parameter) (e : Error) : Prop :=
  e = .indentOutOfRange ∧
    ∃ p ∈ params, maxIndentation < StoreCall.column p.required s.baseIndent s.indentStep

/-- The outcome of a run and the lines that it writes follow the reading, unless a line
stands too far to the right. -/
def Follows (s : Settings) (params : List Parameter) (reading : Except Error (List Draft))
    (result : Except Error Unit) (written : List String) : Prop :=
  (∃ e, result = .error e ∧ TooWide s params e) ∨
    (∃ e, reading = .error e ∧ result = .error e) ∨
      ∃ ds, reading = .ok ds ∧ result = .ok () ∧
        written = (ds.flatMap Draft.rows).map fun r => r.line s

theorem Reading.exists_follows (h : Reading program seen params reading) (hbase : 0 ≤ s.baseIndent)
    (hstep : 0 ≤ s.indentStep) : ∃ result written,
      Writes (emitEach s program seen params) s.baseIndent s.indentStep result written ∧
        Follows s params reading result written := by
  induction h with
  | nil => exact ⟨_, _, writes_emitEach_nil _, Or.inr (Or.inr ⟨[], rfl, rfl, rfl⟩)⟩
  | repeated hname =>
      exact ⟨_, _, writes_emitEach_repeated program _ hname, Or.inr (Or.inl ⟨_, rfl, rfl⟩)⟩
  | refused hname hrefuses =>
      exact ⟨_, _, writes_emitEach_failing program _ hname (writes_emit_of_error (hrefuses s)),
        Or.inr (Or.inl ⟨_, rfl, rfl⟩)⟩
  | @drafted seen p rest d more hname hdrafts _ ih =>
      have hcolumn := StoreCall.le_column hstep p.required s.baseIndent
      by_cases hwide : maxIndentation < StoreCall.column p.required s.baseIndent s.indentStep
      · have hfails : ∃ written,
            Writes (p.emit s) s.baseIndent s.indentStep (.error .indentOutOfRange) written := by
          by_cases hdepth : maxIndentation < s.baseIndent
          · exact ⟨_, hdrafts.writes_nothing s s.indentStep hdepth⟩
          · exact ⟨_, hdrafts.writes_guard s ⟨hbase, Int.not_lt.mp hdepth⟩ hwide⟩
        obtain ⟨written, hwrites⟩ := hfails
        exact ⟨_, _, writes_emitEach_failing program rest hname hwrites,
          Or.inl ⟨_, rfl, rfl, p, List.mem_cons_self, hwide⟩⟩
      · have hroom := Int.not_lt.mp hwide
        have hlines := hdrafts.writes_lines s ⟨hbase, Int.le_trans hcolumn hroom⟩
          ⟨Int.le_trans hbase hcolumn, hroom⟩
        obtain ⟨result, written, hrest, hfollows⟩ := ih
        refine ⟨result, _, writes_emitEach_cons hname hlines hrest, ?_⟩
        rcases hfollows with ⟨e, rfl, he, q, hq, hqwide⟩ | ⟨e, rfl, rfl⟩ | ⟨ds, rfl, rfl, rfl⟩
        · exact Or.inl ⟨e, rfl, he, q, List.mem_cons_of_mem p hq, hqwide⟩
        · exact Or.inr (Or.inl ⟨e, rfl, rfl⟩)
        · refine Or.inr (Or.inr ⟨d :: ds, rfl, rfl, ?_⟩)
          rw [d.lines_eq_map_line, List.flatMap_cons, List.map_append]

/-! ## Two runs -/

/-- The settings differ in their indentations only. -/
def SameSpelling (s s' : Settings) : Prop :=
  s' = { s with baseIndent := s'.baseIndent, indentStep := s'.indentStep }

theorem body_of_sameSpelling (h : SameSpelling s s') (r : Row) : r.body s' = r.body s := by
  have htext : ∀ piece : Piece, piece.text s' = piece.text s := by
    intro piece
    rw [h]
    cases piece <;> rfl
  unfold Row.body
  exact congrArg String.join (List.map_congr_left fun piece _ => htext piece)

/-- The list is written under the settings as the lines of the rows, to every sink. -/
def WritesRows (s : Settings) (program : String) (params : List Parameter) (rows : List Row) :
    Prop :=
  ∀ w : Sink, (emitAll s program params).run w =
    (.ok (Text.closedLines (rows.map fun r => r.line s)),
      { w with lines := w.lines ++ rows.map fun r => r.line s })

/-- A run under settings that were read fails with a line that stands too far to the
right, fails as the reading does, or writes the rows of its drafts. -/
theorem Reading.emitText_cases (h : Reading program [] params reading) (hbase : 0 ≤ s.baseIndent)
    (hstep : 0 ≤ s.indentStep) :
    (∃ e, emitText s program params = .error e ∧ TooWide s params e) ∨
      (∃ e, reading = .error e ∧ emitText s program params = .error e) ∨
        ∃ ds, reading = .ok ds ∧ WritesRows s program params (ds.flatMap Draft.rows) ∧
          emitText s program params =
            .ok (Text.closedLines ((ds.flatMap Draft.rows).map fun r => r.line s)) := by
  obtain ⟨result, written, hwrites, hfollows⟩ := h.exists_follows hbase hstep
  have htext := emitText_of_writes hwrites
  rcases hfollows with ⟨e, rfl, he⟩ | ⟨e, hreading, rfl⟩ | ⟨ds, hreading, rfl, rfl⟩
  · exact Or.inl ⟨e, htext, he⟩
  · exact Or.inr (Or.inl ⟨e, hreading, htext⟩)
  · exact Or.inr (Or.inr ⟨ds, hreading, run_emitAll_ok hwrites, htext⟩)

/-- The run does not fail for a line that stands too far to the right. -/
def StaysInside (s : Settings) (program : String) (params : List Parameter) : Prop :=
  ∀ e, TooWide s params e → emitText s program params ≠ .error e

theorem staysInside_of_le (program : String)
    (h : ∀ p ∈ params, StoreCall.column p.required s.baseIndent s.indentStep ≤ maxIndentation) :
    StaysInside s program params := by
  rintro e ⟨-, p, hp, hwide⟩ -
  exact Int.not_lt.mpr (h p hp) hwide

/-- **The settings decide the surface only.** Take any two settings that were read, and a
parameter list that fails under neither for a line that stands too far to the right. Then
it fails under both or under none, with the same error. If it does not fail, its lines
are those of the same rows under both, so they agree in number and, one by one, in what
they do for which parameter, in its name and in its target type, and differ in their
indentation and in the spelling of their pieces only. If the settings have nothing but
their indentations to differ in, the lines are the same once the indentation is off. -/
theorem surface_of_settings {v v' : Value} (hs : Settings.ofValue? v = .ok (some s))
    (hs' : Settings.ofValue? v' = .ok (some s')) (hinside : StaysInside s program params)
    (hinside' : StaysInside s' program params) :
    (∀ e, emitText s program params = .error e ↔
      emitText s' program params = .error e) ∧
    ∀ text, emitText s program params = .ok text → ∃ ds, List.Forall₂ Drafts params ds ∧
      WritesRows s program params (ds.flatMap Draft.rows) ∧
      WritesRows s' program params (ds.flatMap Draft.rows) ∧
      (SameSpelling s s' → ∀ r ∈ ds.flatMap Draft.rows, r.body s' = r.body s) := by
  obtain ⟨reading, hreading⟩ := exists_reading program [] params
  obtain ⟨hbase, hstep⟩ := Settings.nonneg_of_ofValue? hs
  obtain ⟨hbase', hstep'⟩ := Settings.nonneg_of_ofValue? hs'
  have hrun := (hreading.emitText_cases hbase hstep).resolve_left fun ⟨e, herror, hwide⟩ =>
    hinside e hwide herror
  have hrun' := (hreading.emitText_cases hbase' hstep').resolve_left fun ⟨e, herror, hwide⟩ =>
    hinside' e hwide herror
  rcases hrun with ⟨e, rfl, herror⟩ | ⟨ds, rfl, hrows, htext⟩
  · rcases hrun' with ⟨e', he', herror'⟩ | ⟨ds, hds, -⟩
    · cases he'
      refine ⟨fun _ => by rw [herror, herror'], fun text htext => ?_⟩
      cases herror.symm.trans htext
    · cases hds
  · rcases hrun' with ⟨e', he', -⟩ | ⟨ds', hds', hrows', htext'⟩
    · cases he'
    · cases hds'
      refine ⟨fun _ => by simp [htext, htext'], fun _ _ => ?_⟩
      exact ⟨ds, hreading.forall₂_drafts, hrows, hrows',
        fun hsame r _ => body_of_sameSpelling hsame r⟩

def size (name : String) : Parameter :=
  { name, type := .plain "size_t" (.str "UInt"), required := true }

/-- The settings file that spells the absent value `missing` and indents by one. -/
def missingByOne : Value := .mapping [(.str "absent", .str "missing"), (.str "base_indent", .int 1)]

theorem size_rows_agree : ∃ ds, List.Forall₂ Drafts [size "n"] ds ∧
    WritesRows {} "fit" [size "n"] (ds.flatMap Draft.rows) ∧
    WritesRows { absent := "missing", baseIndent := 1 } "fit" [size "n"]
      (ds.flatMap Draft.rows) := by
  have hread : Settings.ofValue? missingByOne =
      .ok (some { absent := "missing", baseIndent := 1 }) := by cbv
  have hroom : ∀ n : Int, n ≤ 2 → ∀ p ∈ [size "n"],
      StoreCall.column p.required n 2 ≤ maxIndentation := by
    intro n hn p hp
    rw [List.mem_singleton.mp hp]
    have hmax : 2 ≤ maxIndentation := by decide
    exact Int.le_trans hn hmax
  obtain ⟨-, hrows⟩ := surface_of_settings (v := .null) (by rfl) hread
    (staysInside_of_le "fit" (hroom 2 (by decide))) (staysInside_of_le "fit" (hroom 1 (by decide)))
  obtain ⟨ds, hdrafts, hone, htwo, -⟩ := hrows "  Store(\"n\", convert(UInt, n))\n" (by rfl)
  exact ⟨ds, hdrafts, hone, htwo⟩

/-- The settings file of a base indentation beyond all machine integers. -/
def farRight : Value := .mapping [(.str "base_indent", .int (10 ^ 20))]

/-- Two settings that are both read, under which a list fails with different errors. -/
theorem errors_differ_far_right :
    Settings.ofValue? .null = .ok (some {}) ∧
    Settings.ofValue? farRight = .ok (some { baseIndent := 10 ^ 20 }) ∧
    emitText {} "fit" [size "a", size "a-b"] = .error (.notIdentifier "a-b") ∧
    emitText { baseIndent := 10 ^ 20 } "fit" [size "a", size "a-b"] = .error .indentOutOfRange := by
  refine ⟨by rfl, by cbv, by rfl, by rfl⟩

end Parameter

end InputBindings
