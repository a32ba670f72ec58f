import InputBindings.Proofs.Catalog.History
import InputBindings.Proofs.Draft
import InputBindings.Proofs.Selection

/-!
# The list of types shows what is generated

The list of types has a call for each type that has a family: the one that stores a
required parameter `x` of the type. It is not made by generating, but written at the very
left. Generating writes the same call behind the blanks of the base indentation, and
refuses the same types for the same reasons. Only the blanks can tell the two apart:
where they are too wide to be written nothing is generated, and the list shows calls all
the same.

Main statement: `list_agrees_iff`.
-/

namespace InputBindings

open Traversal Writing

namespace Parameter

variable {p : Parameter} {s : Settings} {d : Draft} {e : Error}

theorem Refuses.emitText (h : p.Refuses e) (s : Settings) (program : String) :
    Parameter.emitText s program [p] = .error e :=
  emitText_singleton (writes_emit_of_error (h s))

theorem Drafts.emitText (h : p.Drafts d) (program : String) (hbase : Fits s.baseIndent)
    (hcolumn : Fits (StoreCall.column p.required s.baseIndent s.indentStep)) :
    Parameter.emitText s program [p] =
      .ok (Text.closedLines (d.lines s s.baseIndent s.indentStep)) :=
  emitText_singleton (h.writes_lines s hbase hcolumn)

theorem Drafts.emitText_of_wide (h : p.Drafts d) (hwide : maxIndentation < s.baseIndent) :
    ∀ program, Parameter.emitText s program [p] = .error .indentOutOfRange := fun _ =>
  emitText_singleton (h.writes_nothing s s.indentStep hwide)

/-- A refusal has nothing to do with where a line stands. -/
theorem Refuses.ne_indentOutOfRange (h : p.Refuses e) : e ≠ .indentOutOfRange := by
  rintro rfl
  have hdefect : ¬Error.indentOutOfRange.IsDefect := by rintro (hkind | hkind) <;> cases hkind
  rcases bind_eq_error_iff.mp (h {}) with hfamily | ⟨family, hfamily, hcall⟩
  · exact hdefect (NativeType.isDefect_of_family hfamily)
  · cases (storeCall_eq_error hfamily hcall).resolve_left hdefect with
    | column hcall => cases (h {}).symm.trans hcall

end Parameter

namespace Command

open Parameter

/-- A required parameter `x` of the type. -/
def sample (t : NativeType) : Parameter := { name := "x", type := t, required := true }

variable {s : Settings} {c : Catalog} {t : NativeType} {name : String} {e : Error}
  {family : Family} {d : Draft}

/-! ## The call of a type -/

theorem run_emit_of_family {p : Parameter} (h : p.type.family s = .ok family) (w : Sink) :
    (p.emit s).run w = (p.emitAs s family).run w := by
  rw [Parameter.emit, h]
  rfl

theorem sampleCall_of_run {result : Except Error Unit} {w : Sink}
    (hfamily : t.family s = .ok family)
    (hrun : ((sample t).emit s).run (Sink.new 0 2) = (result, w)) :
    sampleCall s t family = result.map fun _ => w.lines.headD "" := by
  have hemit : ((sample t).emitAs s family).run (Sink.new 0 2) = (result, w) :=
    (run_emit_of_family (p := sample t) hfamily _).symm.trans hrun
  unfold sampleCall
  rw [sample] at hemit
  simp only [hemit]
  cases result <;> rfl

theorem sampleCall_of_refuses (hfamily : t.family s = .ok family) (h : (sample t).Refuses e) :
    sampleCall s t family = .error e :=
  sampleCall_of_run hfamily (h.run s _)

theorem sampleCall_of_drafts (hfamily : t.family s = .ok family) (h : (sample t).Drafts d) :
    sampleCall s t family = .ok (d.call s).text := by
  have hleft : Fits 0 := ⟨by decide, by decide⟩
  have hwrites : Writes ((sample t).emit s) 0 2 (.ok ()) (d.lines s 0 2) :=
    h.writes_lines s hleft hleft
  have hrequired : d.required = true := h.required
  rw [sampleCall_of_run hfamily (hwrites (Sink.new 0 2) rfl rfl), Draft.lines, if_pos hrequired]
  have hblanks : spaces 0 = "" := rfl
  rw [hblanks, String.empty_append]
  rfl

/-- The text that is generated for a type: its call, behind the blanks. -/
theorem emitText_sample_of_drafts (h : (sample t).Drafts d) (program : String)
    (hbase : Fits s.baseIndent) : emitText s program [sample t] =
      .ok (spaces s.baseIndent ++ (d.call s).text ++ "\n") := by
  have hrequired : d.required = true := h.required
  rw [h.emitText program hbase hbase, Draft.lines, if_pos hrequired]
  simp [Text.closedLines]

/-! ## Rows -/

/-- A cell is there if the target is text or there is none. -/
theorem exists_targetCell (h : Catalog.HasTextTarget t) : ∃ cell, targetCell t = .ok cell := by
  unfold targetCell
  rcases h with h | ⟨spelling, h⟩
  · rw [h]
    exact ⟨_, rfl⟩
  · rw [h]
    exact ⟨_, rfl⟩

/-- What is wrong with a type without a family can be put into words. -/
theorem exists_message_of_family (h : t.family s = .error e) :
    ∃ message, e.message = some message := by
  unfold NativeType.family at h
  split at h
  · cases h
  · unfold NativeType.containerFamily at h
    split at h
    · cases h
      exact ⟨_, rfl⟩
    · split at h
      · cases h
        exact ⟨_, rfl⟩
      · cases h
  · cases h
  · cases h
    exact ⟨_, rfl⟩

/-- The row that a type has in the list: what is wrong with it if it has no family, and
else its family and the call that is generated for it, without the blanks. -/
inductive Shows (s : Settings) : String × NativeType → List String → Prop where
  | invalid {name target message : String} {t : NativeType} {e : Error}
      (family : t.family s = .error e) (text : e.message = some message)
      (cell : targetCell t = .ok target) :
      Shows s (name, t) [name, target, "[red]invalid[/red]", message]
  | call {name target call : String} {t : NativeType} {family : Family}
      (family_eq : t.family s = .ok family)
      (generated : ∀ program, emitText s program [sample t] =
        .ok (spaces s.baseIndent ++ call ++ "\n"))
      (cell : targetCell t = .ok target) :
      Shows s (name, t) [name, target, family.category.name, call]

/-- The type has a family, but nothing is generated for it: there is an error instead. -/
def Unrendered (s : Settings) (t : NativeType) (e : Error) : Prop :=
  (∃ family, t.family s = .ok family) ∧ ∀ program, emitText s program [sample t] = .error e

theorem typeRow_of_error (name : String) (hfamily : t.family s = .error e)
    (htext : Catalog.HasTextTarget t) :
    ∃ row, typeRow s name t = .ok row ∧ Shows s (name, t) row := by
  obtain ⟨cell, hcell⟩ := exists_targetCell htext
  obtain ⟨message, hmessage⟩ := exists_message_of_family hfamily
  refine ⟨_, ?_, .invalid hfamily hmessage hcell⟩
  unfold typeRow
  simp only [hfamily, hcell, hmessage]
  rfl

theorem typeRow_of_refuses (name : String) (hfamily : t.family s = .ok family)
    (h : (sample t).Refuses e) : typeRow s name t = .error e := by
  unfold typeRow
  simp only [hfamily]
  exact bind_of_error (sampleCall_of_refuses hfamily h)

theorem typeRow_of_drafts (name : String) {cell : String} (hfamily : t.family s = .ok family)
    (h : (sample t).Drafts d) (hcell : targetCell t = .ok cell) :
    typeRow s name t = .ok [name, cell, family.category.name, (d.call s).text] := by
  unfold typeRow
  simp only [hfamily, hcell]
  rw [bind_of_ok (sampleCall_of_drafts hfamily h)]
  rfl

/-! ## Rows and what is generated -/

theorem unrendered_of_refuses (hfamily : t.family s = .ok family) (h : (sample t).Refuses e) :
    Unrendered s t e :=
  ⟨⟨family, hfamily⟩, h.emitText s⟩

theorem unrendered_of_wide (h : (sample t).Drafts d) (hwide : maxIndentation < s.baseIndent) :
    Unrendered s t .indentOutOfRange := by
  obtain ⟨family, hfamily, -⟩ := h.passage.family s
  exact ⟨⟨family, hfamily⟩, h.emitText_of_wide hwide⟩

/-- Too far to the right, every type that has a family fails. -/
theorem exists_unrendered_of_wide (hfamily : t.family s = .ok family)
    (hwide : maxIndentation < s.baseIndent) : ∃ e, Unrendered s t e := by
  rcases refuses_or_drafts (sample t) with ⟨e, hrefuses⟩ | ⟨d, hdrafts⟩
  · exact ⟨e, unrendered_of_refuses hfamily hrefuses⟩
  · exact ⟨_, unrendered_of_wide hdrafts hwide⟩

/-- The call of the type, if there is one, can be written behind the blanks. -/
def InRange (s : Settings) (t : NativeType) : Prop :=
  s.baseIndent ≤ maxIndentation ∨ ∀ d, ¬(sample t).Drafts d

theorem inRange_of_rendered (h : ∀ e, ¬Unrendered s t e) : InRange s t := by
  by_cases hwide : maxIndentation < s.baseIndent
  · exact Or.inr fun d hdrafts => h _ (unrendered_of_wide hdrafts hwide)
  · exact Or.inl (Int.not_lt.mp hwide)

/-- In range the list and generating agree about a type: it has the row that it should
have, or both fail with the same error. -/
theorem typeRow_agrees (name : String) (htext : Catalog.HasTextTarget t) (hs : 0 ≤ s.baseIndent)
    (hrange : InRange s t) :
    (∃ row, typeRow s name t = .ok row ∧ Shows s (name, t) row ∧ ∀ e, ¬Unrendered s t e) ∨
    ∃ e, typeRow s name t = .error e ∧ ∀ e', Unrendered s t e' ↔ e' = e := by
  cases hfamily : t.family s with
  | error e =>
      obtain ⟨row, hrow, hshows⟩ := typeRow_of_error name hfamily htext
      refine Or.inl ⟨row, hrow, hshows, ?_⟩
      rintro _ ⟨⟨family, hok⟩, -⟩
      cases hfamily.symm.trans hok
  | ok family =>
  rcases refuses_or_drafts (sample t) with ⟨e, hrefuses⟩ | ⟨d, hdrafts⟩
  · refine Or.inr ⟨e, typeRow_of_refuses name hfamily hrefuses, fun e' => ⟨?_, ?_⟩⟩
    · rintro ⟨-, hfails⟩
      exact Except.error.inj ((hfails "").symm.trans (hrefuses.emitText s ""))
    · rintro rfl
      exact unrendered_of_refuses hfamily hrefuses
  · obtain ⟨cell, hcell⟩ := exists_targetCell htext
    have hfits : Fits s.baseIndent := ⟨hs, hrange.resolve_right fun hnone => hnone d hdrafts⟩
    have hgenerated := fun program => emitText_sample_of_drafts hdrafts program hfits
    refine Or.inl ⟨_, typeRow_of_drafts name hfamily hdrafts hcell, ?_, ?_⟩
    · exact .call hfamily hgenerated hcell
    · rintro e ⟨-, hfails⟩
      cases (hfails "").symm.trans (hgenerated "")

/-- A row fails for what is wrong with the type and never for the width of the blanks. -/
theorem typeRow_ne_indentOutOfRange (htext : Catalog.HasTextTarget t)
    (h : typeRow s name t = .error e) : e ≠ .indentOutOfRange := by
  cases hfamily : t.family s with
  | error e =>
      obtain ⟨row, hrow, -⟩ := typeRow_of_error name hfamily htext
      cases h.symm.trans hrow
  | ok family =>
  rcases refuses_or_drafts (sample t) with ⟨e, hrefuses⟩ | ⟨d, hdrafts⟩
  · cases h.symm.trans (typeRow_of_refuses name hfamily hrefuses)
    exact hrefuses.ne_indentOutOfRange
  · obtain ⟨cell, hcell⟩ := exists_targetCell htext
    cases h.symm.trans (typeRow_of_drafts name hfamily hdrafts hcell)

/-! ## The list -/

/-- The list with the rows. -/
def listOf (rows : List (List String)) : Table where
  title := "Static types"
  columns := ["C++ type", "Julia type", "Category", "Store call"]
  rows := rows

theorem run_types_of_ok {rows : List (List String)} (session : Session)
    (h : (c.entries.mapM fun entry => typeRow s entry.1 entry.2) = .ok rows) :
    (ExceptT.run (types s c)).run session =
      (.ok (), { session with console := session.console.hand (.table (listOf rows)) }) := by
  have htable : typesTable s c = .ok (listOf rows) := bind_of_ok h
  unfold types
  rw [htable]
  exact run_bind_of_ok (run_ofExcept _)

theorem run_types_of_error (session : Session)
    (h : (c.entries.mapM fun entry => typeRow s entry.1 entry.2) = .error e) :
    (ExceptT.run (types s c)).run session = (.error e, session) := by
  have htable : typesTable s c = .error e := bind_of_error h
  unfold types
  rw [htable]
  exact run_bind_of_error (run_ofExcept _)

/-- The list agrees with what is generated: if all types that have a family can be
generated, it has the row of each type in their order; otherwise it fails with the error
of the first that cannot, and nothing is shown. -/
structure Agrees (s : Settings) (c : Catalog) : Prop where
  shown : (∀ entry ∈ c.entries, ∀ e, ¬Unrendered s entry.2 e) →
    ∃ rows, List.Forall₂ (Shows s) c.entries rows ∧ ∀ session,
      (ExceptT.run (types s c)).run session =
        (.ok (), { session with console := session.console.hand (.table (listOf rows)) })
  failed : ∀ before entry after e, c.entries = before ++ entry :: after →
    (∀ earlier ∈ before, ∀ e, ¬Unrendered s earlier.2 e) → Unrendered s entry.2 e →
    ∀ session, (ExceptT.run (types s c)).run session = (.error e, session)

/-- Where every type up to the first failure is in range, the list agrees. -/
theorem agrees_of_inRange (hs : 0 ≤ s.baseIndent)
    (htext : ∀ entry ∈ c.entries, Catalog.HasTextTarget entry.2)
    (hrange : ∀ before entry after, c.entries = before ++ entry :: after →
      (∀ earlier ∈ before, ∀ e, ¬Unrendered s earlier.2 e) → InRange s entry.2) :
    Agrees s c := by
  -- A type that is rendered is in range, so only the first failure needs the hypothesis.
  have hrendered : ∀ entry ∈ c.entries, (∀ e, ¬Unrendered s entry.2 e) →
      ∃ row, typeRow s entry.1 entry.2 = .ok row ∧ Shows s entry row := by
    intro entry hentry hrendered
    rcases typeRow_agrees entry.1 (htext entry hentry) hs (inRange_of_rendered hrendered) with
      ⟨row, hrow, hshows, -⟩ | ⟨e, -, hfails⟩
    · exact ⟨row, hrow, hshows⟩
    · exact absurd ((hfails e).mpr rfl) (hrendered e)
  constructor
  · intro hall
    have hshown := fun entry hentry => hrendered entry hentry (hall entry hentry)
    obtain ⟨rows, hrows⟩ := exists_mapM_eq_ok_iff.mpr fun entry hentry =>
      (hshown entry hentry).imp fun _ => And.left
    refine ⟨rows, ?_, fun session => run_types_of_ok session hrows⟩
    refine ((List.forall₂_and_left _ _).mpr ⟨hshown, mapM_eq_ok_iff.mp hrows⟩).imp ?_
    rintro entry row ⟨⟨row', hrow', hshows⟩, hrow⟩
    cases hrow.symm.trans hrow'
    exact hshows
  · intro before entry after e hsplit hbefore hfails session
    have hmem : ∀ earlier ∈ before, earlier ∈ c.entries := fun earlier hearlier =>
      hsplit ▸ List.mem_append_left _ hearlier
    have hentry : entry ∈ c.entries :=
      hsplit ▸ List.mem_append_right _ List.mem_cons_self
    refine run_types_of_error session (mapM_eq_error_iff.mpr ⟨before, entry, after, hsplit, ?_, ?_⟩)
    · intro earlier hearlier
      obtain ⟨row, hrow, -⟩ := hrendered earlier (hmem earlier hearlier) (hbefore earlier hearlier)
      exact ⟨row, hrow⟩
    · rcases typeRow_agrees entry.1 (htext entry hentry) hs
          (hrange before entry after hsplit hbefore) with ⟨row, -, -, hnone⟩ | ⟨e', hrow, he'⟩
      · exact absurd hfails (hnone e)
      · rw [hrow, (he' e).mp hfails]

/-- Too far to the right, a list that agrees does not get to a type that it could show a
call for. -/
theorem not_drafts_of_agrees (hwide : maxIndentation < s.baseIndent)
    (htext : ∀ entry ∈ c.entries, Catalog.HasTextTarget entry.2) (h : Agrees s c)
    {before after : List (String × NativeType)} {entry : String × NativeType}
    (hsplit : c.entries = before ++ entry :: after)
    (hbefore : ∀ earlier ∈ before, ∀ family, earlier.2.family s ≠ .ok family) :
    ¬(sample entry.2).Drafts d := by
  intro hdrafts
  have hrun := h.failed before entry after _ hsplit (fun earlier hearlier _ hunrendered =>
    hunrendered.1.elim (hbefore earlier hearlier)) (unrendered_of_wide hdrafts hwide) default
  -- The list fails as well, but for one of its rows.
  cases hrows : c.entries.mapM fun entry => typeRow s entry.1 entry.2 with
  | ok rows => cases (run_types_of_ok default hrows).symm.trans hrun
  | error e' =>
      cases (run_types_of_error default hrows).symm.trans hrun
      obtain ⟨_, failing, _, hsplit', -, hrow⟩ := mapM_eq_error_iff.mp hrows
      have hmem : failing ∈ c.entries := hsplit' ▸ List.mem_append_right _ List.mem_cons_self
      exact typeRow_ne_indentOutOfRange (htext failing hmem) hrow rfl

/-- **The list agrees with what is generated.** For settings that are accepted and a
catalog whose types have target types that are text or none, the list agrees with
generating exactly if the base indentation can be written, or nothing can be seen of it:
no type is shown with a call, because the first that has a family is refused. The cells are
the texts that are handed to the console, and handing them over is taken to succeed: that a
screen reads styles in cells, and may fail at that, is left out. -/
theorem list_agrees_iff {v : Value} (hs : Settings.ofValue? v = .ok (some s))
    (htext : ∀ entry ∈ c.entries, Catalog.HasTextTarget entry.2) :
    Agrees s c ↔ s.baseIndent ≤ maxIndentation ∨
      ∀ before entry after, c.entries = before ++ entry :: after →
        (∀ earlier ∈ before, ∀ family, earlier.2.family s ≠ .ok family) →
        ∀ d, ¬(sample entry.2).Drafts d := by
  have hnonneg : 0 ≤ s.baseIndent := (Settings.nonneg_of_ofValue? hs).1
  constructor
  · intro h
    by_cases hwide : maxIndentation < s.baseIndent
    · exact Or.inr fun before entry after hsplit hbefore d =>
        not_drafts_of_agrees hwide htext h hsplit hbefore
    · exact Or.inl (Int.not_lt.mp hwide)
  · intro h
    refine agrees_of_inRange hnonneg htext fun before entry after hsplit hbefore => ?_
    rcases h with hfits | hnone
    · exact Or.inl hfits
    by_cases hwide : maxIndentation < s.baseIndent
    · refine Or.inr (hnone before entry after hsplit fun earlier hearlier family hfamily => ?_)
      obtain ⟨e, hfails⟩ := exists_unrendered_of_wide hfamily hwide
      exact hbefore earlier hearlier e hfails
    · exact Or.inl (Int.not_lt.mp hwide)

/-- A count, and an array that does not say of what. -/
def few : Catalog where
  entries := [("size_t", .plain "size_t" (.str "UInt")),
    ("mat", { name := "mat", serializable := true, container := true })]

theorem few_listed :
    Settings.ofValue? .null = .ok (some {}) ∧
    (∀ entry ∈ few.entries, Catalog.HasTextTarget entry.2) ∧ Agrees {} few := by
  have htext : ∀ entry ∈ few.entries, Catalog.HasTextTarget entry.2 := by
    intro entry hentry
    simp only [few, List.mem_cons, List.not_mem_nil, or_false] at hentry
    rcases hentry with rfl | rfl
    · exact Or.inr ⟨"UInt", rfl⟩
    · exact Or.inl rfl
  have hread : Settings.ofValue? .null = .ok (some {}) := by rfl
  exact ⟨hread, htext, (list_agrees_iff hread htext).mpr (Or.inl (by decide))⟩

/-- Settings that are accepted, under which the list has a call for a type that fails to be
generated. -/
theorem few_listed_far_right :
    Settings.ofValue? (.mapping [(.str "base_indent", .int (10 ^ 20))]) =
      .ok (some { baseIndent := 10 ^ 20 }) ∧
    emitText { baseIndent := 10 ^ 20 } "p" [sample (.plain "size_t" (.str "UInt"))] =
      .error .indentOutOfRange ∧
    typesTable { baseIndent := 10 ^ 20 } few = .ok (listOf [
      ["size_t", "UInt", "PLAIN", "Store(\"x\", convert(UInt, x))"],
      ["mat", "", "[red]invalid[/red]", "Type 'mat': container has no element type"]]) ∧
    ¬Agrees { baseIndent := 10 ^ 20 } few := by
  refine ⟨by cbv, by rfl, by rfl, fun h => ?_⟩
  have hfails : Unrendered { baseIndent := 10 ^ 20 } (.plain "size_t" (.str "UInt"))
      .indentOutOfRange := ⟨⟨.plain, rfl⟩, fun _ => by rfl⟩
  have hrun := h.failed [] _ _ _ rfl (fun _ hnone => absurd hnone List.not_mem_nil) hfails default
  cases hrun

end Command

end InputBindings
