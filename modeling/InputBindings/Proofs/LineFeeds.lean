import InputBindings.Proofs.Surface
import InputBindings.Proofs.Unambiguity

/-!
# Names in generated code

A name is checked before anything is written, and the check lets through what is an
identifier, alone or with one line feed behind it. That line feed is copied wherever the
name is: twice into a call and once more into its guard. So the line feeds of the code
count its lines exactly where no name ends in one.

Main statement: `names_and_line_feeds`.
-/

namespace InputBindings

open Traversal Writing

/-! ## Which names pass -/

/-- Letters, digits and underscores of ASCII, at least one, and no digit first. -/
structure IsIdentifier (name : String) : Prop where
  nonempty : name ≠ ""
  chars : ∀ c ∈ name.toList, c.isAlphanum = true ∨ c = '_'
  first : ∀ c, name.toList.head? = some c → c.isDigit = false

theorem isName_iff (name : String) : Text.isName name.toList = true ↔ IsIdentifier name := by
  have hempty : name.toList = [] ↔ name = "" := String.toList_eq_nil_iff
  constructor
  · intro h
    cases hname : name.toList with
    | nil =>
        rw [hname] at h
        cases h
    | cons c cs =>
        rw [hname, Text.isName, Bool.and_eq_true, Text.isNameStart_iff, List.all_eq_true] at h
        obtain ⟨⟨hc, hdigit⟩, hcs⟩ := h
        refine ⟨fun hne => ?_, ?_, ?_⟩
        · rw [hempty.mpr hne] at hname
          cases hname
        · intro d hd
          rw [hname] at hd
          have hd' : Text.isNameChar d = true := by
            rcases List.mem_cons.mp hd with rfl | hd
            · exact hc
            · exact hcs d hd
          simpa [Text.isNameChar] using hd'
        · intro d hd
          rw [hname] at hd
          cases hd
          exact hdigit
  · intro h
    cases hname : name.toList with
    | nil => exact absurd (hempty.mp hname) h.nonempty
    | cons c cs =>
        have hchars : ∀ d ∈ c :: cs, Text.isNameChar d = true := by
          intro d hd
          simpa [Text.isNameChar] using h.chars d (hname ▸ hd)
        rw [Text.isName, Bool.and_eq_true, Text.isNameStart_iff, List.all_eq_true]
        refine ⟨⟨hchars c List.mem_cons_self, h.first c (by rw [hname]; rfl)⟩, ?_⟩
        exact fun d hd => hchars d (List.mem_cons_of_mem c hd)

theorem isNameLine_iff (name : String) : Text.isNameLine name.toList = true ↔
    IsIdentifier name ∨ ∃ identifier, IsIdentifier identifier ∧ name = identifier ++ "\n" := by
  have hline : (name.toList.getLast? = some '\n' ∧ Text.isName name.toList.dropLast = true) ↔
      ∃ identifier, IsIdentifier identifier ∧ name = identifier ++ "\n" := by
    constructor
    · rintro ⟨hlast, hname⟩
      refine ⟨String.ofList name.toList.dropLast, ?_, ?_⟩
      · rw [← isName_iff, String.toList_ofList]
        exact hname
      · rw [← String.toList_inj, String.toList_append, String.toList_ofList]
        exact (List.dropLast_append_getLast? '\n' hlast).symm
    · rintro ⟨identifier, hidentifier, rfl⟩
      have hchars : (identifier ++ "\n").toList = identifier.toList ++ ['\n'] := by simp
      rw [hchars, List.getLast?_concat, List.dropLast_concat, isName_iff]
      exact ⟨rfl, hidentifier⟩
  unfold Text.isNameLine
  rw [Bool.or_eq_true, Bool.and_eq_true, beq_iff_eq, isName_iff, hline]

namespace Parameter

variable {p : Parameter} {s : Settings} {w : Sink} {d : Draft}

/-- A name is accepted exactly if it is an identifier, or one with a line feed behind it. -/
theorem checkName_eq_ok_iff : p.checkName = .ok () ↔
    IsIdentifier p.name ∨ ∃ identifier, IsIdentifier identifier ∧ p.name = identifier ++ "\n" := by
  rw [← isNameLine_iff]
  unfold checkName
  by_cases hempty : p.name = ""
  · simp [hempty, throw, throwThe, MonadExceptOf.throw, Text.isNameLine, Text.isName]
  · by_cases hline : Text.isNameLine p.name.toList = true <;>
      simp [hempty, hline, throw, throwThe, MonadExceptOf.throw, pure, Except.pure]

/-! ## What writing asks of a name -/

theorem checkName_of_storeCall {family : Family} {call : StoreCall}
    (h : p.storeCall s family = .ok call) : p.checkName = .ok () := by
  unfold storeCall at h
  obtain ⟨_, hname, -⟩ := bind_eq_ok_iff.mp h
  exact hname

theorem checkName_of_emitAs {family : Family} (h : ((p.emitAs s family).run w).1 = .ok ()) :
    p.checkName = .ok () := by
  unfold emitAs at h
  cases hcall : p.storeCall s family with
  | error e =>
      rw [hcall, run_bind_error (run_lift _ w)] at h
      cases h
  | ok call => exact checkName_of_storeCall hcall

theorem checkName_of_emitGiven {given : Value ⊕ Family}
    (h : ((p.emitGiven s given).run w).1 = .ok ()) : p.checkName = .ok () := by
  cases given with
  | inl v => cases h
  | inr family => exact checkName_of_emitAs h

theorem checkName_of_emitIn {category : Category} {given : Value ⊕ Family}
    (h : ((p.emitIn s category given).run w).1 = .ok ()) : p.checkName = .ok () := by
  unfold emitIn at h
  split at h
  · exact checkName_of_emitAs h
  · exact checkName_of_emitAs h
  · exact checkName_of_emitAs h
  · cases hname : p.checkName with
    | ok _ => rfl
    | error e =>
        rw [hname, run_bind_error (run_lift _ w)] at h
        cases h

theorem checkName_of_emit (h : ((p.emit s).run w).1 = .ok ()) : p.checkName = .ok () := by
  unfold emit at h
  cases hfamily : p.type.family s with
  | error e =>
      rw [hfamily, run_bind_error (run_lift _ w)] at h
      cases h
  | ok family =>
      rw [hfamily, run_bind_ok (run_lift _ w)] at h
      exact checkName_of_emitAs h

end Parameter

/-! ## Counting line feeds -/

def feeds (text : String) : Nat := text.toList.count '\n'

theorem feeds_append (a b : String) : feeds (a ++ b) = feeds a + feeds b := by
  unfold feeds
  rw [String.toList_append, List.count_append]

theorem feeds_eq_zero_iff {text : String} : feeds text = 0 ↔ '\n' ∉ text.toList :=
  List.count_eq_zero

theorem feeds_spaces (level : Int) : feeds (spaces level) = 0 := by
  rw [feeds_eq_zero_iff, spaces, String.toList_ofList]
  intro hmem
  exact absurd (List.eq_of_mem_replicate hmem) (by decide)

theorem feeds_closedLines_cons (l : String) (ls : List String) :
    feeds (Text.closedLines (l :: ls)) = feeds l + 1 + feeds (Text.closedLines ls) := by
  rw [closedLines_cons, feeds_append, feeds_append]
  rfl

/-- A name that is accepted has no line feed but the one behind it. -/
theorem feeds_of_checkName {p : Parameter} (h : p.checkName = .ok ()) :
    IsIdentifier p.name ∧ feeds p.name = 0 ∨ ¬IsIdentifier p.name ∧ feeds p.name = 1 := by
  have hzero : ∀ name, IsIdentifier name → feeds name = 0 := by
    intro name hname
    rw [feeds_eq_zero_iff]
    intro hmem
    rcases hname.chars _ hmem with h | h
    · cases h
    · cases h
  rcases Parameter.checkName_eq_ok_iff.mp h with hname | ⟨identifier, hidentifier, hname⟩
  · exact Or.inl ⟨hname, hzero _ hname⟩
  · have hone : feeds p.name = 1 := by
      rw [hname, feeds_append, hzero _ hidentifier]
      rfl
    refine Or.inr ⟨fun hp => ?_, hone⟩
    rw [hzero _ hp] at hone
    cases hone

namespace Draft

variable {d : Draft}

/-- No piece of an accessor that the standard settings spell has a line feed. -/
theorem feeds_accessor {p : Parameter} {passage : Passage} (h : p.Passes passage) :
    feeds (passage.accessor {}) = 0 := by
  cases h with
  | plain => rfl
  | @container element _ _ _ =>
      have hsuffix : ∀ (kind : Element) (shape : Shape),
          feeds ("Store" ++ accessorSuffix "U" kind shape) = 0 := by
        intro kind shape
        cases kind <;> cases shape <;> rfl
      exact hsuffix _ _
  | @model spelling _ _ _ =>
      have hidentifier : feeds (Identifier.ofSpelling spelling) = 0 := by
        rw [feeds_eq_zero_iff]
        intro hmem
        cases Parameter.isNameChar_of_mem_ofSpelling spelling _ hmem
      simp only [Passage.accessor, feeds_append, hidentifier]
      rfl

theorem feeds_text (haccessor : feeds (d.passage.accessor {}) = 0) (htarget : feeds d.target = 0) :
    feeds (d.call {}).text = 2 * feeds d.name := by
  have hopening : feeds "(\"" = 0 := rfl
  have hconvert : feeds "\", convert(" = 0 := rfl
  have hcomma : feeds ", " = 0 := rfl
  have hclosing : feeds "))" = 0 := rfl
  simp only [StoreCall.text, call, feeds_append, haccessor, htarget, hopening, hconvert, hcomma,
    hclosing]
  omega

theorem feeds_guard (d : Draft) : feeds ((d.call {}).guard {}) = feeds d.name := by
  have hif : feeds "if " = 0 := rfl
  have hdiffers : feeds " !== " = 0 := rfl
  have habsent : feeds "nothing" = 0 := rfl
  simp only [StoreCall.guard, call, feeds_append, hif, hdiffers, habsent]
  omega

theorem feeds_lines (haccessor : feeds (d.passage.accessor {}) = 0) (htarget : feeds d.target = 0)
    (depth step : Int) (rest : List String) :
    feeds (Text.closedLines (d.lines {} depth step ++ rest)) =
      (if d.required then 1 + 2 * feeds d.name else 3 + 3 * feeds d.name) +
        feeds (Text.closedLines rest) := by
  have hend : feeds StoreCall.guardEnd = 0 := rfl
  unfold lines
  cases d.required with
  | true =>
      simp only [if_true, List.cons_append, List.nil_append, feeds_closedLines_cons, feeds_append,
        feeds_spaces, feeds_text haccessor htarget]
      omega
  | false =>
      simp only [Bool.false_eq_true, if_false, List.cons_append, List.nil_append,
        feeds_closedLines_cons, feeds_append, feeds_spaces, feeds_guard, hend,
        feeds_text haccessor htarget]
      omega

end Draft

namespace Parameter

variable {params : List Parameter} {ds : List Draft}

def hasFeed (p : Parameter) : Bool := feeds p.name != 0

/-- The line feeds of a list of drafts: one for each line, and one for each copy of a name
that ends in one. -/
theorem feeds_drafts (h : List.Forall₂ Drafts params ds)
    (htargets : ∀ p ∈ params, ∀ target, p.Targets target → '\n' ∉ target.toList)
    (depth step : Int) :
    feeds (Text.closedLines (ds.flatMap fun d => d.lines {} depth step)) =
      params.countP (fun p => p.required) + 3 * params.countP (fun p => !p.required) +
        2 * params.countP (fun p => p.required && p.hasFeed) +
        3 * params.countP (fun p => !p.required && p.hasFeed) := by
  induction h with
  | nil => rfl
  | @cons p d params ds hdrafts _ ih =>
      obtain ⟨hp, hparams⟩ := List.forall_mem_cons.mp htargets
      have htarget : feeds d.target = 0 := feeds_eq_zero_iff.mpr (hp _ hdrafts.target)
      have hname : feeds d.name = if p.hasFeed then 1 else 0 := by
        rw [hdrafts.name, hasFeed]
        rcases feeds_of_checkName hdrafts.checked with ⟨-, hfeeds⟩ | ⟨-, hfeeds⟩ <;> simp [hfeeds]
      rw [List.flatMap_cons, Draft.feeds_lines (Draft.feeds_accessor hdrafts.passage) htarget,
        ih hparams, hdrafts.required, hname]
      cases hrequired : p.required <;> cases hfeed : p.hasFeed <;>
        simp only [List.countP_cons, hrequired, hfeed, Bool.not_true, Bool.not_false,
          Bool.and_true, Bool.and_false, if_true, if_false, Bool.false_eq_true] <;>
        omega

/-- No copy of a name brings a line feed along exactly if all names are identifiers. -/
theorem forall_hasFeed_iff (h : List.Forall₂ Drafts params ds) :
    (params.countP (fun p => p.required && p.hasFeed) = 0 ∧
      params.countP (fun p => !p.required && p.hasFeed) = 0) ↔
      ∀ p ∈ params, IsIdentifier p.name := by
  have hchecked : ∀ p ∈ params, p.checkName = .ok () :=
    ((List.forall₂_and_left params ds).mp (h.imp fun _ _ hd => ⟨hd.checked, hd⟩)).1
  rw [List.countP_eq_zero, List.countP_eq_zero, ← forall₂_and]
  refine forall₂_congr fun p hp => ?_
  rcases feeds_of_checkName (hchecked p hp) with ⟨hname, hfeeds⟩ | ⟨hname, hfeeds⟩
  · simp [hasFeed, hfeeds, hname]
  · cases hrequired : p.required <;> simp [hasFeed, hfeeds, hname]

theorem exists_drafts_of_emitText {program text : String}
    (h : emitText {} program params = .ok text) : ∃ ds, List.Forall₂ Drafts params ds ∧
      text = Text.closedLines (ds.flatMap fun d => d.lines {} 2 2) := by
  obtain ⟨reading, hreading⟩ := exists_reading program [] params
  rcases hreading.emitText_cases (s := {}) (by decide) (by decide) with
    ⟨e, herror, -⟩ | ⟨e, -, herror⟩ | ⟨ds, rfl, -, htext⟩
  · cases h.symm.trans herror
  · cases h.symm.trans herror
  · refine ⟨ds, hreading.forall₂_drafts, ?_⟩
    rw [List.map_flatMap] at htext
    simp only [← Draft.lines_eq_map_line] at htext
    exact Except.ok.inj (h.symm.trans htext)

/-- **Names are identifiers, up to a line feed.** Whatever the settings, the sink and the
way in which a parameter is said to be passed: if it is written, its name is an identifier
or an identifier with one line feed behind it. So where a list has a text under the
standard settings, and no target type has a line feed, the text has one for each line, and
two or three more for each name that ends in one, as the parameter is required or not. It
has as many line feeds as lines exactly if all names are identifiers. -/
theorem names_and_line_feeds (p : Parameter) (s : Settings) (w : Sink) (program : String)
    (params : List Parameter) :
    ((∃ category given, ((p.emitIn s category given).run w).1 = .ok ()) ∨
        (∃ given, ((p.emitGiven s given).run w).1 = .ok ()) ∨ ((p.emit s).run w).1 = .ok () →
      IsIdentifier p.name ∨
        ∃ identifier, IsIdentifier identifier ∧ p.name = identifier ++ "\n") ∧
    ∀ text, emitText {} program params = .ok text →
      (∀ q ∈ params, ∀ target, q.Targets target → '\n' ∉ target.toList) →
      feeds text = params.countP (fun q => q.required) +
          3 * params.countP (fun q => !q.required) +
          2 * params.countP (fun q => q.required && q.hasFeed) +
          3 * params.countP (fun q => !q.required && q.hasFeed) ∧
        (feeds text = params.countP (fun q => q.required) +
          3 * params.countP (fun q => !q.required) ↔ ∀ q ∈ params, IsIdentifier q.name) := by
  refine ⟨?_, ?_⟩
  · rintro (⟨category, given, h⟩ | ⟨given, h⟩ | h)
    · exact checkName_eq_ok_iff.mp (checkName_of_emitIn h)
    · exact checkName_eq_ok_iff.mp (checkName_of_emitGiven h)
    · exact checkName_eq_ok_iff.mp (checkName_of_emit h)
  · intro text h htargets
    obtain ⟨ds, hdrafts, rfl⟩ := exists_drafts_of_emitText h
    have hcount := feeds_drafts hdrafts htargets 2 2
    refine ⟨hcount, ?_⟩
    rw [hcount, ← forall_hasFeed_iff hdrafts]
    omega

/-- A required parameter whose name has a line feed behind it is written, over three
lines, although its name is no identifier. -/
theorem size_with_feed : ¬IsIdentifier (size "n\n").name ∧
    ((size "n\n").emit {}).run (Sink.new 2 2) = (.ok (), { Sink.new 2 2 with
      lines := ["  Store(\"n\n\", convert(UInt, n\n))"] }) ∧
    emitText {} "fit" [size "n\n"] = .ok "  Store(\"n\n\", convert(UInt, n\n))\n" ∧
    (∀ target, (size "n\n").Targets target → target = "UInt") ∧
    feeds "  Store(\"n\n\", convert(UInt, n\n))\n" = 3 := by
  refine ⟨fun h => ?_, by rfl, by rfl, ?_, by decide⟩
  · rcases h.chars '\n' (by decide) with hchar | hchar
    · cases hchar
    · cases hchar
  · intro target h
    cases h with
    | own hgiven => cases hgiven
    | type _ _ htext => exact (Option.some.inj htext).symm
    | array _ htype => cases htype
    | model _ htype => cases htype

end Parameter

end InputBindings
