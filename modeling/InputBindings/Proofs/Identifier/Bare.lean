import InputBindings.Proofs.Identifier.Instantiation
import InputBindings.Proofs.LineFeeds

/-!
# What is left of a spelling

A spelling is any text at all: brackets need not match, colons may stand alone, and its
characters may be of any script. Whatever it is, no pass makes it longer, and what is left
is an identifier or nothing. The first character decides: it must be a letter of some
script or an underscore, and a letter that an identifier cannot hold becomes an underscore
like every other such character, so no digit comes to stand in front.

An identifier is one token, which every pass keeps unless it is a qualifier. So the store
call of a model has an accessor that is an identifier.

Main statement: `identifier_of_every_spelling`.
-/

namespace InputBindings

open Traversal Writing

namespace Identifier

open Text

/-! ## No pass makes a text longer -/

theorem length_takeWhile_add_dropWhile (p : Char → Bool) (cs : List Char) :
    (cs.takeWhile p).length + (cs.dropWhile p).length = cs.length := by
  rw [← List.length_append, List.takeWhile_append_dropWhile]

theorem length_dropQualifiers_le (cs : List Char) :
    (dropQualifiers cs).length ≤ cs.length := by
  fun_induction dropQualifiers cs with
  | case1 => exact Nat.le_refl 0
  | case2 c cs hc word ih =>
      have hsplit := length_takeWhile_add_dropWhile isWord cs
      -- A word has a character at least, and one space takes its place.
      have hword : (if isQualifier word then [' '] else word).length ≤
          (cs.takeWhile isWord).length + 1 := by
        split
        · exact Nat.le_add_left 1 _
        · exact Nat.le_refl _
      rw [List.length_append, List.length_cons]
      omega
  | case3 c cs hc ih => exact Nat.succ_le_succ ih

theorem length_dropMarks (cs : List Char) : (dropMarks cs).length = cs.length :=
  List.length_map _

theorem length_dropEmptyArguments_le (cs : List Char) :
    (dropEmptyArguments cs).length ≤ cs.length := by
  fun_induction dropEmptyArguments cs with
  | case1 => exact Nat.le_refl 0
  | case2 cs rest hrest ih =>
      have hdropped := length_dropWhile_le isBlank cs
      rw [hrest, List.length_cons] at hdropped
      rw [List.length_cons]
      omega
  | case3 cs hrest ih => exact Nat.succ_le_succ ih
  | case4 c cs hc ih => exact Nat.succ_le_succ ih

theorem length_dropNamespaces_le (cs : List Char) :
    (dropNamespaces cs).length ≤ cs.length := by
  have hkept : ∀ (c : Char) {cs : List Char},
      (dropNamespaces (cs.dropWhile isWord)).length ≤ (cs.dropWhile isWord).length →
      (c :: cs.takeWhile isWord ++ dropNamespaces (cs.dropWhile isWord)).length ≤
        (c :: cs).length := by
    intro c cs ih
    have hsplit := length_takeWhile_add_dropWhile isWord cs
    rw [List.length_append, List.length_cons, List.length_cons]
    omega
  fun_induction dropNamespaces cs with
  | case1 => exact Nat.le_refl 0
  | case2 c cs hc hstart rest hrest ih =>
      have hcolons := length_afterColons hrest
      have hblanks := length_dropWhile_le isBlank (cs.dropWhile isWord)
      have hword := length_dropWhile_le isWord cs
      rw [List.length_cons]
      omega
  | case3 c cs hc hstart hrest ih => exact hkept c ih
  | case4 c cs hc hstart ih => exact hkept c ih
  | case5 c cs hc rest hrest ih =>
      have hcolons := length_afterColons hrest
      omega
  | case6 c cs hc hrest ih => exact Nat.succ_le_succ ih

theorem length_tighten_le (cs : List Char) : (tighten cs).length ≤ cs.length := by
  fun_induction tighten cs with
  | case1 => exact Nat.le_refl 0
  | case2 c cs hc ih =>
      have hdropped := length_dropWhile_le isBlank cs
      rw [List.length_cons, List.length_cons]
      omega
  | case3 c cs hc hblank hrest =>
      have hsplit := length_takeWhile_add_dropWhile isBlank cs
      rw [List.length_cons, List.length_cons]
      omega
  | case4 c cs hc hblank d rest hrest hd ih =>
      have hdropped := length_dropWhile_le isBlank cs
      have hbehind := length_dropWhile_le isBlank rest
      rw [hrest, List.length_cons] at hdropped
      rw [List.length_cons, List.length_cons]
      omega
  | case5 c cs hc hblank d rest hrest hd ih =>
      have hsplit := length_takeWhile_add_dropWhile isBlank cs
      rw [hrest] at hsplit
      rw [List.length_append, List.length_cons, List.length_cons]
      omega
  | case6 c cs hc hblank ih => exact Nat.succ_le_succ ih

theorem length_trim_le (blank : Char → Bool) (cs : List Char) :
    (trim blank cs).length ≤ cs.length := by
  have hfront := length_dropWhile_le blank cs
  have hback := length_dropWhile_le blank (cs.dropWhile blank).reverse
  rw [List.length_reverse] at hback
  rw [trim, List.length_reverse]
  omega

theorem length_reduced_le (cs : List Char) : (reduced cs).length ≤ cs.length :=
  calc (reduced cs).length
      ≤ _ := length_trim_le isBlank _
    _ ≤ _ := length_tighten_le _
    _ ≤ _ := length_dropNamespaces_le _
    _ ≤ _ := length_dropEmptyArguments_le _
    _ = _ := length_dropMarks _
    _ ≤ cs.length := length_dropQualifiers_le cs

theorem length_bare_le (cs : List Char) : (bare cs).length ≤ cs.length := by
  have hreduced := length_reduced_le cs
  unfold bare
  split
  · exact Nat.zero_le _
  · rename_i c rest hrest
    rw [hrest] at hreduced
    split
    · rwa [List.length_map]
    · exact Nat.zero_le _

theorem length_ofSpelling_le (spelling : String) :
    (ofSpelling spelling).length ≤ spelling.length := by
  rw [ofSpelling, String.length_ofList, ← String.length_toList]
  exact length_bare_le spelling.toList

/-! ## What is left is an identifier -/

theorem bare_eq_nil_or_isName (cs : List Char) : bare cs = [] ∨ isName (bare cs) = true := by
  unfold bare
  split
  · exact Or.inl rfl
  · rename_i c rest _
    split
    · rename_i hfirst
      refine Or.inr ?_
      rw [List.map_cons, isName, isNameStart_underscored hfirst, Bool.true_and,
        List.all_eq_true]
      intro d hd
      obtain ⟨kept, -, rfl⟩ := List.mem_map.mp hd
      exact isNameChar_underscored kept
    · exact Or.inl rfl

theorem ofSpelling_eq_empty_or_isIdentifier (spelling : String) :
    ofSpelling spelling = "" ∨ IsIdentifier (ofSpelling spelling) := by
  rw [← isName_iff, ofSpelling, String.toList_ofList, String.ofList_eq_empty_iff]
  exact bare_eq_nil_or_isName spelling.toList

/-! ## An identifier as a spelling -/

theorem laid_name (n : Name) : Laid [.word n] n.chars := by
  have h : Laid [.word n] (n.chars ++ []) :=
    Laid.cons (fun _ => rfl) (.blanks (List.forall_mem_nil _))
  rwa [List.append_nil] at h

theorem isQualifier_iff {spelling : String} :
    isQualifier spelling.toList = true ↔ spelling ∈ qualifiers := by
  simp [isQualifier, String.toList_inj]

/-- A qualifier is the only token that the passes take off a row of one name. -/
theorem ofSpelling_of_isIdentifier {spelling : String} (h : IsIdentifier spelling) :
    ofSpelling spelling = if spelling ∈ qualifiers then "" else spelling := by
  have hname := (isName_iff spelling).mpr h
  by_cases hqualifier : isQualifier spelling.toList = true
  · have hplain : plainTokens [.word ⟨spelling.toList, hname⟩] = [] := by
      simp [plainTokens, Token.isQualifier, hqualifier]
    have hcore : core [.word ⟨spelling.toList, hname⟩] = [] := by
      rw [core, hplain]
      rfl
    have hreduced : reduced spelling.toList = [] := by
      rw [reduced_of_laid (laid_name ⟨spelling.toList, hname⟩) (by rw [hplain]; exact .nil)
        (by rw [hcore]; exact .nil), hcore, List.flatMap_nil]
    rw [if_pos (isQualifier_iff.mp hqualifier), ofSpelling, bare, hreduced]
  · let n : TypeName := ⟨⟨spelling.toList, hname⟩, by simpa using hqualifier⟩
    have hlaid : Laid (Instantiation.of n []).tokens spelling.toList := laid_name n.toName
    rw [if_neg fun hmem => hqualifier (isQualifier_iff.mpr hmem),
      (Instantiation.ofSpelling_of_laid _ hlaid).1]
    show String.ofList (Instantiation.written [.word n.toName]) = spelling
    rw [Instantiation.written_word, Instantiation.written, List.flatMap_nil, List.map_nil,
      List.append_nil, String.ofList_toList]

end Identifier

/-! ## Accessors of models -/

theorem IsIdentifier.append {name rest : String} (h : IsIdentifier name)
    (hrest : ∀ c ∈ rest.toList, Text.isNameChar c = true) : IsIdentifier (name ++ rest) := by
  refine ⟨fun hempty => ?_, ?_, ?_⟩
  · exact h.nonempty (String.append_eq_empty_iff.mp hempty).1
  · intro c hc
    rw [String.toList_append, List.mem_append] at hc
    rcases hc with hc | hc
    · exact h.chars c hc
    · simpa [Text.isNameChar] using hrest c hc
  · intro c hc
    cases hname : name.toList with
    | nil => exact absurd (String.toList_eq_nil_iff.mp hname) h.nonempty
    | cons d ds =>
        rw [String.toList_append, hname, List.cons_append, List.head?_cons] at hc
        exact h.first c (by rw [hname, List.head?_cons, hc])

namespace Parameter

variable {p : Parameter} {s : Settings} {w v : Sink} {call : StoreCall}

/-- The parameter is written as a model without a failure: for its type, or because it is
said to be one. -/
inductive WritesModel (p : Parameter) (s : Settings) (w v : Sink) : Prop
  | type (model : p.type.IsModel) (run : (p.emit s).run w = (.ok (), v))
  | family (typeName : String)
      (run : (p.emitGiven s (.inr (.model typeName))).run w = (.ok (), v))
  | category (given : Value ⊕ Family) (run : (p.emitIn s .model given).run w = (.ok (), v))

theorem WritesModel.exists_emitAs (h : p.WritesModel s w v) :
    ∃ typeName, (p.emitAs s (.model typeName)).run w = (.ok (), v) := by
  cases h with
  | type hmodel hrun =>
      rw [emit, run_bind_ok (x := .model p.type.name) (v := w)
        (by rw [Writing.run_lift, NativeType.family_of_isModel hmodel])] at hrun
      exact ⟨_, hrun⟩
  | family typeName hrun => exact ⟨_, hrun⟩
  | category given hrun => exact ⟨_, hrun⟩

/-- The call that stores a model under the default settings: its accessor is an
identifier, built around the one that is left of the native spelling. -/
structure ModelCall (p : Parameter) (call : StoreCall) : Prop where
  name : call.name = p.name
  identifier : ∃ spelling, p.underlying = .str spelling ∧
    IsIdentifier (Identifier.ofSpelling spelling) ∧
    call.accessor = "Store" ++ Identifier.ofSpelling spelling ++ "Ptr"
  accessor : IsIdentifier call.accessor

theorem modelCall_of_storeCall {typeName : String}
    (h : p.storeCall {} (.model typeName) = .ok call) : p.ModelCall call := by
  obtain ⟨haccessor, hname, -⟩ := storeCall_eq_ok h
  refine ⟨hname, ?_, ?_⟩
  · obtain ⟨identifier, hidentifier, hbuilt⟩ := bind_eq_ok_iff.mp haccessor
    obtain ⟨spelling, hunderlying, hnonempty, rfl⟩ := exists_spelling_of_identifier hidentifier
    exact ⟨spelling, hunderlying,
      (Identifier.ofSpelling_eq_empty_or_isIdentifier spelling).resolve_left hnonempty,
      (Except.ok.inj hbuilt).symm⟩
  · have hprefix : IsIdentifier "Store" := (isName_iff "Store").mp (by decide)
    obtain ⟨rest, hrest, hchars⟩ := exists_rest_of_accessor haccessor
    rw [hrest]
    exact hprefix.append hchars

theorem WritesModel.exists_call (h : p.WritesModel {} w v) :
    ∃ call written blanks, p.ModelCall call ∧
      v = { w with lines := w.lines ++ written } ∧ blanks ++ call.text ∈ written := by
  obtain ⟨typeName, hrun⟩ := h.exists_emitAs
  unfold emitAs at hrun
  cases hcall : p.storeCall {} (.model typeName) with
  | error e =>
      rw [hcall, run_bind_error (run_lift _ w)] at hrun
      cases hrun
  | ok call =>
      rw [hcall, run_bind_ok (run_lift _ w)] at hrun
      obtain ⟨written, blanks, hv, hline⟩ := StoreCall.exists_line_of_write hrun
      exact ⟨call, written, blanks, modelCall_of_storeCall hcall, hv, hline⟩

theorem Drafts.modelCall {d : Draft} (h : p.Drafts d) (hmodel : p.type.IsModel) :
    p.ModelCall (d.call {}) := by
  have hcall := h.call {}
  rw [NativeType.family_of_isModel hmodel] at hcall
  exact modelCall_of_storeCall hcall

/-- The call of a draft is on a line of its own. -/
theorem exists_line_of_draft (d : Draft) (s : Settings) (depth step : Int) :
    ∃ blanks, blanks ++ (d.call s).text ∈ d.lines s depth step := by
  unfold Draft.lines
  cases d.required with
  | true => exact ⟨spaces depth, by simp⟩
  | false => exact ⟨spaces (depth + step), by simp⟩

/-- **What is left of a spelling is an identifier.** Of every text, be it a spelling or
not, an identifier is left that is no longer than the text, or nothing. A text that is an
identifier is left as it is unless it is a qualifier, of which nothing is left. So
wherever a model is written under the default settings, to whatever sink, for its type or
because it is said to be one, its call stands on a line, and the accessor in it is an
identifier. The same holds of all models in a parameter list that has a text. -/
theorem identifier_of_every_spelling (spelling program : String) (params : List Parameter)
    (p : Parameter) (w v : Sink) :
    (Identifier.ofSpelling spelling = "" ∨ IsIdentifier (Identifier.ofSpelling spelling)) ∧
    (Identifier.ofSpelling spelling).length ≤ spelling.length ∧
    (IsIdentifier spelling →
      Identifier.ofSpelling spelling =
        if spelling ∈ ["const", "volatile", "struct", "class", "typename"] then ""
        else spelling) ∧
    (p.WritesModel {} w v → ∃ call written blanks, p.ModelCall call ∧
      v = { w with lines := w.lines ++ written } ∧ blanks ++ call.text ∈ written) ∧
    ∀ text, emitText {} program params = .ok text →
      ∃ lines, text = Text.closedLines lines ∧ ∀ q ∈ params, q.type.IsModel →
        ∃ call blanks, q.ModelCall call ∧ blanks ++ call.text ∈ lines := by
  refine ⟨Identifier.ofSpelling_eq_empty_or_isIdentifier spelling,
    Identifier.length_ofSpelling_le spelling, Identifier.ofSpelling_of_isIdentifier,
    WritesModel.exists_call, ?_⟩
  intro text h
  obtain ⟨ds, hdrafts, htext⟩ := exists_drafts_of_emitText h
  refine ⟨_, htext, ?_⟩
  intro q hq hmodel
  obtain ⟨d, hd, hqd⟩ := exists_mem_of_forall₂ hdrafts hq
  obtain ⟨blanks, hline⟩ := exists_line_of_draft d {} 2 2
  exact ⟨d.call {}, blanks, hqd.modelCall hmodel, List.mem_flatMap.mpr ⟨d, hd, hline⟩⟩

/-- A required model whose type is an instantiation. -/
def mixture : Parameter :=
  { name := "model", type := .model "HMM<GMM>" .null, required := true }

theorem ofSpelling_mixture : Identifier.ofSpelling "HMM<GMM>" = "HMM_GMM_" := by
  let gmm : Identifier.TypeName := ⟨⟨"GMM".toList, by decide⟩, by decide⟩
  let hmm : Identifier.TypeName := ⟨⟨"HMM".toList, by decide⟩, by decide⟩
  have hlaid := (Identifier.Instantiation.of hmm [.of gmm []]).laid_spelling
  exact (Identifier.Instantiation.ofSpelling_of_laid _ hlaid).1

theorem mixture_drafts : mixture.Drafts ⟨.model "HMM_GMM_", "model", "HMM_GMM_", true⟩ := by
  have hmodel : mixture.type.IsModel := ⟨rfl, rfl⟩
  have hnonempty : Identifier.ofSpelling "HMM<GMM>" ≠ "" := by
    rw [ofSpelling_mixture]
    decide
  rw [← ofSpelling_mixture]
  exact ⟨rfl, .model hmodel rfl hnonempty, rfl, .model rfl rfl hmodel hnonempty, rfl⟩

/-- An identifier as a spelling, and a model that is written to a sink and as a list. -/
theorem mixture_accessed :
    IsIdentifier "GMM" ∧ Identifier.ofSpelling "GMM" = "GMM" ∧
    mixture.type.IsModel ∧ ∃ v code,
      mixture.WritesModel {} (Sink.new 2 2) v ∧
      (∃ call written blanks, mixture.ModelCall call ∧
        v = { Sink.new 2 2 with lines := (Sink.new 2 2).lines ++ written } ∧
        blanks ++ call.text ∈ written) ∧
      emitText {} "hmm" [mixture] = .ok code ∧
      ∃ lines, code = Text.closedLines lines ∧
        ∃ call blanks, mixture.ModelCall call ∧ blanks ++ call.text ∈ lines := by
  have hmodel : mixture.type.IsModel := ⟨rfl, rfl⟩
  have hwrites : Writes (mixture.emit {}) 2 2 (.ok ()) _ :=
    mixture_drafts.writes_lines {} ⟨by decide, by decide⟩ ⟨by decide, by decide⟩
  have hwritten := WritesModel.type hmodel (hwrites (Sink.new 2 2) rfl rfl)
  have htext : emitText {} "hmm" [mixture] = .ok _ := emitText_singleton hwrites
  have hname : IsIdentifier "GMM" := (isName_iff "GMM").mp (by decide)
  obtain ⟨-, -, hkept, hone, hlist⟩ := identifier_of_every_spelling "GMM" "hmm" [mixture]
    mixture (Sink.new 2 2) _
  obtain ⟨lines, hlines, hall⟩ := hlist _ htext
  exact ⟨hname, hkept hname, hmodel, _, _, hwritten, hone hwritten, htext, lines, hlines,
    hall mixture List.mem_cons_self hmodel⟩

end Parameter

end InputBindings
