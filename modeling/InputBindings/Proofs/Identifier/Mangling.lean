import InputBindings.Proofs.Identifier.Instantiation

/-!
# Identifiers are mangled types

A type is spelled with much that its identifier does not show: namespaces,
qualifiers, pointer and reference marks, empty argument lists, blanks. What the
passes leave is the instantiation under all that, and its identifier is built
along the tree: the name, and if there are arguments an underscore, their
identifiers with underscores between them, and a last underscore.

Main statement: `ofSpelling_eq_mangle`.
-/

namespace InputBindings.Identifier

open Text

/-! ## Types as they are spelled -/

/-- A word that qualifies a type. -/
structure Qualifier extends Name where
  qualifies : isQualifier chars = true

/-- What may stand behind a type. -/
inductive Mark
  | qualifier (word : Qualifier)
  | pointer
  | reference

def Mark.token : Mark → Token
  | qualifier word => .word word.toName
  | pointer => .star
  | reference => .ampersand

/-- The name of a type with all that may stand in front of it: qualifiers, the
colons of the outermost namespace, and namespaces. -/
structure Path where
  front : List Qualifier
  rooted : Bool
  namespaces : List TypeName
  base : TypeName

def Path.tokens (p : Path) : List Token :=
  (p.front.map fun q => .word q.toName) ++ (if p.rooted then [.colons] else []) ++
    (p.namespaces.flatMap fun n => [.word n.toName, .colons]) ++ [.word p.base.toName]

inductive TypeExpr
  | plain (path : Path) (behind : List Mark)
  | applied (path : Path) (arguments : List TypeExpr) (behind : List Mark)

namespace TypeExpr

mutual
def tokens : TypeExpr → List Token
  | plain path behind => path.tokens ++ behind.map Mark.token
  | applied path [] behind =>
      path.tokens ++ .opening :: .closing :: behind.map Mark.token
  | applied path (a :: as) behind =>
      path.tokens ++ .opening :: (tokens a ++ (tokensAfter as ++ behind.map Mark.token))
def tokensAfter : List TypeExpr → List Token
  | [] => [.closing]
  | a :: as => .comma :: (tokens a ++ tokensAfter as)
end

/-- A name applied to arguments, all of them mangled: nothing is added to a name
without arguments. -/
def joined (base : List Char) : List (List Char) → List Char
  | [] => base
  | argument :: rest => base ++ '_' :: (['_'].intercalate (argument :: rest) ++ ['_'])

mutual
/-- The name of a type, joined with its mangled arguments. -/
def mangle : TypeExpr → List Char
  | plain path _ => path.base.chars
  | applied path arguments _ => joined path.base.chars (mangleEach arguments)
def mangleEach : List TypeExpr → List (List Char)
  | [] => []
  | a :: as => mangle a :: mangleEach as
end

mutual
/-- The instantiation under the namespaces, qualifiers and marks. -/
def skeleton : TypeExpr → Instantiation
  | plain path _ => .of path.base []
  | applied path arguments _ => .of path.base (skeletons arguments)
def skeletons : List TypeExpr → List Instantiation
  | [] => []
  | a :: as => skeleton a :: skeletons as
end

end TypeExpr

/-! ## What the passes leave of a row -/

/-- The row without empty argument lists and then without namespaces. -/
def stripped (ts : List Token) : List Token := withoutPaths (withoutEmpty ts)

/-- Behind a type stands the end of the text, of the list or of the argument. -/
def Ends (ts : List Token) : Prop := ∀ t ∈ ts.head?, t = .closing ∨ t = .comma

theorem ends_nil : Ends [] := by
  rintro t ⟨⟩

theorem ends_closing (ts : List Token) : Ends (.closing :: ts) := by
  rintro t ⟨⟩
  exact Or.inl rfl

theorem ends_comma (ts : List Token) : Ends (.comma :: ts) := by
  rintro t ⟨⟩
  exact Or.inr rfl

theorem Ends.isWord_eq_false {ts : List Token} (h : Ends ts) :
    ∀ t ∈ ts.head?, t.isWord = false := by
  intro t ht
  rcases h t ht with rfl | rfl <;> rfl

theorem Ends.withoutEmpty_ne_colons {ts : List Token} (h : Ends ts) (us : List Token) :
    withoutEmpty ts ≠ .colons :: us := by
  intro hcolons
  cases ts with
  | nil => cases hcolons
  | cons t ts => rcases h t rfl with rfl | rfl <;> cases hcolons

theorem stripped_colons (ts : List Token) : stripped (.colons :: ts) = stripped ts := rfl

theorem stripped_empty (ts : List Token) : stripped (.opening :: .closing :: ts) = stripped ts :=
  rfl

theorem stripped_comma (ts : List Token) : stripped (.comma :: ts) = .comma :: stripped ts := rfl

theorem stripped_closing (ts : List Token) :
    stripped (.closing :: ts) = .closing :: stripped ts := rfl

theorem stripped_namespace (n : Name) (ts : List Token) :
    stripped (.word n :: .colons :: ts) = stripped ts := rfl

theorem stripped_word (n : Name) {ts : List Token} (h : ∀ us, withoutEmpty ts ≠ .colons :: us) :
    stripped (.word n :: ts) = .word n :: stripped ts := by
  show withoutPaths (.word n :: withoutEmpty ts) = _
  rw [withoutPaths]
  · rfl
  · intro m us _ hcolons
    exact h us hcolons
  · exact Token.noConfusion

theorem withoutEmpty_opening {ts : List Token} (h : ∀ us, ts ≠ .closing :: us) :
    withoutEmpty (.opening :: ts) = .opening :: withoutEmpty ts := by
  rw [withoutEmpty]
  intro us _ hclosing
  exact h us hclosing

theorem stripped_opening {ts : List Token} (h : ∀ us, ts ≠ .closing :: us) :
    stripped (.opening :: ts) = .opening :: stripped ts := by
  rw [stripped, withoutEmpty_opening h]
  rfl

theorem plainTokens_append (ts us : List Token) :
    plainTokens (ts ++ us) = plainTokens ts ++ plainTokens us := by
  rw [plainTokens, List.filter_append, List.filter_append]
  rfl

theorem plainTokens_marks (behind : List Mark) : plainTokens (behind.map Mark.token) = [] := by
  have hdropped : ∀ t ∈ behind.map Mark.token, t.isQualifier = true ∨ t.isMark = true := by
    intro t ht
    obtain ⟨mark, -, rfl⟩ := List.mem_map.mp ht
    cases mark with
    | qualifier word => exact Or.inl word.qualifies
    | pointer | reference => exact Or.inr rfl
  rw [plainTokens, List.filter_filter, List.filter_eq_nil_iff]
  intro t ht
  rcases hdropped t ht with h | h <;> simp [h]

/-! ## Paths -/

namespace Path

/-- The tokens of a path without its qualifiers. -/
def unqualified (p : Path) : List Token :=
  (if p.rooted then [.colons] else []) ++
    ((p.namespaces.flatMap fun n => [.word n.toName, .colons]) ++ [.word p.base.toName])

theorem plainTokens_unqualified (p : Path) : plainTokens p.unqualified = p.unqualified := by
  apply Instantiation.plainTokens_eq_self
  intro t ht
  rw [unqualified, List.mem_append, List.mem_append, List.mem_flatMap, List.mem_singleton] at ht
  rcases ht with ht | ⟨n, -, ht⟩ | rfl
  · cases hrooted : p.rooted with
    | false => simp [hrooted] at ht
    | true =>
        simp only [hrooted, if_true, List.mem_singleton] at ht
        exact ht ▸ ⟨rfl, rfl⟩
  · rcases List.mem_pair.mp ht with rfl | rfl
    · exact ⟨n.notQualifier, rfl⟩
    · exact ⟨rfl, rfl⟩
  · exact ⟨p.base.notQualifier, rfl⟩

theorem plainTokens_tokens (p : Path) : plainTokens p.tokens = p.unqualified := by
  have hfront : plainTokens (p.front.map fun q => .word q.toName) = [] := by
    have hmarks := plainTokens_marks (p.front.map Mark.qualifier)
    rwa [List.map_map] at hmarks
  rw [tokens, List.append_assoc, List.append_assoc, plainTokens_append, hfront, List.nil_append,
    ← p.plainTokens_unqualified]
  rfl

theorem closing_not_mem (p : Path) : Token.closing ∉ p.unqualified := by
  simp [unqualified]

theorem exists_unqualified_cons (p : Path) :
    ∃ t ts, p.unqualified = t :: ts ∧ t ≠ .closing := by
  cases hp : p.unqualified with
  | nil => simp [unqualified] at hp
  | cons t ts =>
      refine ⟨t, ts, rfl, ?_⟩
      rintro rfl
      exact p.closing_not_mem (hp ▸ List.mem_cons_self)

theorem stripped_unqualified_append (p : Path) {rest : List Token}
    (h : ∀ us, withoutEmpty rest ≠ .colons :: us) :
    stripped (p.unqualified ++ rest) = .word p.base.toName :: stripped rest := by
  have hnamespaces : stripped ((p.namespaces.flatMap fun n => [.word n.toName, .colons]) ++
      ([.word p.base.toName] ++ rest)) = .word p.base.toName :: stripped rest := by
    induction p.namespaces with
    | nil => exact stripped_word p.base.toName h
    | cons n namespaces ih =>
        rw [List.flatMap_cons, List.append_assoc]
        exact (stripped_namespace n.toName _).trans ih
  rw [unqualified, List.append_assoc, List.append_assoc]
  cases p.rooted with
  | false => exact hnamespaces
  | true => exact (stripped_colons _).trans hnamespaces

end Path

/-! ## Types -/

namespace TypeExpr

theorem plainTokens_plain (path : Path) (behind : List Mark) :
    plainTokens (plain path behind).tokens = path.unqualified := by
  rw [tokens, plainTokens_append, plainTokens_marks, List.append_nil, path.plainTokens_tokens]

theorem plainTokens_applied_nil (path : Path) (behind : List Mark) :
    plainTokens (applied path [] behind).tokens = path.unqualified ++ [.opening, .closing] := by
  have hbrackets : ∀ ts, plainTokens (.opening :: .closing :: ts) =
      [.opening, .closing] ++ plainTokens ts := plainTokens_append [.opening, .closing]
  rw [tokens, plainTokens_append, path.plainTokens_tokens, hbrackets, plainTokens_marks]
  rfl

theorem plainTokens_applied_cons (path : Path) (a : TypeExpr) (as : List TypeExpr)
    (behind : List Mark) :
    plainTokens (applied path (a :: as) behind).tokens =
      path.unqualified ++ .opening :: (plainTokens a.tokens ++ plainTokens (tokensAfter as)) := by
  have hopening : ∀ ts, plainTokens (.opening :: ts) = .opening :: plainTokens ts :=
    plainTokens_append [.opening]
  rw [tokens, plainTokens_append, path.plainTokens_tokens, hopening, plainTokens_append,
    plainTokens_append, plainTokens_marks, List.append_nil]

theorem plainTokens_tokensAfter_cons (a : TypeExpr) (as : List TypeExpr) :
    plainTokens (tokensAfter (a :: as)) =
      .comma :: (plainTokens a.tokens ++ plainTokens (tokensAfter as)) := by
  rw [tokensAfter, ← plainTokens_append]
  exact plainTokens_append [.comma] _

/-- An argument starts with its path, so no list that has arguments looks empty. -/
theorem plainTokens_append_ne_closing (e : TypeExpr) (rest us : List Token) :
    plainTokens e.tokens ++ rest ≠ .closing :: us := by
  have hpath : ∃ (path : Path) (more : List Token),
      plainTokens e.tokens = path.unqualified ++ more := by
    cases e with
    | plain path behind => exact ⟨path, [], by rw [plainTokens_plain, List.append_nil]⟩
    | applied path arguments behind =>
        cases arguments with
        | nil => exact ⟨path, _, plainTokens_applied_nil path behind⟩
        | cons a as => exact ⟨path, _, plainTokens_applied_cons path a as behind⟩
  obtain ⟨path, more, hplain⟩ := hpath
  obtain ⟨t, ts, hts, ht⟩ := path.exists_unqualified_cons
  intro hclosing
  rw [hplain, hts] at hclosing
  exact ht (List.cons.inj hclosing).1

-- What stands behind a type is carried along: it decides whether the last name
-- of the type is a namespace.
mutual
theorem stripped_tokens_append : ∀ (e : TypeExpr) {rest : List Token}, Ends rest →
    stripped (plainTokens e.tokens ++ rest) = e.skeleton.tokens ++ stripped rest
  | plain path behind, rest, hrest => by
      rw [plainTokens_plain, path.stripped_unqualified_append hrest.withoutEmpty_ne_colons]
      rfl
  | applied path [] behind, rest, hrest => by
      have hlist : ∀ us, withoutEmpty ([.opening, .closing] ++ rest) ≠ .colons :: us :=
        hrest.withoutEmpty_ne_colons
      rw [plainTokens_applied_nil, List.append_assoc, path.stripped_unqualified_append hlist]
      show _ :: stripped (.opening :: .closing :: rest) = _
      rw [stripped_empty]
      rfl
  | applied path (a :: as) behind, rest, hrest => by
      obtain ⟨hafter, hends⟩ := stripped_tokensAfter_append as hrest
      have hargument := stripped_tokens_append a hends
      have hfull := a.plainTokens_append_ne_closing (plainTokens (tokensAfter as) ++ rest)
      have hlist : ∀ us, withoutEmpty (.opening ::
          (plainTokens a.tokens ++ (plainTokens (tokensAfter as) ++ rest))) ≠ .colons :: us := by
        intro us
        rw [withoutEmpty_opening hfull]
        rintro ⟨⟩
      rw [plainTokens_applied_cons, List.append_assoc, List.cons_append, List.append_assoc,
        path.stripped_unqualified_append hlist, stripped_opening hfull, hargument, hafter,
        skeleton, skeletons, Instantiation.tokens, List.cons_append, List.cons_append,
        List.append_assoc]
theorem stripped_tokensAfter_append : ∀ (as : List TypeExpr) {rest : List Token}, Ends rest →
    stripped (plainTokens (tokensAfter as) ++ rest) =
        Instantiation.tokensAfter (skeletons as) ++ stripped rest ∧
      Ends (plainTokens (tokensAfter as) ++ rest)
  | [], rest, hrest => by
      exact ⟨stripped_closing rest, ends_closing rest⟩
  | a :: as, rest, hrest => by
      obtain ⟨hafter, hends⟩ := stripped_tokensAfter_append as hrest
      have hargument := stripped_tokens_append a hends
      rw [plainTokens_tokensAfter_cons, List.cons_append, List.append_assoc]
      refine ⟨?_, ends_comma _⟩
      rw [stripped_comma, hargument, hafter, skeletons, Instantiation.tokensAfter,
        List.cons_append, List.append_assoc]
end

theorem core_tokens (e : TypeExpr) : core e.tokens = e.skeleton.tokens := by
  have h := stripped_tokens_append e ends_nil
  rwa [List.append_nil, show stripped [] = [] from rfl, List.append_nil] at h

/-- No word follows a bracket that closes. -/
def Parted (a b : Token) : Prop := a = .closing → b.isWord = false

theorem isChain_parted_cons {t : Token} {rest : List Token} (ht : t ≠ .closing)
    (hrest : rest.IsChain Parted) : (t :: rest).IsChain Parted :=
  List.isChain_cons.mpr ⟨fun _ _ hclosing => absurd hclosing ht, hrest⟩

theorem isChain_parted_append {ts rest : List Token} (hts : Token.closing ∉ ts)
    (hrest : rest.IsChain Parted) : (ts ++ rest).IsChain Parted := by
  induction ts with
  | nil => exact hrest
  | cons t ts ih =>
      rw [List.mem_cons, not_or] at hts
      exact isChain_parted_cons (Ne.symm hts.1) (ih hts.2)

theorem isChain_parted_closing {rest : List Token} (hrest : rest.IsChain Parted)
    (hends : Ends rest) : (.closing :: rest : List Token).IsChain Parted :=
  List.isChain_cons.mpr ⟨fun b hb _ => hends.isWord_eq_false b hb, hrest⟩

mutual
theorem tokens_append_isChain_parted : ∀ (e : TypeExpr) {rest : List Token},
    rest.IsChain Parted → Ends rest → (plainTokens e.tokens ++ rest).IsChain Parted
  | plain path behind, rest, hrest, _ => by
      rw [plainTokens_plain]
      exact isChain_parted_append path.closing_not_mem hrest
  | applied path [] behind, rest, hrest, hends => by
      rw [plainTokens_applied_nil, List.append_assoc]
      exact isChain_parted_append path.closing_not_mem
        (isChain_parted_cons Token.noConfusion (isChain_parted_closing hrest hends))
  | applied path (a :: as) behind, rest, hrest, hends => by
      obtain ⟨hafter, hafterEnds⟩ := tokensAfter_append_isChain_parted as hrest hends
      have hargument := tokens_append_isChain_parted a hafter hafterEnds
      rw [plainTokens_applied_cons, List.append_assoc, List.cons_append, List.append_assoc]
      exact isChain_parted_append path.closing_not_mem
        (isChain_parted_cons Token.noConfusion hargument)
theorem tokensAfter_append_isChain_parted : ∀ (as : List TypeExpr) {rest : List Token},
    rest.IsChain Parted → Ends rest →
    (plainTokens (tokensAfter as) ++ rest).IsChain Parted ∧
      Ends (plainTokens (tokensAfter as) ++ rest)
  | [], rest, hrest, hends => by
      exact ⟨isChain_parted_closing hrest hends, ends_closing rest⟩
  | a :: as, rest, hrest, hends => by
      obtain ⟨hafter, hafterEnds⟩ := tokensAfter_append_isChain_parted as hrest hends
      have hargument := tokens_append_isChain_parted a hafter hafterEnds
      rw [plainTokens_tokensAfter_cons, List.cons_append, List.append_assoc]
      exact ⟨isChain_parted_cons Token.noConfusion hargument, ends_comma _⟩
end

theorem tokens_isChain_parted (e : TypeExpr) : (plainTokens e.tokens).IsChain Parted := by
  have h := tokens_append_isChain_parted e List.isChain_nil ends_nil
  rwa [List.append_nil] at h

theorem reduced_of_laid_tokens (e : TypeExpr) {cs : List Char} (h : Laid e.tokens cs) :
    reduced cs = e.skeleton.tokens.flatMap Token.chars := by
  have htight : (core e.tokens).IsChain Tight := by
    rw [e.core_tokens]
    exact e.skeleton.tokens_isChain.imp fun _ _ => Instantiation.tight_of_follows
  rw [reduced_of_laid h e.tokens_isChain_parted htight, e.core_tokens]

/-- With a blank behind each of them the tokens of any row are laid out. -/
theorem laid_spaced (ts : List Token) : Laid ts (ts.flatMap fun t => t.chars ++ [' ']) := by
  induction ts with
  | nil => exact .blanks (List.forall_mem_nil _)
  | cons t ts ih =>
      rw [List.flatMap_cons, List.append_assoc]
      exact (ih.blanks_append blanks_space).cons fun _ => rfl

/-! ## Mangling -/

theorem intercalate_cons (sep : Char) (part : List Char) (parts : List (List Char)) :
    [sep].intercalate (part :: parts) = part ++ parts.flatMap (sep :: ·) := by
  induction parts generalizing part with
  | nil => rw [List.intercalate_singleton, List.flatMap_nil, List.append_nil]
  | cons next parts ih =>
      rw [List.intercalate_cons_cons, ih, List.flatMap_cons, List.append_assoc]
      rfl

mutual
theorem written_skeleton : ∀ e : TypeExpr, Instantiation.written e.skeleton.tokens = e.mangle
  | plain path behind => by
      rw [skeleton, Instantiation.tokens, Instantiation.written_word, mangle]
      exact List.append_nil _
  | applied path [] behind => by
      rw [skeleton, skeletons, Instantiation.tokens, Instantiation.written_word, mangle]
      exact List.append_nil _
  | applied path (a :: as) behind => by
      rw [skeleton, skeletons, Instantiation.tokens, Instantiation.written_word,
        Instantiation.written_cons, Instantiation.written_append, written_skeleton a,
        written_skeletons as, mangle, mangleEach, joined, intercalate_cons, List.append_assoc]
      rfl
theorem written_skeletons : ∀ as : List TypeExpr,
    Instantiation.written (Instantiation.tokensAfter (skeletons as)) =
      (mangleEach as).flatMap ('_' :: ·) ++ ['_']
  | [] => rfl
  | a :: as => by
      rw [skeletons, Instantiation.tokensAfter, Instantiation.written_cons,
        Instantiation.written_append, written_skeleton a, written_skeletons as, mangleEach,
        List.flatMap_cons, List.append_assoc]
      rfl
end

/-- **Identifiers are mangled types.** Whatever the blanks in the spelling of a
type, its identifier is the mangled type. So it tells nothing of the blanks, nor
of the namespaces, qualifiers and marks at any depth, nor of the brackets of an
empty list: spellings of types with one instantiation under all that have one
identifier. -/
theorem ofSpelling_eq_mangle (e : TypeExpr) {spelling : String}
    (h : Laid e.tokens spelling.toList) :
    ofSpelling spelling = String.ofList e.mangle ∧
      ∀ (e' : TypeExpr) (spelling' : String), Laid e'.tokens spelling'.toList →
        e'.skeleton = e.skeleton → ofSpelling spelling' = ofSpelling spelling := by
  have hmangle : ∀ (e : TypeExpr) {spelling : String}, Laid e.tokens spelling.toList →
      ofSpelling spelling = String.ofList (Instantiation.written e.skeleton.tokens) :=
    fun e _ h => (e.skeleton.ofSpelling_of_reduced (e.reduced_of_laid_tokens h)).1
  refine ⟨?_, ?_⟩
  · rw [hmangle e h, e.written_skeleton]
  · intro e' spelling' h' hskeleton
    rw [hmangle e' h', hmangle e h, hskeleton]

/-! ## One instantiation, spelled in two ways -/

def unadorned (c : Char) (h : Text.isName [c] = true ∧ isQualifier [c] = false) : Path :=
  { front := [], rooted := false, namespaces := [], base := Instantiation.letter c h }

def constant : Qualifier := ⟨⟨"const".toList, by decide⟩, by decide⟩

/-- Two arguments, one of them a pointer to a type with an empty list, the other
a reference; the whole is constant and stands in a namespace. -/
def adornedPair : TypeExpr :=
  applied { unadorned 'V' (by decide) with
      front := [constant], rooted := true, namespaces := [Instantiation.letter 'n' (by decide)] }
    [applied (unadorned 'X' (by decide)) [] [.pointer, .qualifier constant],
      plain (unadorned 'Y' (by decide)) [.reference]] [.qualifier constant]

def unadornedPair : TypeExpr :=
  applied (unadorned 'V' (by decide))
    [plain (unadorned 'X' (by decide)) [], plain (unadorned 'Y' (by decide)) []] []

theorem ofSpelling_pairs :
    Laid adornedPair.tokens "const :: n :: V < X < > * const , Y & > const ".toList ∧
      ofSpelling "const :: n :: V < X < > * const , Y & > const " = "V_X_Y_" ∧
      Laid unadornedPair.tokens "V < X , Y > ".toList ∧
      ofSpelling "V < X , Y > " =
        ofSpelling "const :: n :: V < X < > * const , Y & > const " := by
  have hadorned : Laid adornedPair.tokens
      "const :: n :: V < X < > * const , Y & > const ".toList := laid_spaced adornedPair.tokens
  have hunadorned : Laid unadornedPair.tokens "V < X , Y > ".toList :=
    laid_spaced unadornedPair.tokens
  obtain ⟨hmangle, hsame⟩ := ofSpelling_eq_mangle adornedPair hadorned
  exact ⟨hadorned, hmangle, hunadorned, hsame unadornedPair _ hunadorned rfl⟩

end TypeExpr

end InputBindings.Identifier
