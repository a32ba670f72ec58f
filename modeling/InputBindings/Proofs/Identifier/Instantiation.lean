import InputBindings.Proofs.Identifier.Passes
import InputBindings.StoreCall

/-!
# Identifiers of template instantiations

Brackets, commas and the underscores of names all end as underscores, so the
identifier of an instantiation does not tell them apart. What it does tell are
the pieces between underscores: the pieces of the names from left to right, and
an empty one for each bracket that closes. Two instantiations whose pieces agree
have one identifier, and one accessor. They are different only if a name has an
underscore or two instantiations of one name differ in the number of arguments:
otherwise the pieces are a prefix code of the tree.

Main statement: `accessors_agree_iff_pieces`.
-/

namespace InputBindings.Identifier

open Text

/-! ## Instantiations -/

/-- A name that is not the word of a qualifier. -/
structure TypeName extends Name where
  notQualifier : isQualifier chars = false
  deriving DecidableEq

/-- A name with the arguments that it is applied to. A name without arguments
stands for itself. -/
inductive Instantiation
  | of (name : TypeName) (arguments : List Instantiation)

namespace Instantiation

mutual
def tokens : Instantiation → List Token
  | of n [] => [.word n.toName]
  | of n (a :: as) => .word n.toName :: .opening :: (tokens a ++ tokensAfter as)
def tokensAfter : List Instantiation → List Token
  | [] => [.closing]
  | a :: as => .comma :: (tokens a ++ tokensAfter as)
end

/-- The spelling without blanks. -/
def spelling (t : Instantiation) : String := String.ofList (t.tokens.flatMap Token.chars)

mutual
/-- The pieces of the names, and an empty one for each closing bracket. -/
def pieces : Instantiation → List (List Char)
  | of n [] => n.chars.splitOn '_'
  | of n (a :: as) => n.chars.splitOn '_' ++ (pieces a ++ piecesAfter as)
def piecesAfter : List Instantiation → List (List Char)
  | [] => [[]]
  | a :: as => pieces a ++ piecesAfter as
end

/-- No name has an underscore, and each is always applied to the same number of
arguments. -/
inductive Ranked (arity : List Char → Nat) : Instantiation → Prop
  | of {n : TypeName} {as : List Instantiation} :
      '_' ∉ n.chars → as.length = arity n.chars → (∀ a ∈ as, Ranked arity a) →
      Ranked arity (of n as)

/-! ## The tokens of an instantiation -/

theorem exists_tokens_cons (t : Instantiation) : ∃ n ts, t.tokens = .word n :: ts := by
  cases t with
  | of n as =>
      cases as with
      | nil => exact ⟨n.toName, [], rfl⟩
      | cons a as => exact ⟨n.toName, _, rfl⟩

/-- What stands behind a token: a name where an argument starts, punctuation
elsewhere. -/
def Follows (a b : Token) : Prop :=
  if a = .opening ∨ a = .comma then b.isWord = true else b.isPunctuation = true

/-- In front of an argument stands an opening bracket or a comma. -/
theorem argument_isChain (t : Instantiation) {b : Token} (hb : b = .opening ∨ b = .comma)
    {rest : List Token} (h : (t.tokens ++ rest).IsChain Follows) :
    (b :: (t.tokens ++ rest)).IsChain Follows := by
  obtain ⟨n, ts, hts⟩ := t.exists_tokens_cons
  rw [hts] at h ⊢
  refine List.isChain_cons.mpr ⟨?_, h⟩
  rintro c ⟨⟩
  rw [Follows, if_pos hb]
  rfl

-- What follows an instantiation is punctuation, so the row behind it is carried
-- along and must start with punctuation.
mutual
theorem tokens_append_isChain : ∀ (t : Instantiation) {rest : List Token},
    rest.IsChain Follows → (∀ b ∈ rest.head?, b.isPunctuation = true) →
    (t.tokens ++ rest).IsChain Follows
  | of n [], rest, hrest, hhead => by
      rw [tokens, List.singleton_append, List.isChain_cons]
      exact ⟨hhead, hrest⟩
  | of n (a :: as), rest, hrest, hhead => by
      obtain ⟨hafter, hafterHead⟩ := tokensAfter_append_isChain as hrest hhead
      have ha := a.argument_isChain (Or.inl rfl) (tokens_append_isChain a hafter hafterHead)
      rw [tokens, List.cons_append, List.cons_append, List.append_assoc]
      refine List.isChain_cons.mpr ⟨?_, ha⟩
      rintro b ⟨⟩
      rfl
theorem tokensAfter_append_isChain : ∀ (as : List Instantiation) {rest : List Token},
    rest.IsChain Follows → (∀ b ∈ rest.head?, b.isPunctuation = true) →
    (tokensAfter as ++ rest).IsChain Follows ∧
      ∀ b ∈ (tokensAfter as ++ rest).head?, b.isPunctuation = true
  | [], rest, hrest, hhead => by
      rw [tokensAfter, List.singleton_append, List.isChain_cons]
      refine ⟨⟨hhead, hrest⟩, ?_⟩
      rintro b ⟨⟩
      rfl
  | a :: as, rest, hrest, hhead => by
      obtain ⟨hafter, hafterHead⟩ := tokensAfter_append_isChain as hrest hhead
      have ha := a.argument_isChain (Or.inr rfl) (tokens_append_isChain a hafter hafterHead)
      rw [tokensAfter, List.cons_append, List.append_assoc]
      refine ⟨ha, ?_⟩
      rintro b ⟨⟩
      rfl
end

theorem tokens_isChain (t : Instantiation) : t.tokens.IsChain Follows := by
  have h := tokens_append_isChain t List.isChain_nil (by rintro b ⟨⟩)
  rwa [List.append_nil] at h

/-- The tokens that no pass takes away. -/
def Kept (b : Token) : Prop :=
  b.isQualifier = false ∧ b.isMark = false ∧ b ≠ .colons

mutual
theorem kept_of_mem_tokens : ∀ (t : Instantiation), ∀ b ∈ t.tokens, Kept b
  | of n [], b, hb => by
      rw [tokens, List.mem_singleton] at hb
      rw [hb]
      exact ⟨n.notQualifier, rfl, Token.noConfusion⟩
  | of n (a :: as), b, hb => by
      rw [tokens, List.mem_cons, List.mem_cons, List.mem_append] at hb
      rcases hb with rfl | rfl | hb | hb
      · exact ⟨n.notQualifier, rfl, Token.noConfusion⟩
      · exact ⟨rfl, rfl, Token.noConfusion⟩
      · exact kept_of_mem_tokens a b hb
      · exact kept_of_mem_tokensAfter as b hb
theorem kept_of_mem_tokensAfter : ∀ (as : List Instantiation), ∀ b ∈ tokensAfter as, Kept b
  | [], b, hb => by
      rw [tokensAfter, List.mem_singleton] at hb
      rw [hb]
      exact ⟨rfl, rfl, Token.noConfusion⟩
  | a :: as, b, hb => by
      rw [tokensAfter, List.mem_cons, List.mem_append] at hb
      rcases hb with rfl | hb | hb
      · exact ⟨rfl, rfl, Token.noConfusion⟩
      · exact kept_of_mem_tokens a b hb
      · exact kept_of_mem_tokensAfter as b hb
end

theorem plainTokens_eq_self {ts : List Token}
    (hts : ∀ b ∈ ts, b.isQualifier = false ∧ b.isMark = false) : plainTokens ts = ts := by
  have hqualifiers : (ts.filter fun b => !b.isQualifier) = ts :=
    List.filter_eq_self.mpr fun b hb => by rw [(hts b hb).1]; rfl
  have hmarks : (ts.filter fun b => !b.isMark) = ts :=
    List.filter_eq_self.mpr fun b hb => by rw [(hts b hb).2]; rfl
  rw [plainTokens, hqualifiers, hmarks]

theorem plainTokens_of_kept {ts : List Token} (hts : ∀ b ∈ ts, Kept b) : plainTokens ts = ts :=
  plainTokens_eq_self fun b hb => ⟨(hts b hb).1, (hts b hb).2.1⟩

theorem withoutEmpty_of_isChain {ts : List Token} (hts : ts.IsChain Follows) :
    withoutEmpty ts = ts := by
  fun_induction withoutEmpty ts with
  | case1 ts ih => cases (List.isChain_cons.mp hts).1 .closing rfl
  | case2 t ts hne ih => rw [ih (List.isChain_cons.mp hts).2]
  | case3 => rfl

theorem withoutPaths_of_kept {ts : List Token} (hts : ∀ b ∈ ts, Kept b) :
    withoutPaths ts = ts := by
  have hcolons : Token.colons ∉ ts := fun hmem => (hts _ hmem).2.2 rfl
  clear hts
  fun_induction withoutPaths ts with
  | case1 n ts ih => exact absurd (List.mem_cons_of_mem _ List.mem_cons_self) hcolons
  | case2 ts ih => exact absurd List.mem_cons_self hcolons
  | case3 t ts hpath hne ih => rw [ih fun hmem => hcolons (List.mem_cons_of_mem _ hmem)]
  | case4 => rfl

theorem core_tokens (t : Instantiation) : core t.tokens = t.tokens := by
  rw [core, plainTokens_of_kept t.kept_of_mem_tokens, withoutEmpty_of_isChain t.tokens_isChain,
    withoutPaths_of_kept t.kept_of_mem_tokens]

theorem tight_of_follows {a b : Token} (h : Follows a b) : Tight a b := by
  rw [Follows] at h
  split at h
  · next ha =>
      left
      rcases ha with rfl | rfl <;> rfl
  · exact Or.inr h

theorem isWord_of_follows_closing {a b : Token} (h : Follows a b) (ha : a = .closing) :
    b.isWord = false := by
  subst ha
  exact Token.isWord_of_isPunctuation h

/-- Nothing but the blanks is lost of an instantiation. -/
theorem reduced_of_laid_tokens (t : Instantiation) {cs : List Char} (h : Laid t.tokens cs) :
    reduced cs = t.tokens.flatMap Token.chars := by
  have hclosing : (plainTokens t.tokens).IsChain fun a b => a = .closing → b.isWord = false := by
    rw [plainTokens_of_kept t.kept_of_mem_tokens]
    exact t.tokens_isChain.imp fun _ _ => isWord_of_follows_closing
  have htight : (core t.tokens).IsChain Tight := by
    rw [core_tokens]
    exact t.tokens_isChain.imp fun _ _ => tight_of_follows
  rw [reduced_of_laid h hclosing htight, core_tokens]

theorem laid_flatMap_chars {ts : List Token} (hts : ts.IsChain Follows) :
    Laid ts (ts.flatMap Token.chars) := by
  induction ts with
  | nil => exact .blanks (List.forall_mem_nil _)
  | cons b ts ih =>
      obtain ⟨hnext, hts⟩ := List.isChain_cons.mp hts
      rw [List.flatMap_cons]
      refine (ih hts).cons fun hb => (ih hts).startsWord_eq_false ?_
      intro c hc
      have hfollows := hnext c hc
      rw [Follows, if_neg (by rintro (rfl | rfl) <;> cases hb)] at hfollows
      exact Token.isWord_of_isPunctuation hfollows

/-- The spelling without blanks lays out the tokens. -/
theorem laid_spelling (t : Instantiation) : Laid t.tokens t.spelling.toList := by
  rw [spelling, String.toList_ofList]
  exact laid_flatMap_chars t.tokens_isChain

/-! ## The pieces of an identifier -/

/-- The characters that tokens leave in an identifier. -/
def written (ts : List Token) : List Char := (ts.flatMap Token.chars).map underscored

theorem written_cons (b : Token) (ts : List Token) :
    written (b :: ts) = b.chars.map underscored ++ written ts := by
  rw [written, List.flatMap_cons, List.map_append]
  rfl

theorem written_append (ts more : List Token) :
    written (ts ++ more) = written ts ++ written more := by
  rw [written, List.flatMap_append, List.map_append]
  rfl

theorem written_word (n : Name) (ts : List Token) :
    written (.word n :: ts) = n.chars ++ written ts := by
  have hkept : ∀ c ∈ n.chars, underscored c = id c := by
    intro c hc
    exact if_pos (Name.isNameChar_of_mem hc)
  rw [written_cons, Token.chars, List.map_congr_left hkept, List.map_id]

mutual
theorem splitOn_written_tokens : ∀ t : Instantiation, (written t.tokens).splitOn '_' = t.pieces
  | of n [] => by
      rw [tokens, written_word, pieces]
      exact congrArg (List.splitOn '_') (List.append_nil _)
  | of n (a :: as) => by
      obtain ⟨rest, hrest, hpieces⟩ := exists_written_tokensAfter as
      rw [tokens, written_word, pieces, written_cons, written_append, hrest]
      show (n.chars ++ '_' :: (written a.tokens ++ '_' :: rest)).splitOn '_' = _
      rw [List.splitOn_append_cons_self, List.splitOn_append_cons_self,
        splitOn_written_tokens a, hpieces]
theorem exists_written_tokensAfter : ∀ as : List Instantiation,
    ∃ rest, written (tokensAfter as) = '_' :: rest ∧ rest.splitOn '_' = piecesAfter as
  | [] => by
      refine ⟨[], rfl, ?_⟩
      rw [piecesAfter, List.splitOn_nil]
  | a :: as => by
      obtain ⟨rest, hrest, hpieces⟩ := exists_written_tokensAfter as
      refine ⟨written a.tokens ++ '_' :: rest, ?_, ?_⟩
      · rw [tokensAfter, written_cons, written_append, hrest]
        rfl
      · rw [List.splitOn_append_cons_self, splitOn_written_tokens a, hpieces, piecesAfter]
end

/-- The pieces are what an identifier tells of an instantiation. -/
theorem written_eq_iff_pieces_eq {t u : Instantiation} :
    written t.tokens = written u.tokens ↔ t.pieces = u.pieces := by
  constructor
  · intro h
    rw [← splitOn_written_tokens, ← splitOn_written_tokens, h]
  · intro h
    calc written t.tokens
        = ['_'].intercalate ((written t.tokens).splitOn '_') :=
          (List.intercalate_splitOn '_').symm
      _ = ['_'].intercalate ((written u.tokens).splitOn '_') := by
          rw [splitOn_written_tokens, splitOn_written_tokens, h]
      _ = written u.tokens := List.intercalate_splitOn '_'

theorem ofSpelling_of_reduced (t : Instantiation) {spelling : String}
    (h : reduced spelling.toList = t.tokens.flatMap Token.chars) :
    ofSpelling spelling = String.ofList (written t.tokens) ∧ ofSpelling spelling ≠ "" := by
  obtain ⟨n, ts, hts⟩ := t.exists_tokens_cons
  obtain ⟨c, cs, hchars, hstart, -⟩ := n.exists_cons
  have hreduced : reduced spelling.toList = c :: (cs ++ ts.flatMap Token.chars) := by
    rw [h, hts, List.flatMap_cons]
    show n.chars ++ _ = _
    rw [hchars, List.cons_append]
  have hletter : (isLetter c || c == '_') = true := by
    rw [isNameStart, Bool.or_eq_true] at hstart
    rw [Bool.or_eq_true]
    exact hstart.imp isLetter_of_isAlpha id
  have hbare : bare spelling.toList = written t.tokens := by
    rw [bare, hreduced]
    show (if (isLetter c || c == '_') = true then _ else _) = _
    rw [if_pos hletter, ← hreduced, h, written]
  constructor
  · rw [ofSpelling, hbare]
  · intro hempty
    have hnil : bare spelling.toList = [] := String.ofList_eq_empty_iff.mp hempty
    rw [hbare, hts, written_word, hchars] at hnil
    cases hnil

theorem ofSpelling_of_laid (t : Instantiation) {spelling : String}
    (h : Laid t.tokens spelling.toList) :
    ofSpelling spelling = String.ofList (written t.tokens) ∧ ofSpelling spelling ≠ "" :=
  t.ofSpelling_of_reduced (t.reduced_of_laid_tokens h)

/-! ## Ranked names -/

theorem typeName_eq_of_chars_eq : ∀ {n m : TypeName}, n.chars = m.chars → n = m
  | ⟨⟨_, _⟩, _⟩, ⟨⟨_, _⟩, _⟩, rfl => rfl

theorem exists_pieces_cons {n : TypeName} (hn : '_' ∉ n.chars) (as : List Instantiation) :
    ∃ tail, (of n as).pieces = n.chars :: tail := by
  cases as with
  | nil => exact ⟨[], by rw [pieces, List.splitOn_eq_singleton hn]⟩
  | cons a as =>
      refine ⟨a.pieces ++ piecesAfter as, ?_⟩
      rw [pieces, List.splitOn_eq_singleton hn, List.singleton_append]

mutual
/-- The pieces say which instantiation they start with and where it ends. -/
theorem pieces_append_inj {arity : List Char → Nat} : ∀ {t u : Instantiation}
    {rest rest' : List (List Char)}, t.Ranked arity → u.Ranked arity →
    t.pieces ++ rest = u.pieces ++ rest' → t = u ∧ rest = rest'
  | of n as, of m bs, rest, rest', .of hn hlength has, .of hm hlength' hbs, h => by
      have hnames : n = m := by
        obtain ⟨tail, htail⟩ := exists_pieces_cons hn as
        obtain ⟨tail', htail'⟩ := exists_pieces_cons hm bs
        rw [htail, htail'] at h
        exact typeName_eq_of_chars_eq (List.cons.inj h).1
      subst hnames
      have hlengths : as.length = bs.length := hlength.trans hlength'.symm
      match as, bs with
      | [], [] => exact ⟨rfl, List.append_cancel_left h⟩
      | a :: as, b :: bs =>
          simp only [pieces, List.append_assoc] at h
          have hargs := List.append_cancel_left h
          obtain ⟨rfl, hafter⟩ := pieces_append_inj (has a List.mem_cons_self)
            (hbs b List.mem_cons_self) hargs
          obtain ⟨rfl, hrest⟩ := piecesAfter_append_inj (Nat.succ.inj hlengths)
            (fun c hc => has c (List.mem_cons_of_mem _ hc))
            (fun c hc => hbs c (List.mem_cons_of_mem _ hc)) hafter
          exact ⟨rfl, hrest⟩
theorem piecesAfter_append_inj {arity : List Char → Nat} : ∀ {as bs : List Instantiation}
    {rest rest' : List (List Char)}, as.length = bs.length →
    (∀ a ∈ as, a.Ranked arity) → (∀ b ∈ bs, b.Ranked arity) →
    piecesAfter as ++ rest = piecesAfter bs ++ rest' → as = bs ∧ rest = rest'
  | [], [], rest, rest', _, _, _, h => by
      rw [piecesAfter] at h
      exact ⟨rfl, List.append_cancel_left h⟩
  | a :: as, b :: bs, rest, rest', hlength, has, hbs, h => by
      rw [piecesAfter, piecesAfter, List.append_assoc, List.append_assoc] at h
      obtain ⟨rfl, hafter⟩ := pieces_append_inj (has a List.mem_cons_self)
        (hbs b List.mem_cons_self) h
      obtain ⟨rfl, hrest⟩ := piecesAfter_append_inj (Nat.succ.inj hlength)
        (fun c hc => has c (List.mem_cons_of_mem _ hc))
        (fun c hc => hbs c (List.mem_cons_of_mem _ hc)) hafter
      exact ⟨rfl, hrest⟩
end

theorem Ranked.pieces_inj {arity : List Char → Nat} {t u : Instantiation} (ht : t.Ranked arity)
    (hu : u.Ranked arity) (h : t.pieces = u.pieces) : t = u :=
  (pieces_append_inj ht hu (congrArg (· ++ []) h)).1

/-! ## Accessors -/

theorem accessor_of_underlying {p : Parameter} {spelling identifier : String}
    (hp : p.underlying = .str spelling) (hidentifier : ofSpelling spelling = identifier)
    (hne : identifier ≠ "") (s : Settings) (model : String) :
    p.accessor s (.model model) = .ok (s.storePrefix ++ identifier ++ s.objectSuffix) := by
  subst hidentifier
  rw [Parameter.accessor, Parameter.identifier, hp]
  show (if ofSpelling spelling = "" then _ else _) >>= _ = _
  rw [if_neg hne]
  rfl

/-- **Accessors agree exactly where the pieces do.** Whatever the blanks in the
spellings of two instantiations, their identifiers are one exactly if their pieces
are, and so are the accessors of two model parameters of these types. Where every
name is free of underscores and always has the same number of arguments, the
pieces are one only for one instantiation. -/
theorem accessors_agree_iff_pieces (t u : Instantiation) {spelling spelling' : String}
    (ht : Laid t.tokens spelling.toList) (hu : Laid u.tokens spelling'.toList) :
    (ofSpelling spelling = ofSpelling spelling' ↔ t.pieces = u.pieces) ∧
    (∀ (s : Settings) (p q : Parameter) (model model' : String),
      p.underlying = .str spelling → q.underlying = .str spelling' →
      ∃ accessor accessor', p.accessor s (.model model) = .ok accessor ∧
        q.accessor s (.model model') = .ok accessor' ∧
        (accessor = accessor' ↔ t.pieces = u.pieces)) ∧
    (∀ arity, t.Ranked arity → u.Ranked arity → (t.pieces = u.pieces ↔ t = u)) := by
  obtain ⟨hidentifier, hne⟩ := t.ofSpelling_of_laid ht
  obtain ⟨hidentifier', hne'⟩ := u.ofSpelling_of_laid hu
  have hagree : ofSpelling spelling = ofSpelling spelling' ↔ t.pieces = u.pieces := by
    rw [hidentifier, hidentifier', String.ofList_inj]
    exact written_eq_iff_pieces_eq
  refine ⟨hagree, ?_, ?_⟩
  · intro s p q model model' hp hq
    refine ⟨_, _, accessor_of_underlying hp rfl hne s model,
      accessor_of_underlying hq rfl hne' s model', ?_⟩
    rw [String.append_left_inj, String.append_right_inj]
    exact hagree
  · intro arity hrankedt hrankedu
    exact ⟨hrankedt.pieces_inj hrankedu, fun h => h ▸ rfl⟩

/-! ## Two instantiations with one identifier -/

/-- A name of one letter. -/
def letter (c : Char) (h : Text.isName [c] = true ∧ isQualifier [c] = false) : TypeName :=
  ⟨⟨[c], h.1⟩, h.2⟩

/-- One argument, which has two. -/
def innerPair : Instantiation :=
  of (letter 'A' (by decide)) [of (letter 'B' (by decide))
    [of (letter 'C' (by decide)) [], of (letter 'D' (by decide)) []]]

/-- Two arguments, the second of which has one. -/
def outerPair : Instantiation :=
  of (letter 'A' (by decide)) [of (letter 'B' (by decide)) [],
    of (letter 'C' (by decide)) [of (letter 'D' (by decide)) []]]

theorem innerPair_ne_outerPair : innerPair ≠ outerPair := by
  intro h
  injection h with _ harguments
  injection harguments with _ hrest
  cases hrest

theorem ofSpelling_innerPair : ofSpelling "A<B<C,D>>" = "A_B_C_D__" := by
  have hspelling : innerPair.spelling = "A<B<C,D>>" := rfl
  rw [← hspelling, (innerPair.ofSpelling_of_laid innerPair.laid_spelling).1]
  rfl

theorem ofSpelling_outerPair : ofSpelling "A<B,C<D>>" = "A_B_C_D__" := by
  have hspelling : outerPair.spelling = "A<B,C<D>>" := rfl
  rw [← hspelling, (outerPair.ofSpelling_of_laid outerPair.laid_spelling).1]
  rfl

/-- The trees differ, and model parameters of these types have one accessor. -/
theorem accessors_agree_of_pairs :
    innerPair ≠ outerPair ∧
    innerPair.spelling = "A<B<C,D>>" ∧ outerPair.spelling = "A<B,C<D>>" ∧
    ofSpelling "A<B<C,D>>" = ofSpelling "A<B,C<D>>" ∧
    ({ name := "a", type := .model "A<B<C,D>>" .null } : Parameter).accessor {}
      (.model "A<B<C,D>>") = .ok "StoreA_B_C_D__Ptr" ∧
    ({ name := "b", type := .model "A<B,C<D>>" .null } : Parameter).accessor {}
      (.model "A<B,C<D>>") = .ok "StoreA_B_C_D__Ptr" := by
  refine ⟨innerPair_ne_outerPair, rfl, rfl, ?_, ?_, ?_⟩
  · rw [ofSpelling_innerPair, ofSpelling_outerPair]
  · exact accessor_of_underlying rfl ofSpelling_innerPair (by decide) {} _
  · exact accessor_of_underlying rfl ofSpelling_outerPair (by decide) {} _

/-- The arguments that the names of `innerPair` are applied to. -/
def pairArity : List Char → Nat
  | ['A'] => 1
  | ['B'] => 2
  | _ => 0

def single : Instantiation :=
  of (letter 'A' (by decide)) [of (letter 'C' (by decide)) []]

theorem ranked_letter {arity : List Char → Nat} {c : Char}
    (h : Text.isName [c] = true ∧ isQualifier [c] = false) (hc : c ≠ '_') (harity : arity [c] = 0) :
    (of (letter c h) []).Ranked arity := by
  refine .of ?_ harity.symm (List.forall_mem_nil _)
  show '_' ∉ [c]
  rw [List.mem_singleton]
  exact hc.symm

theorem innerPair_ranked : innerPair.Ranked pairArity := by
  refine .of (by decide) rfl (List.forall_mem_singleton.mpr ?_)
  refine .of (by decide) rfl (List.forall_mem_cons.mpr ⟨?_, List.forall_mem_singleton.mpr ?_⟩)
  · exact ranked_letter _ (by decide) rfl
  · exact ranked_letter _ (by decide) rfl

theorem single_ranked : single.Ranked pairArity := by
  refine .of (by decide) rfl (List.forall_mem_singleton.mpr ?_)
  exact ranked_letter _ (by decide) rfl

theorem accessors_differ_of_ranked :
    Laid innerPair.tokens "A<B<C,D>>".toList ∧ Laid single.tokens "A<C>".toList ∧
      ofSpelling "A<B<C,D>>" ≠ ofSpelling "A<C>" := by
  have hlaid : Laid innerPair.tokens "A<B<C,D>>".toList := innerPair.laid_spelling
  have hlaid' : Laid single.tokens "A<C>".toList := single.laid_spelling
  obtain ⟨hagree, -, hranked⟩ := accessors_agree_iff_pieces innerPair single hlaid hlaid'
  refine ⟨hlaid, hlaid', ?_⟩
  intro h
  have hsame : innerPair = single :=
    (hranked pairArity innerPair_ranked single_ranked).mp (hagree.mp h)
  injection hsame with _ harguments
  injection harguments with harg
  injection harg with hname
  exact absurd (congrArg (fun n => n.chars) hname) (by decide)

end Instantiation

end InputBindings.Identifier
