import InputBindings.Proofs.Identifier.Layout
import Mathlib.Data.List.Chain

/-!
# The passes, token by token

Each pass over a text that lays out a row of tokens leaves a text that lays out
what is left of the row. After the first four passes no mark, no colon and no
empty argument list is left, and if no two words have come to stand next to each
other, the last pass leaves no blank between two tokens.

Main statement: `reduced_of_laid`.
-/

namespace InputBindings.Identifier

open Text

variable {ts : List Token} {cs text : List Char}

/-! ## Runs of characters -/

theorem blanks_space : Blanks [' '] := by
  intro c hc
  rw [List.mem_singleton.mp hc]
  decide

theorem Blanks.isWord_of_mem {gap : List Char} (hgap : Blanks gap) :
    ∀ c ∈ gap, isWord c = false :=
  fun c hc => isWord_of_isBlank (hgap c hc)

theorem takeWhile_word_append (n : Name) (htext : startsWord text = false) :
    (n.chars ++ text).takeWhile isWord = n.chars := by
  rw [List.takeWhile_append_of_pos fun c hc => Name.isWord_of_mem hc]
  cases text with
  | nil => exact List.append_nil _
  | cons c text =>
      rw [List.takeWhile_cons_of_neg (by rw [show isWord c = false from htext]; decide),
        List.append_nil]

theorem dropWhile_word_append (n : Name) (htext : startsWord text = false) :
    (n.chars ++ text).dropWhile isWord = text := by
  rw [List.dropWhile_append_of_pos fun c hc => Name.isWord_of_mem hc]
  cases text with
  | nil => rfl
  | cons c text =>
      exact List.dropWhile_cons_of_neg (by rw [show isWord c = false from htext]; decide)

/-- The text behind the first letter of a name, with what follows the name. -/
theorem word_split (n : Name) (htext : startsWord text = false) :
    ∃ c rest, n.chars ++ text = c :: rest ∧ isNameStart c = true ∧ isWord c = true ∧
      c :: rest.takeWhile isWord = n.chars ∧ rest.dropWhile isWord = text := by
  obtain ⟨c, cs, hchars, hstart, -⟩ := n.exists_cons
  have hword : isWord c = true := Name.isWord_of_mem (hchars ▸ List.mem_cons_self)
  have htake := takeWhile_word_append n htext
  have hdrop := dropWhile_word_append n htext
  rw [hchars, List.cons_append, List.takeWhile_cons_of_pos hword] at htake
  rw [hchars, List.cons_append, List.dropWhile_cons_of_pos hword] at hdrop
  exact ⟨c, cs ++ text, by rw [hchars, List.cons_append], hstart, hword, htake.trans hchars.symm,
    hdrop⟩

/-- What a pass does to the characters of a class it does to a run of them. -/
theorem append_of_cons {pass : List Char → List Char} {p : Char → Prop}
    (hpass : ∀ c cs, p c → pass (c :: cs) = c :: pass cs) (hcs : ∀ c ∈ cs, p c)
    (text : List Char) : pass (cs ++ text) = cs ++ pass text := by
  induction cs with
  | nil => rfl
  | cons c cs ih =>
      rw [List.cons_append, hpass c _ (hcs c List.mem_cons_self),
        ih fun d hd => hcs d (List.mem_cons_of_mem _ hd), List.cons_append]

theorem eq_self_of_cons {pass : List Char → List Char} {p : Char → Prop}
    (hpass : ∀ c cs, p c → pass (c :: cs) = c :: pass cs) (hnil : pass [] = [])
    (hcs : ∀ c ∈ cs, p c) : pass cs = cs := by
  have h := append_of_cons hpass hcs []
  rwa [List.append_nil, hnil, List.append_nil] at h

theorem startsWord_token_append (gap : List Char) (t : Token) (text : List Char) :
    startsWord (gap ++ (t.chars ++ text)) = startsWord (gap ++ t.chars) := by
  obtain ⟨c, cs, hchars, -⟩ := t.exists_chars_cons
  rw [hchars]
  cases gap <;> rfl

/-! ## Qualifiers -/

theorem dropQualifiers_cons (c : Char) (cs : List Char) (hc : isWord c = false) :
    dropQualifiers (c :: cs) = c :: dropQualifiers cs := by
  rw [dropQualifiers, if_neg (by rw [hc]; decide)]

theorem dropQualifiers_word (n : Name) (htext : startsWord text = false) :
    dropQualifiers (n.chars ++ text) =
      (if isQualifier n.chars then [' '] else n.chars) ++ dropQualifiers text := by
  obtain ⟨c, rest, hsplit, -, hword, htake, hdrop⟩ := word_split n htext
  rw [hsplit, dropQualifiers, if_pos hword, htake, hdrop]

theorem startsWord_dropQualifiers (htext : startsWord text = false) :
    startsWord (dropQualifiers text) = false := by
  cases text with
  | nil =>
      rw [dropQualifiers]
      rfl
  | cons c text =>
      rw [dropQualifiers_cons c text htext]
      exact htext

theorem laid_dropQualifiers (h : Laid ts cs) :
    Laid (ts.filter fun t => !t.isQualifier) (dropQualifiers cs) := by
  induction h with
  | @blanks gap hgap =>
      rw [eq_self_of_cons dropQualifiers_cons (by rw [dropQualifiers]) hgap.isWord_of_mem]
      exact .blanks hgap
  | @token gap text t ts hgap hword _ ih =>
      rw [append_of_cons dropQualifiers_cons hgap.isWord_of_mem]
      cases t with
      | word n =>
          rw [show (Token.word n).chars = n.chars from rfl, dropQualifiers_word n (hword rfl)]
          by_cases hqualifier : isQualifier n.chars = true
          · rw [if_pos hqualifier, List.filter_cons_of_neg (by simpa [Token.isQualifier])]
            exact (ih.blanks_append blanks_space).blanks_append hgap
          · rw [if_neg hqualifier,
              List.filter_cons_of_pos (by simpa [Token.isQualifier] using hqualifier)]
            exact .token hgap (fun _ => startsWord_dropQualifiers (hword rfl)) ih
      | _ =>
          rw [append_of_cons dropQualifiers_cons fun c hc => Token.isWord_of_mem_chars rfl hc]
          exact .token hgap (fun hword => by cases hword) ih

/-! ## Pointer and reference marks -/

theorem dropMarks_append (cs text : List Char) :
    dropMarks (cs ++ text) = dropMarks cs ++ dropMarks text :=
  List.map_append

theorem dropMarks_eq_self (hcs : ∀ c ∈ cs, c ≠ '*' ∧ c ≠ '&') : dropMarks cs = cs := by
  have hkept : ∀ c ∈ cs, (if c = '*' ∨ c = '&' then ' ' else c) = id c := by
    intro c hc
    exact if_neg (not_or.mpr (hcs c hc))
  rw [dropMarks, List.map_congr_left hkept, List.map_id]

theorem Blanks.not_mark {gap : List Char} (hgap : Blanks gap) :
    ∀ c ∈ gap, c ≠ '*' ∧ c ≠ '&' := by
  intro c hc
  constructor <;> (rintro rfl; exact absurd (hgap _ hc) (by decide))

theorem Token.not_mark_of_mem_chars {t : Token} (ht : t.isMark = false) :
    ∀ c ∈ t.chars, c ≠ '*' ∧ c ≠ '&' := by
  intro c hc
  constructor
  · rintro rfl
    obtain rfl : t = .star := Token.eq_of_mem_chars hc (List.mem_singleton_self _) rfl
    cases ht
  · rintro rfl
    obtain rfl : t = .ampersand := Token.eq_of_mem_chars hc (List.mem_singleton_self _) rfl
    cases ht

theorem startsWord_dropMarks (htext : startsWord text = false) :
    startsWord (dropMarks text) = false := by
  cases text with
  | nil => rfl
  | cons c text =>
      show isWord (if c = '*' ∨ c = '&' then ' ' else c) = false
      split
      · decide
      · exact htext

theorem laid_dropMarks (h : Laid ts cs) :
    Laid (ts.filter fun t => !t.isMark) (dropMarks cs) := by
  induction h with
  | @blanks gap hgap =>
      rw [dropMarks_eq_self hgap.not_mark]
      exact .blanks hgap
  | @token gap text t ts hgap hword _ ih =>
      rw [dropMarks_append, dropMarks_append, dropMarks_eq_self hgap.not_mark]
      cases hmark : t.isMark with
      | false =>
          rw [List.filter_cons_of_pos (by rw [hmark]; rfl),
            dropMarks_eq_self (Token.not_mark_of_mem_chars hmark)]
          exact .token hgap (fun ht => startsWord_dropMarks (hword ht)) ih
      | true =>
          have hspace : dropMarks t.chars = [' '] := by
            cases t with
            | star | ampersand => rfl
            | _ => cases hmark
          rw [List.filter_cons_of_neg (by rw [hmark]; decide), hspace]
          exact (ih.blanks_append blanks_space).blanks_append hgap

/-! ## Empty argument lists -/

theorem dropEmptyArguments_cons (c : Char) (cs : List Char) (hc : c ≠ '<') :
    dropEmptyArguments (c :: cs) = c :: dropEmptyArguments cs := by
  rw [dropEmptyArguments, if_neg hc]

theorem dropEmptyArguments_empty {rest : List Char}
    (htext : text.dropWhile isBlank = '>' :: rest) :
    dropEmptyArguments ('<' :: text) = dropEmptyArguments rest := by
  rw [dropEmptyArguments, if_pos rfl]
  split
  · next rest' h =>
      cases h.symm.trans htext
      rfl
  · next h => exact absurd htext (h rest)

theorem dropEmptyArguments_opening (htext : ∀ rest, text.dropWhile isBlank ≠ '>' :: rest) :
    dropEmptyArguments ('<' :: text) = '<' :: dropEmptyArguments text := by
  rw [dropEmptyArguments, if_pos rfl]
  split
  · next rest h => exact absurd h (htext rest)
  · rfl

theorem Blanks.ne_of_mem {gap : List Char} (hgap : Blanks gap) {d : Char}
    (hd : isBlank d = false) : ∀ c ∈ gap, c ≠ d := by
  rintro c hc rfl
  rw [hgap c hc] at hd
  cases hd

theorem Token.ne_opening_of_mem_chars {t : Token} (ht : t ≠ .opening) :
    ∀ c ∈ t.chars, c ≠ '<' := by
  rintro c hc rfl
  exact ht (Token.eq_of_mem_chars hc (List.mem_singleton_self _) rfl)

/-- If no word follows a closing bracket, none comes to stand behind another word
where two brackets disappear. -/
theorem laid_dropEmptyArguments
    (hchain : ts.IsChain fun a b => a = .closing → b.isWord = false) (h : Laid ts cs) :
    Laid (withoutEmpty ts) (dropEmptyArguments cs) ∧
      (startsWord cs = false → startsWord (dropEmptyArguments cs) = false) := by
  -- The second part is for the word in front: what is left behind it may start
  -- where an empty list stood.
  fun_induction withoutEmpty ts generalizing cs with
  | case1 ts ih =>
      obtain ⟨-, hchain⟩ := List.isChain_cons.mp hchain
      obtain ⟨hhead, hchain⟩ := List.isChain_cons.mp hchain
      cases h with
      | @token gap text _ _ hgap _ htext =>
          obtain ⟨rest, hdrop, hrest, -⟩ := htext.dropWhile_blanks
          have hstarts : startsWord rest = false :=
            hrest.startsWord_eq_false fun t ht => hhead t ht rfl
          obtain ⟨hlaid, hstarts'⟩ := ih hchain hrest
          rw [append_of_cons dropEmptyArguments_cons (hgap.ne_of_mem (by decide)),
            show Token.opening.chars ++ text = '<' :: text from rfl,
            dropEmptyArguments_empty hdrop]
          exact ⟨hlaid.blanks_append hgap,
            fun _ => startsWord_blanks_append hgap (hstarts' hstarts)⟩
  | case2 t ts hne ih =>
      obtain ⟨-, hchain⟩ := List.isChain_cons.mp hchain
      cases h with
      | @token gap text _ _ hgap hword htext =>
          obtain ⟨hlaid, hstarts⟩ := ih hchain htext
          have hkept : dropEmptyArguments (t.chars ++ text) =
              t.chars ++ dropEmptyArguments text := by
            by_cases hopening : t = .opening
            · subst hopening
              show dropEmptyArguments ('<' :: text) = '<' :: dropEmptyArguments text
              apply dropEmptyArguments_opening
              intro rest hdrop
              have hdropped := htext.dropWhile_isBlank
              rw [hdrop] at hdropped
              obtain ⟨ts', rfl⟩ := hdropped.exists_of_mark (t := .closing) rfl List.mem_cons_self
              exact hne ts' rfl rfl
            · exact append_of_cons dropEmptyArguments_cons
                (Token.ne_opening_of_mem_chars hopening) _
          rw [append_of_cons dropEmptyArguments_cons (hgap.ne_of_mem (by decide)), hkept]
          refine ⟨.token hgap (fun ht => hstarts (hword ht)) hlaid, ?_⟩
          rw [startsWord_token_append, startsWord_token_append]
          exact id
  | case3 =>
      cases h with
      | blanks hgap =>
          rw [eq_self_of_cons dropEmptyArguments_cons (by rw [dropEmptyArguments])
            (hgap.ne_of_mem (by decide))]
          exact ⟨.blanks hgap, id⟩

/-! ## Namespaces -/

theorem afterColons?_of_ne {c : Char} (hc : c ≠ ':') (cs : List Char) :
    afterColons? (c :: cs) = none := by
  unfold afterColons?
  split
  · next h =>
      cases h
      exact absurd rfl hc
  · rfl

theorem dropNamespaces_cons (c : Char) (cs : List Char) (hc : isWord c = false ∧ c ≠ ':') :
    dropNamespaces (c :: cs) = c :: dropNamespaces cs := by
  rw [dropNamespaces, if_neg (by rw [hc.1]; decide)]
  split
  · next h =>
      rw [afterColons?_of_ne hc.2] at h
      cases h
  · rfl

theorem dropNamespaces_colons (text : List Char) :
    dropNamespaces (':' :: ':' :: text) = dropNamespaces (text.dropWhile isBlank) := by
  rw [dropNamespaces, if_neg (by decide)]
  split
  · next h =>
      cases h
      rfl
  · next h => cases h

theorem dropNamespaces_path (n : Name) {rest : List Char} (htext : startsWord text = false)
    (hcolons : text.dropWhile isBlank = ':' :: ':' :: rest) :
    dropNamespaces (n.chars ++ text) = dropNamespaces (rest.dropWhile isBlank) := by
  obtain ⟨c, cs, hsplit, hstart, hword, -, hdrop⟩ := word_split n htext
  rw [hsplit, dropNamespaces, if_pos hword, if_pos hstart]
  split
  · next h =>
      rw [hdrop, hcolons] at h
      cases h
      rfl
  · next h =>
      rw [hdrop, hcolons] at h
      cases h

theorem dropNamespaces_word (n : Name) (htext : startsWord text = false)
    (hcolons : afterColons? (text.dropWhile isBlank) = none) :
    dropNamespaces (n.chars ++ text) = n.chars ++ dropNamespaces text := by
  obtain ⟨c, cs, hsplit, hstart, hword, htake, hdrop⟩ := word_split n htext
  rw [hsplit, dropNamespaces, if_pos hword, if_pos hstart]
  split
  · next h =>
      rw [hdrop, hcolons] at h
      cases h
  · rw [htake, hdrop]

theorem Token.ne_colon_of_mem_chars {t : Token} (ht : t ≠ .colons) : ∀ c ∈ t.chars, c ≠ ':' := by
  rintro c hc rfl
  exact ht (Token.eq_of_mem_chars hc List.mem_cons_self rfl)

theorem Laid.ne_colon {c : Char} (h : Laid ts (c :: cs)) (hts : ∀ ts', ts ≠ .colons :: ts') :
    c ≠ ':' := by
  rintro rfl
  obtain ⟨ts', hts'⟩ := h.exists_of_mark (t := .colons) rfl List.mem_cons_self
  exact hts ts' hts'

/-- Behind the blanks are two colons only if they are the first token. -/
theorem Laid.afterColons?_eq_none (h : Laid ts cs) (hts : ∀ ts', ts ≠ .colons :: ts') :
    afterColons? (cs.dropWhile isBlank) = none := by
  have hdropped := h.dropWhile_isBlank
  cases hdrop : cs.dropWhile isBlank with
  | nil => rfl
  | cons c rest =>
      rw [hdrop] at hdropped
      exact afterColons?_of_ne (hdropped.ne_colon hts) rest

theorem startsWord_dropNamespaces (h : Laid ts cs) (hts : ∀ ts', ts ≠ .colons :: ts')
    (hstarts : startsWord cs = false) : startsWord (dropNamespaces cs) = false := by
  cases cs with
  | nil =>
      rw [dropNamespaces]
      rfl
  | cons c cs =>
      rw [dropNamespaces_cons c cs ⟨hstarts, h.ne_colon hts⟩]
      exact hstarts

theorem laid_dropNamespaces (h : Laid ts cs) : Laid (withoutPaths ts) (dropNamespaces cs) := by
  have hblanks : ∀ {gap : List Char}, Blanks gap → ∀ c ∈ gap, isWord c = false ∧ c ≠ ':' :=
    fun hgap c hc => ⟨hgap.isWord_of_mem c hc, hgap.ne_of_mem (by decide) c hc⟩
  fun_induction withoutPaths ts generalizing cs with
  | case1 n ts ih =>
      cases h with
      | @token gap text _ _ hgap hword htext =>
          obtain ⟨rest, hdrop, hrest, -⟩ := htext.dropWhile_blanks
          rw [append_of_cons dropNamespaces_cons (hblanks hgap),
            show (Token.word n).chars = n.chars from rfl,
            dropNamespaces_path n (hword rfl) hdrop]
          exact (ih hrest.dropWhile_isBlank).blanks_append hgap
  | case2 ts ih =>
      cases h with
      | @token gap text _ _ hgap hword htext =>
          rw [append_of_cons dropNamespaces_cons (hblanks hgap),
            show Token.colons.chars ++ text = ':' :: ':' :: text from rfl, dropNamespaces_colons]
          exact (ih htext.dropWhile_isBlank).blanks_append hgap
  | case3 t ts hpath hcolons ih =>
      cases h with
      | @token gap text _ _ hgap hword htext =>
          rw [append_of_cons dropNamespaces_cons (hblanks hgap)]
          cases t with
          | word n =>
              have hts : ∀ ts', ts ≠ .colons :: ts' := fun ts' hts => hpath n ts' rfl hts
              rw [show (Token.word n).chars = n.chars from rfl,
                dropNamespaces_word n (hword rfl) (htext.afterColons?_eq_none hts)]
              exact .token hgap
                (fun _ => startsWord_dropNamespaces htext hts (hword rfl)) (ih htext)
          | _ =>
              rw [append_of_cons dropNamespaces_cons fun c hc =>
                ⟨Token.isWord_of_mem_chars rfl hc, Token.ne_colon_of_mem_chars hcolons c hc⟩]
              exact .token hgap (fun ht => by cases ht) (ih htext)
  | case4 =>
      cases h with
      | blanks hgap =>
          rw [eq_self_of_cons dropNamespaces_cons (by rw [dropNamespaces]) (hblanks hgap)]
          exact .blanks hgap

/-! ## Blanks next to punctuation -/

theorem tighten_punctuation {c : Char} (hc : isPunctuation c = true) (cs : List Char) :
    tighten (c :: cs) = c :: tighten (cs.dropWhile isBlank) := by
  rw [tighten, if_pos hc]

theorem tighten_cons (c : Char) (cs : List Char)
    (hc : isPunctuation c = false ∧ isBlank c = false) : tighten (c :: cs) = c :: tighten cs := by
  rw [tighten, if_neg (by rw [hc.1]; decide), if_neg (by rw [hc.2]; decide)]

theorem tighten_blanks {gap : List Char} (hgap : Blanks gap) : tighten gap = gap := by
  cases gap with
  | nil => rw [tighten]
  | cons c gap =>
      obtain ⟨hc, hrest⟩ := hgap.of_cons
      have htake : (gap ++ []).takeWhile isBlank = gap := by
        rw [List.takeWhile_append_of_pos hrest, List.takeWhile_nil, List.append_nil]
      rw [List.append_nil] at htake
      rw [tighten, if_neg (by rw [isPunctuation_of_isBlank hc]; decide), if_pos hc]
      split
      · rw [htake]
      · next h => cases hrest.dropWhile_eq_nil.symm.trans h

/-- Blanks in front of punctuation disappear, and so do those behind it. -/
theorem tighten_blanks_punctuation {gap : List Char} (hgap : Blanks gap) {d : Char}
    (hd : isPunctuation d = true) (text : List Char) :
    tighten (gap ++ d :: text) = d :: tighten (text.dropWhile isBlank) := by
  cases gap with
  | nil => exact tighten_punctuation hd text
  | cons c gap =>
      obtain ⟨hc, hrest⟩ := hgap.of_cons
      have hdrop : (gap ++ d :: text).dropWhile isBlank = d :: text := by
        rw [hrest.dropWhile_append, dropWhile_isBlank_eq_self (isBlank_of_isPunctuation hd)]
      rw [List.cons_append, tighten, if_neg (by rw [isPunctuation_of_isBlank hc]; decide),
        if_pos hc]
      split
      · next h => cases hdrop.symm.trans h
      · next h =>
          cases hdrop.symm.trans h
          rw [if_pos hd]

/-- Blanks in front of anything else stay. -/
theorem tighten_blanks_append {gap : List Char} (hgap : Blanks gap) {d : Char}
    (hd : isPunctuation d = false ∧ isBlank d = false) (text : List Char) :
    tighten (gap ++ d :: text) = gap ++ tighten (d :: text) := by
  cases gap with
  | nil => rfl
  | cons c gap =>
      obtain ⟨hc, hrest⟩ := hgap.of_cons
      have hdrop : (gap ++ d :: text).dropWhile isBlank = d :: text := by
        rw [hrest.dropWhile_append, dropWhile_isBlank_eq_self hd.2]
      have htake : (gap ++ d :: text).takeWhile isBlank = gap := by
        rw [List.takeWhile_append_of_pos hrest,
          List.takeWhile_cons_of_neg (by rw [hd.2]; decide), List.append_nil]
      rw [List.cons_append, tighten, if_neg (by rw [isPunctuation_of_isBlank hc]; decide),
        if_pos hc]
      split
      · next h => cases hdrop.symm.trans h
      · next h =>
          cases hdrop.symm.trans h
          rw [if_neg (by rw [hd.1]; decide), htake]

theorem Token.exists_chars_of_isPunctuation {t : Token} (ht : t.isPunctuation = true) :
    ∃ c, t.chars = [c] ∧ Identifier.isPunctuation c = true := by
  cases t with
  | opening | closing | comma => exact ⟨_, rfl, by decide⟩
  | _ => cases ht

theorem Token.not_punctuation_of_mem_chars {t : Token} (ht : t.isPunctuation = false) :
    ∀ c ∈ t.chars, Identifier.isPunctuation c = false ∧ isBlank c = false := by
  intro c hc
  refine ⟨?_, Token.isBlank_of_mem_chars hc⟩
  cases t with
  | word n => exact isPunctuation_of_isNameChar (Name.isNameChar_of_mem hc)
  | opening | closing | comma => cases ht
  | _ =>
      simp only [chars, List.mem_cons, List.not_mem_nil, or_false, or_self] at hc
      subst hc
      decide

/-- Of two tokens that stand next to each other one is punctuation. -/
def Tight (a b : Token) : Prop := a.isPunctuation = true ∨ b.isPunctuation = true

/-- Behind the first token no blank is left between two tokens. In front of it
blanks are lost only if it is punctuation. -/
theorem exists_tighten_eq (hchain : ts.IsChain Tight) (h : Laid ts cs) :
    (∃ trail, Blanks trail ∧
        tighten (cs.dropWhile isBlank) = ts.flatMap Token.chars ++ trail) ∧
      ((∀ t ∈ ts.head?, t.isPunctuation = true) →
        ∃ trail, Blanks trail ∧ tighten cs = ts.flatMap Token.chars ++ trail) := by
  induction h with
  | @blanks gap hgap =>
      constructor
      · refine ⟨[], List.forall_mem_nil _, ?_⟩
        rw [Laid.dropWhile_blanks_nil (.blanks hgap), tighten]
        rfl
      · intro _
        exact ⟨gap, hgap, tighten_blanks hgap⟩
  | @token gap text t ts hgap hword htext ih =>
      obtain ⟨hnext, hchain⟩ := List.isChain_cons.mp hchain
      obtain ⟨⟨trail, htrail, hdropped⟩, hpunctuated⟩ := ih hchain
      rw [hgap.dropWhile_token, List.flatMap_cons]
      cases ht : t.isPunctuation with
      | true =>
          obtain ⟨c, hchars, hc⟩ := Token.exists_chars_of_isPunctuation ht
          have htight : ∀ gap, Blanks gap → tighten (gap ++ (t.chars ++ text)) =
              t.chars ++ ts.flatMap Token.chars ++ trail := by
            intro gap hgap
            rw [hchars, List.singleton_append, tighten_blanks_punctuation hgap hc, hdropped]
            rfl
          constructor
          · exact ⟨trail, htrail, htight [] (List.forall_mem_nil _)⟩
          · exact fun _ => ⟨trail, htrail, htight gap hgap⟩
      | false =>
          constructor
          · have hfirst : ∀ t' ∈ ts.head?, t'.isPunctuation = true := by
              intro t' ht'
              rcases hnext t' ht' with h | h
              · cases ht.symm.trans h
              · exact h
            obtain ⟨trail, htrail, htight⟩ := hpunctuated hfirst
            refine ⟨trail, htrail, ?_⟩
            rw [append_of_cons tighten_cons (Token.not_punctuation_of_mem_chars ht), htight,
              List.append_assoc]
          · intro hfirst
            cases ht.symm.trans (hfirst t rfl)

theorem exists_lead_tighten_eq (hchain : ts.IsChain Tight) (h : Laid ts cs) :
    ∃ lead trail, Blanks lead ∧ Blanks trail ∧
      tighten cs = lead ++ (ts.flatMap Token.chars ++ trail) := by
  obtain ⟨⟨trail, htrail, hdropped⟩, hpunctuated⟩ := exists_tighten_eq hchain h
  cases h with
  | blanks hgap => exact ⟨[], cs, List.forall_mem_nil _, hgap, tighten_blanks hgap⟩
  | @token gap text t ts hgap hword htext =>
      cases ht : t.isPunctuation with
      | true =>
          obtain ⟨trail, htrail, htight⟩ := hpunctuated fun t' ht' => by
            cases ht'
            exact ht
          exact ⟨[], trail, List.forall_mem_nil _, htrail, htight⟩
      | false =>
          refine ⟨gap, trail, hgap, htrail, ?_⟩
          obtain ⟨c, chars, hchars, -⟩ := t.exists_chars_cons
          have hc := Token.not_punctuation_of_mem_chars ht c (hchars ▸ List.mem_cons_self)
          rw [hgap.dropWhile_token] at hdropped
          rw [← hdropped, hchars, List.cons_append, tighten_blanks_append hgap hc]

/-! ## What is left -/

theorem trim_of_blanks {lead trail : List Char} (hlead : Blanks lead) (htrail : Blanks trail)
    (hcs : ∀ c ∈ cs, isBlank c = false) : trim isBlank (lead ++ (cs ++ trail)) = cs := by
  rw [trim, hlead.dropWhile_append]
  cases cs with
  | nil =>
      rw [List.nil_append, htrail.dropWhile_eq_nil]
      rfl
  | cons c cs =>
      have hreverse : Blanks trail.reverse := fun d hd => htrail d (List.mem_reverse.mp hd)
      rw [List.cons_append, dropWhile_isBlank_eq_self (hcs c List.mem_cons_self),
        ← List.cons_append, List.reverse_append, hreverse.dropWhile_append]
      cases hlast : (c :: cs).reverse with
      | nil => cases List.reverse_eq_nil_iff.mp hlast
      | cons d ds =>
          have hd : d ∈ c :: cs := List.mem_reverse.mp (hlast ▸ List.mem_cons_self)
          rw [dropWhile_isBlank_eq_self (hcs d hd), ← hlast, List.reverse_reverse]

/-- **The passes act on tokens.** Of a text that lays out a row, the core of the
row is left without a blank, if the row keeps no word behind an empty argument
list and its core no two words next to each other. -/
theorem reduced_of_laid (h : Laid ts cs)
    (hclosing : (plainTokens ts).IsChain fun a b => a = .closing → b.isWord = false)
    (htight : (core ts).IsChain Tight) : reduced cs = (core ts).flatMap Token.chars := by
  have hplain : Laid (plainTokens ts) (dropMarks (dropQualifiers cs)) :=
    laid_dropMarks (laid_dropQualifiers h)
  have hcore : Laid (core ts)
      (dropNamespaces (dropEmptyArguments (dropMarks (dropQualifiers cs)))) :=
    laid_dropNamespaces (laid_dropEmptyArguments hclosing hplain).1
  obtain ⟨lead, trail, hlead, htrail, htightened⟩ := exists_lead_tighten_eq htight hcore
  rw [reduced, htightened]
  -- No token holds a blank, so trimming takes the outer blanks and nothing else.
  apply trim_of_blanks hlead htrail
  intro c hc
  obtain ⟨t, -, ht⟩ := List.mem_flatMap.mp hc
  exact Token.isBlank_of_mem_chars ht

end InputBindings.Identifier
