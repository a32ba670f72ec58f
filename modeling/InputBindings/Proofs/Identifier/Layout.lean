import InputBindings.Proofs.Characters

/-!
# Tokens of a type spelling

A spelling is a row of tokens: names, the punctuation of argument lists, the
colons of namespaces, and pointer and reference marks. A text lays the row out if
it has the tokens in their order with blanks anywhere between them, except that a
word is not directly followed by another one.

What a pass does to a text does not depend on where the blanks are, so it can be
said on tokens: here is what each pass leaves of a row.
-/

namespace InputBindings.Identifier

open Text

/-! ## Tokens -/

structure Name where
  chars : List Char
  isName : Text.isName chars = true
  deriving DecidableEq

namespace Name

theorem exists_cons (n : Name) :
    ∃ c cs, n.chars = c :: cs ∧ isNameStart c = true ∧ ∀ d ∈ c :: cs, isNameChar d = true := by
  obtain ⟨chars, hname⟩ := n
  cases chars with
  | nil => cases hname
  | cons c cs =>
      rw [Text.isName, Bool.and_eq_true, List.all_eq_true] at hname
      refine ⟨c, cs, rfl, hname.1, ?_⟩
      intro d hd
      rcases List.mem_cons.mp hd with rfl | hd
      · exact isNameChar_of_isNameStart hname.1
      · exact hname.2 d hd

theorem isNameChar_of_mem {n : Name} {c : Char} (hc : c ∈ n.chars) : isNameChar c = true := by
  obtain ⟨d, cs, hchars, -, hall⟩ := n.exists_cons
  exact hall c (hchars ▸ hc)

theorem isWord_of_mem {n : Name} {c : Char} (hc : c ∈ n.chars) : isWord c = true :=
  isWord_of_isNameChar (isNameChar_of_mem hc)

end Name

inductive Token
  | word (name : Name)
  | opening
  | closing
  | comma
  | colons
  | star
  | ampersand
  deriving DecidableEq

namespace Token

def chars : Token → List Char
  | word name => name.chars
  | opening => ['<']
  | closing => ['>']
  | comma => [',']
  | colons => [':', ':']
  | star => ['*']
  | ampersand => ['&']

def isWord : Token → Bool
  | word _ => true
  | _ => false

def isQualifier : Token → Bool
  | word name => Identifier.isQualifier name.chars
  | _ => false

/-- The marks of pointers and references. -/
def isMark : Token → Bool
  | star | ampersand => true
  | _ => false

def isPunctuation : Token → Bool
  | opening | closing | comma => true
  | _ => false

theorem isWord_of_isPunctuation {t : Token} (h : t.isPunctuation = true) : t.isWord = false := by
  cases t with
  | word _ => cases h
  | _ => rfl

theorem isWord_of_mem_chars {t : Token} (ht : t.isWord = false) {c : Char} (hc : c ∈ t.chars) :
    Text.isWord c = false := by
  cases t with
  | word _ => cases ht
  | _ =>
      simp only [chars, List.mem_cons, List.not_mem_nil, or_false, or_self] at hc
      subst hc
      decide

theorem isBlank_of_mem_chars {t : Token} {c : Char} (hc : c ∈ t.chars) : isBlank c = false := by
  cases t with
  | word name => exact isBlank_of_isNameChar (Name.isNameChar_of_mem hc)
  | _ =>
      simp only [chars, List.mem_cons, List.not_mem_nil, or_false, or_self] at hc
      subst hc
      decide

/-- A character of a mark stands in no other token. -/
theorem eq_of_mem_chars {t u : Token} {c : Char} (ht : c ∈ t.chars) (hu : c ∈ u.chars)
    (hmark : u.isWord = false) : t = u := by
  cases u with
  | word _ => cases hmark
  | _ =>
      simp only [chars, List.mem_cons, List.not_mem_nil, or_false, or_self] at hu
      subst hu
      cases t with
      | word n => exact absurd (Name.isNameChar_of_mem ht) (by decide)
      | _ => first | rfl | exact absurd ht (by decide)

theorem exists_chars_cons (t : Token) : ∃ c cs, t.chars = c :: cs ∧ isBlank c = false := by
  cases hchars : t.chars with
  | nil =>
      cases t with
      | word name =>
          obtain ⟨c, cs, hcons, -⟩ := name.exists_cons
          cases hcons.symm.trans hchars
      | _ => cases hchars
  | cons c cs => exact ⟨c, cs, rfl, isBlank_of_mem_chars (hchars ▸ List.mem_cons_self)⟩

end Token

/-! ## Layout -/

def Blanks (gap : List Char) : Prop := ∀ c ∈ gap, isBlank c = true

def startsWord : List Char → Bool
  | [] => false
  | c :: _ => isWord c

/-- The text has the tokens in their order, with blanks between them. A word is
not directly followed by a character of a word. -/
inductive Laid : List Token → List Char → Prop
  | blanks {gap : List Char} : Blanks gap → Laid [] gap
  | token {gap text : List Char} {t : Token} {ts : List Token} :
      Blanks gap → (t.isWord = true → startsWord text = false) → Laid ts text →
      Laid (t :: ts) (gap ++ (t.chars ++ text))

theorem Blanks.append {gap more : List Char} (hgap : Blanks gap) (hmore : Blanks more) :
    Blanks (gap ++ more) := by
  intro c hc
  rcases List.mem_append.mp hc with hc | hc
  · exact hgap c hc
  · exact hmore c hc

theorem Blanks.dropWhile_append {gap : List Char} (hgap : Blanks gap) (text : List Char) :
    (gap ++ text).dropWhile isBlank = text.dropWhile isBlank :=
  List.dropWhile_append_of_pos hgap

theorem Blanks.dropWhile_eq_nil {gap : List Char} (hgap : Blanks gap) :
    gap.dropWhile isBlank = [] := by
  simpa using hgap.dropWhile_append []

theorem Blanks.of_cons {c : Char} {gap : List Char} (hgap : Blanks (c :: gap)) :
    isBlank c = true ∧ Blanks gap :=
  List.forall_mem_cons.mp hgap

theorem dropWhile_isBlank_eq_self {c : Char} (hc : isBlank c = false) (cs : List Char) :
    (c :: cs).dropWhile isBlank = c :: cs :=
  List.dropWhile_cons_of_neg (by rw [hc]; decide)

/-- No token starts with a blank, so dropping blanks stops in front of it. -/
theorem Blanks.dropWhile_token {gap : List Char} (hgap : Blanks gap) (t : Token)
    (text : List Char) : (gap ++ (t.chars ++ text)).dropWhile isBlank = t.chars ++ text := by
  obtain ⟨c, cs, hchars, hc⟩ := t.exists_chars_cons
  rw [hgap.dropWhile_append, hchars, List.cons_append, dropWhile_isBlank_eq_self hc]

theorem startsWord_blanks_append {gap text : List Char} (hgap : Blanks gap)
    (htext : startsWord text = false) : startsWord (gap ++ text) = false := by
  cases gap with
  | nil => exact htext
  | cons c gap => exact isWord_of_isBlank hgap.of_cons.1

namespace Laid

variable {ts : List Token} {t : Token} {gap text : List Char}

theorem blanks_append (hgap : Blanks gap) (h : Laid ts text) : Laid ts (gap ++ text) := by
  cases h with
  | blanks hmore => exact .blanks (hgap.append hmore)
  | token hmore hword hrest =>
      rw [← List.append_assoc]
      exact .token (hgap.append hmore) hword hrest

theorem cons (hword : t.isWord = true → startsWord text = false) (h : Laid ts text) :
    Laid (t :: ts) (t.chars ++ text) :=
  .token (List.forall_mem_nil _) hword h

/-- Behind the blanks stands the first token. -/
theorem dropWhile_blanks (h : Laid (t :: ts) text) :
    ∃ rest, text.dropWhile isBlank = t.chars ++ rest ∧ Laid ts rest ∧
      (t.isWord = true → startsWord rest = false) := by
  cases h with
  | @token gap rest _ _ hgap hword hrest =>
      exact ⟨rest, hgap.dropWhile_token t rest, hrest, hword⟩

theorem dropWhile_blanks_nil (h : Laid [] text) : text.dropWhile isBlank = [] := by
  cases h with
  | blanks hgap => exact hgap.dropWhile_eq_nil

theorem dropWhile_isBlank (h : Laid ts text) : Laid ts (text.dropWhile isBlank) := by
  cases ts with
  | nil =>
      rw [h.dropWhile_blanks_nil]
      exact .blanks (List.forall_mem_nil _)
  | cons t ts =>
      obtain ⟨rest, hdrop, hrest, hword⟩ := h.dropWhile_blanks
      rw [hdrop]
      exact hrest.cons hword

/-- A text starts with a blank or with its first token. -/
theorem isBlank_or_mem_chars {c : Char} (h : Laid ts (c :: text)) :
    isBlank c = true ∨ ∃ t ts', ts = t :: ts' ∧ c ∈ t.chars := by
  generalize hcs : c :: text = cs at h
  cases h with
  | blanks hgap => exact Or.inl (hgap c (hcs ▸ List.mem_cons_self))
  | @token gap _ t ts hgap _ _ =>
      cases gap with
      | nil =>
          obtain ⟨d, chars, hchars, -⟩ := t.exists_chars_cons
          rw [hchars] at hcs
          cases hcs
          exact Or.inr ⟨t, ts, rfl, hchars ▸ List.mem_cons_self⟩
      | cons d gap =>
          cases hcs
          exact Or.inl (hgap c List.mem_cons_self)

/-- Only a row with the mark in front lays out as a text with it in front. -/
theorem exists_of_mark {c : Char} (h : Laid ts (c :: text)) (hmark : t.isWord = false)
    (hc : c ∈ t.chars) : ∃ ts', ts = t :: ts' := by
  rcases h.isBlank_or_mem_chars with hblank | ⟨u, ts', rfl, hu⟩
  · cases hblank.symm.trans (Token.isBlank_of_mem_chars hc)
  · exact ⟨ts', by rw [Token.eq_of_mem_chars hu hc hmark]⟩

/-- A text whose first token is no word starts with none. -/
theorem startsWord_eq_false (hts : ∀ t ∈ ts.head?, t.isWord = false) (h : Laid ts text) :
    startsWord text = false := by
  cases text with
  | nil => rfl
  | cons c text =>
      rcases h.isBlank_or_mem_chars with hc | ⟨t, ts, rfl, hc⟩
      · exact isWord_of_isBlank hc
      · exact Token.isWord_of_mem_chars (hts t rfl) hc

end Laid

/-! ## The passes on tokens -/

/-- The row without empty argument lists. -/
def withoutEmpty : List Token → List Token
  | .opening :: .closing :: ts => withoutEmpty ts
  | t :: ts => t :: withoutEmpty ts
  | [] => []

/-- The row without namespaces and their colons. -/
def withoutPaths : List Token → List Token
  | .word _ :: .colons :: ts => withoutPaths ts
  | .colons :: ts => withoutPaths ts
  | t :: ts => t :: withoutPaths ts
  | [] => []

/-- The row without qualifiers and without pointer and reference marks. -/
def plainTokens (ts : List Token) : List Token :=
  (ts.filter fun t => !t.isQualifier).filter fun t => !t.isMark

/-- The row that is left of a spelling. -/
def core (ts : List Token) : List Token := withoutPaths (withoutEmpty (plainTokens ts))

end InputBindings.Identifier
