import InputBindings.Text.Blank
import InputBindings.Text.Word

/-!
# Identifiers from type spellings

The spelling of a native type is reduced to a bare identifier in five passes over the text, each
from left to right and each once:

- `dropQualifiers`: a word that qualifies a type becomes a space;
- `dropMarks`: pointer and reference marks become spaces;
- `dropEmptyArguments`: an empty argument list disappears;
- `dropNamespaces`: a namespace and its colons disappear;
- `tighten`: blanks next to angle brackets and commas disappear.

What is left is trimmed, and every character that an identifier cannot hold becomes an underscore,
so that the remaining arguments keep different types apart. Nothing is left of a text that does not
start with a letter or an underscore.

The passes recurse on the length of the text: each takes at least one character off it.
-/

namespace InputBindings.Identifier

open Text

/-- The words that qualify a type and are no part of its name. -/
def qualifiers : List String := ["const", "volatile", "struct", "class", "typename"]

def isQualifier (word : List Char) : Bool := qualifiers.any (·.toList == word)

theorem length_dropWhile_le (p : Char → Bool) (cs : List Char) :
    (cs.dropWhile p).length ≤ cs.length :=
  (List.dropWhile_suffix p).length_le

/-! ## The passes -/

/-- Every word that is a qualifier becomes a space. -/
def dropQualifiers : List Char → List Char
  | [] => []
  | c :: cs =>
    if isWord c then
      let word := c :: cs.takeWhile isWord
      (if isQualifier word then [' '] else word) ++ dropQualifiers (cs.dropWhile isWord)
    else c :: dropQualifiers cs
termination_by cs => cs.length
decreasing_by
  · have := length_dropWhile_le isWord cs
    simp only [List.length_cons]
    omega
  · simp

/-- Pointer and reference marks become spaces. -/
def dropMarks (cs : List Char) : List Char :=
  cs.map fun c => if c = '*' ∨ c = '&' then ' ' else c

/-- An opening bracket with only blanks between it and a closing one disappears with it. -/
def dropEmptyArguments : List Char → List Char
  | [] => []
  | c :: cs =>
    if c = '<' then
      match _h : cs.dropWhile isBlank with
      | '>' :: rest => dropEmptyArguments rest
      | _ => c :: dropEmptyArguments cs
    else c :: dropEmptyArguments cs
termination_by cs => cs.length
decreasing_by
  · have := length_dropWhile_le isBlank cs
    rw [_h] at this
    simp only [List.length_cons] at this ⊢
    omega
  all_goals simp

/-- What follows two colons, and the blanks after them. -/
def afterColons? : List Char → Option (List Char)
  | ':' :: ':' :: cs => some (cs.dropWhile isBlank)
  | _ => none

theorem length_afterColons {cs rest : List Char} (h : afterColons? cs = some rest) :
    rest.length + 2 ≤ cs.length := by
  unfold afterColons? at h
  split at h
  · cases h
    have := length_dropWhile_le isBlank ‹List Char›
    simp only [List.length_cons]
    omega
  · simp at h

/-- Two colons disappear, with the blanks around them and the word in front of them if it starts
as a name does. -/
def dropNamespaces : List Char → List Char
  | [] => []
  | c :: cs =>
    if isWord c then
      if isNameStart c then
        match _h : afterColons? ((cs.dropWhile isWord).dropWhile isBlank) with
        | some rest => dropNamespaces rest
        | none => c :: cs.takeWhile isWord ++ dropNamespaces (cs.dropWhile isWord)
      else c :: cs.takeWhile isWord ++ dropNamespaces (cs.dropWhile isWord)
    else
      match _h : afterColons? (c :: cs) with
      | some rest => dropNamespaces rest
      | none => c :: dropNamespaces cs
termination_by cs => cs.length
decreasing_by
  · have h₁ := length_afterColons _h
    have h₂ := length_dropWhile_le isBlank (cs.dropWhile isWord)
    have h₃ := length_dropWhile_le isWord cs
    simp only [List.length_cons]
    omega
  · have := length_dropWhile_le isWord cs
    simp only [List.length_cons]
    omega
  · have := length_dropWhile_le isWord cs
    simp only [List.length_cons]
    omega
  · have := length_afterColons _h
    omega
  · simp

/-- The characters that separate and enclose arguments. -/
def isPunctuation (c : Char) : Bool := c == '<' || c == '>' || c == ','

/-- Blanks next to punctuation disappear. -/
def tighten : List Char → List Char
  | [] => []
  | c :: cs =>
    if isPunctuation c then c :: tighten (cs.dropWhile isBlank)
    else if isBlank c then
      match _h : cs.dropWhile isBlank with
      | [] => c :: cs.takeWhile isBlank
      | d :: rest =>
        if isPunctuation d then d :: tighten (rest.dropWhile isBlank)
        else c :: cs.takeWhile isBlank ++ tighten (d :: rest)
    else c :: tighten cs
termination_by cs => cs.length
decreasing_by
  · have := length_dropWhile_le isBlank cs
    simp only [List.length_cons]
    omega
  · have h₁ := length_dropWhile_le isBlank cs
    have h₂ := length_dropWhile_le isBlank rest
    rw [_h] at h₁
    simp only [List.length_cons] at h₁ ⊢
    omega
  · have h₁ := length_dropWhile_le isBlank cs
    rw [_h] at h₁
    simp only [List.length_cons] at h₁ ⊢
    omega
  · simp

/-- A character that an identifier cannot hold becomes an underscore. -/
def underscored (c : Char) : Char := if isNameChar c then c else '_'

/-! ## The identifier -/

/-- What the passes leave of a text. -/
def reduced (cs : List Char) : List Char :=
  trim isBlank (tighten (dropNamespaces (dropEmptyArguments (dropMarks (dropQualifiers cs)))))

/-- The identifier that is left of a type spelling; empty if none is. -/
def bare (cs : List Char) : List Char :=
  match reduced cs with
  | [] => []
  | c :: rest => if isLetter c || c == '_' then (c :: rest).map underscored else []

/-- The identifier that is left of a type spelling; empty if none is. -/
def ofSpelling (spelling : String) : String := String.ofList (bare spelling.toList)

end InputBindings.Identifier
