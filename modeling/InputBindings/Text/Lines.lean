/-!
# Lines

Cutting text at line feeds, and the three spellings of a line end. A line end is read as one line
feed however it is spelled, so after `unifyEnds` there is no carriage return left.
-/

namespace InputBindings.Text

/-- The pieces between the marks in a text; there is one more piece than marks. -/
def cut (mark : Char) : List Char → List (List Char)
  | [] => [[]]
  | c :: cs =>
    match cut mark cs with
    | [] => [[c]]
    | p :: ps => if c = mark then [] :: p :: ps else (c :: p) :: ps

/-- The pieces between line feeds. -/
def pieces (cs : List Char) : List (List Char) := cut '\n' cs

/-- Line ends spelled as a carriage return, alone or before a line feed, become a line feed. -/
def unifyEnds : List Char → List Char
  | [] => []
  | '\r' :: '\n' :: cs => '\n' :: unifyEnds cs
  | '\r' :: cs => '\n' :: unifyEnds cs
  | c :: cs => c :: unifyEnds cs

theorem cr_not_mem_unifyEnds (cs : List Char) : '\r' ∉ unifyEnds cs := by
  fun_induction unifyEnds cs with
  | case1 => simp
  | case2 cs ih => simp [ih]
  | case3 cs _ ih => simp [ih]
  | case4 c cs h₁ h₂ ih =>
    simp only [List.mem_cons, not_or]
    exact ⟨fun h => h₂ h.symm, ih⟩

/-- Every line of the text is preceded by `lead`. -/
def leadLines (lead text : String) : String :=
  "\n".intercalate ((pieces text.toList).map fun p => lead ++ String.ofList p)

/-- The lines, each closed by a line feed. -/
def closedLines (lines : List String) : String :=
  String.join (lines.map (· ++ "\n"))

end InputBindings.Text
