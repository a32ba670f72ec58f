import InputBindings.Text.Blank
import InputBindings.Text.Numeral

/-!
# Reading integers

An integer is written with an optional sign and digits, with single underscores between digits, and
may be surrounded by blanks. The digits from zero to nine are those of any script. In base two,
eight and sixteen the digits may follow the mark of the base.

Text of ASCII characters alone may be surrounded by ASCII blanks only; as soon as another character
occurs, blanks beyond ASCII count too. In other bases more than 4300 digits are not read.
-/

namespace InputBindings.Number

open InputBindings.Text

/-- The value of digits in a base, most significant first. -/
def ofDigits (base : Nat) (digits : List Nat) : Nat :=
  digits.foldl (fun n d => n * base + d) 0

/-- The value of a digit; letters go on after nine. -/
def digit? (base : Nat) (c : Char) : Option Nat :=
  let value := match digitValue? c with
    | some d => some d
    | none =>
      if 'a' ≤ c ∧ c ≤ 'z' then some (c.toNat - 'a'.toNat + 10)
      else if 'A' ≤ c ∧ c ≤ 'Z' then some (c.toNat - 'A'.toNat + 10)
      else none
  value.filter (· < base)

/-- Digits with single underscores between them, after at least one digit. -/
def moreDigits (base : Nat) : List Char → Option (List Nat)
  | [] => some []
  | '_' :: c :: cs => do
    let d ← digit? base c
    let ds ← moreDigits base cs
    some (d :: ds)
  | c :: cs => do
    let d ← digit? base c
    let ds ← moreDigits base cs
    some (d :: ds)

/-- A blank that may stand around the number. -/
def isOuterBlank (c : Char) : Bool :=
  isAsciiBlank c || (127 ≤ c.toNat && isBlank c)

/-- The greatest count of digits that is read as a number, unless the base is a power of two. -/
def maxDigits : Nat := 4300

/-- The mark of a base: a letter after a zero. -/
def baseMark? : Nat → Option Char
  | 2 => some 'b'
  | 8 => some 'o'
  | 16 => some 'x'
  | _ => none

/-- The digits after the mark of the base, if there is one; an underscore may follow the mark. -/
def withoutMark (base : Nat) : List Char → List Char
  | '0' :: c :: cs =>
    if baseMark? base == some c.toLower then
      match cs with
      | '_' :: rest => rest
      | rest => rest
    else '0' :: c :: cs
  | cs => cs

/-- The natural number that unsigned digits stand for. -/
def natural? (base : Nat) (cs : List Char) : Option Nat :=
  match withoutMark base cs with
  | [] => none
  | c :: cs => do
    let d ← digit? base c
    let ds ← moreDigits base cs
    if (baseMark? base).isNone ∧ maxDigits ≤ ds.length then none else some (ofDigits base (d :: ds))

/-- The integer that the text stands for in a base. -/
def integerIn? (base : Nat) (cs : List Char) : Option Int :=
  match trim isOuterBlank cs with
  | '-' :: cs => (natural? base cs).map fun n => -(n : Int)
  | '+' :: cs => (natural? base cs).map Int.ofNat
  | cs => (natural? base cs).map Int.ofNat

/-- The decimal integer that the text stands for. -/
def integer? (s : String) : Option Int := integerIn? 10 s.toList

end InputBindings.Number
