import InputBindings.Number.Double
import InputBindings.Number.Integer

/-!
# Reading double-precision numbers

A number is written with an optional sign, digits with or without a point among them, and an
optional exponent; or it is one of the words for infinity and for what is no number. It may be
surrounded by blanks. The number nearest to what is written is read.
-/

namespace InputBindings.Number.Double

/-- Digits from zero to nine, of any script, and what follows them. -/
def spanDigits : List Char → List Nat × List Char
  | [] => ([], [])
  | c :: cs =>
    match Text.digitValue? c with
    | some d =>
      let (ds, rest) := spanDigits cs
      (d :: ds, rest)
    | none => ([], c :: cs)

/-- An exponent at the end of a number, zero if there is none. -/
def exponent? : List Char → Option Int
  | [] => some 0
  | c :: cs =>
    if c.toLower = 'e' then
      let (negative, cs) := match cs with
        | '-' :: rest => (true, rest)
        | '+' :: rest => (false, rest)
        | rest => (false, rest)
      match spanDigits cs with
      | ([], _) => none
      | (ds, []) =>
        let n : Int := ofDigits 10 ds
        some (if negative then -n else n)
      | _ => none
    else none

/-- Digits, a point and an exponent. -/
def ofDigitText? (negative : Bool) (cs : List Char) : Option Double :=
  let (whole, rest) := spanDigits cs
  let (places, rest) := match rest with
    | '.' :: more => spanDigits more
    | more => ([], more)
  if whole.isEmpty && places.isEmpty then none
  else
    (exponent? rest).map fun power =>
      ofDecimal negative (ofDigits 10 (whole ++ places)) (power - places.length)

/-- A number without its sign. -/
def ofUnsigned? (negative : Bool) (cs : List Char) : Option Double :=
  match String.ofList (cs.map Char.toLower) with
  | "inf" | "infinity" => some (.infinite negative)
  | "nan" => some .nan
  | _ => ofDigitText? negative cs

/-- The number that the text stands for. -/
def ofText? (cs : List Char) : Option Double :=
  match Text.trim isOuterBlank cs with
  | '-' :: cs => ofUnsigned? true cs
  | '+' :: cs => ofUnsigned? false cs
  | cs => ofUnsigned? false cs

end InputBindings.Number.Double
