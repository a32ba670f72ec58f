import InputBindings.Number.Reading
import InputBindings.Text.Base64
import InputBindings.Value.Basic
import InputBindings.Yaml.Kind

/-!
# The values of scalars

What the text of a scalar stands for as a truth value, an integer, a number, bytes or a date.
Underscores do not count in numbers. A plain scalar of such a kind nearly always has a value; a tag
can call any text a number, and then the text may have none.
-/

namespace InputBindings.Yaml

open Number (Double)

/-- A truth value, its words written in any case. -/
def truth (text : String) : Except Fault Bool :=
  let word := text.toLower
  if trueWords.contains word then pure true
  else if falseWords.contains word then pure false
  else throw (.content .notTruth)

/-- Text without underscores, its sign apart. -/
def signed (text : String) : Except Fault (Bool × List Char) :=
  match text.toList.filter (· != '_') with
  | [] => throw (.content .empty)
  | '-' :: cs => pure (true, cs)
  | '+' :: cs => pure (false, cs)
  | cs => pure (false, cs)

/-- A scalar that has a value if its text can be read. -/
def readable (value : Option α) : Except Fault α :=
  match value with
  | some v => pure v
  | none => throw (.content .notNumber)

/-! ## Integers -/

/-- The integer that digits of base sixty stand for, the most significant first. -/
def sixtyInt (digits : List Int) : Int := digits.foldl (fun n d => n * 60 + d) 0

/-- The value of an integer without its sign. -/
def magnitude (cs : List Char) : Except Fault Int :=
  match cs with
  | [] => throw (.content .empty)
  | ['0'] => pure 0
  | '0' :: 'b' :: bits => readable (Number.integerIn? 2 bits)
  | '0' :: 'x' :: digits => readable (Number.integerIn? 16 digits)
  | '0' :: _ => readable (Number.integerIn? 8 cs)
  | _ =>
    if cs.contains ':' then
      sixtyInt <$> readable ((Text.cut ':' cs).mapM (Number.integerIn? 10))
    else readable (Number.integerIn? 10 cs)

/-- An integer. -/
def integer (text : String) : Except Fault Int := do
  let (negative, cs) ← signed text
  let n ← magnitude cs
  return if negative then -n else n

/-! ## Numbers -/

/-- The number that digits of base sixty stand for, the least significant first: each is multiplied
by its weight, which must be a finite number, and added to what is behind it, with rounding. -/
def sixtyNumber (sum : Double) (weight : Nat) : List Double → Except Fault Double
  | [] => pure sum
  | d :: ds =>
    match Double.ofInt weight with
    | .finite negative mantissa exponent =>
      let term := d.mul (.finite negative mantissa exponent)
      sixtyNumber (sum.add term) (weight * 60) ds
    | _ => throw (.content .tooHeavy)

/-- A number and whether it is the one thing that is no number and stands behind a point. Whatever
else is no number differs from every other such thing. -/
structure Quantity where
  value : Double
  isPointed : Bool := false
  deriving DecidableEq, Repr

/-- The value of a number without its sign. -/
def size (cs : List Char) : Except Fault Quantity :=
  match String.ofList cs with
  | ".inf" => pure { value := .infinite false }
  | ".nan" => pure { value := .nan, isPointed := true }
  | _ =>
    if cs.contains ':' then do
      let digits ← readable ((Text.cut ':' cs).mapM Double.ofText?)
      return { value := ← sixtyNumber (Double.zero false) 1 digits.reverse }
    else do
      return { value := ← readable (Double.ofText? cs) }

/-- A number. -/
def number (text : String) : Except Fault Quantity := do
  let (negative, cs) ← signed text.toLower
  let x ← size cs
  return if negative then { x with value := x.value.neg } else x

/-! ## Bytes -/

/-- Bytes in base 64, written in ASCII. -/
def bytes (text : String) : Except Fault (List UInt8) :=
  if text.toList.all fun c => c.toNat < 0x80 then
    match Text.base64? text.toList with
    | some bs => pure bs
    | none => throw .malformed
  else throw .malformed

/-! ## Dates -/

/-- The number that decimal digits stand for, zero if there are none. -/
def decimal (digits : List Char) : Nat := Number.ofDigits 10 (digits.map fun c => c.toNat - 0x30)

/-- The millionths in the places after a second. -/
def millionths (places : List Char) : Nat :=
  decimal (places.take 6 ++ List.replicate (6 - places.length) '0')

/-- The minutes of an offset. -/
def offsetMinutes (before : Bool) (hours minutes : List Char) : Int :=
  let n : Int := 60 * decimal hours + decimal minutes
  if before then -n else n

/-- A date that is one of the calendar, alone or with a time. -/
def DateText.value (t : DateText) : Except Fault Value :=
  let date : Date := ⟨decimal t.year, decimal t.month, decimal t.day⟩
  match t.time with
  | none => if date.isValid then pure (.date date) else throw (.content .noSuchDate)
  | some (hour, minute, second, places) =>
    let moment : Moment := {
      date
      hour := decimal hour
      minute := decimal minute
      second := decimal second
      micro := millionths places
      offset := t.offset.map fun (before, hours, minutes) => offsetMinutes before hours minutes }
    if moment.isValid then pure (.moment moment) else throw (.content .noSuchDate)

/-- A date; a line feed may follow it. -/
def dateValue (text : String) : Except Fault Value :=
  let cs := text.toList
  let whole := if cs.getLast? == some '\n' then cs.dropLast else cs
  match DateText.ofChars? whole with
  | some t => t.value
  | none => throw (.content .notDate)

end InputBindings.Yaml
