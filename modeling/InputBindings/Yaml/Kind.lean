import InputBindings.Text.Lines
import InputBindings.Yaml.Cursor

/-!
# Kinds of nodes

What a node stands for is its kind. A tag names the kind; without one, lists and mappings are what
they are, quoted scalars are text, and plain scalars have the kind that their spelling shows:

- null: nothing, a tilde or the word in lower, capitalised or upper case;
- truth values: yes, no, true, false, on, off in these three cases;
- integers: binary, octal after a zero, decimal, hexadecimal, and in base sixty with colons;
- numbers: with a point, and a sign before the exponent if there is one; in base sixty; infinity and
  what is no number after a point;
- dates: year, month and day between dashes, alone or with a time;
- two signs that only mean something as keys: the double left angle and the equals sign.

Whatever else is text. One line feed at the end does not change what a spelling shows.
-/

namespace InputBindings.Yaml

inductive Kind where
  | null
  | bool
  | int
  | float
  | str
  | bytes
  | date
  | list
  | mapping
  /-- A list of entries, each a mapping of its own. -/
  | pairs
  | set
  /-- The key of entries that are merged into a mapping. -/
  | merge
  /-- The key of the value that stands for a whole mapping. -/
  | equals
  | unknown
  deriving DecidableEq, Repr, Inhabited

/-- What the tags of the standard kinds start with. -/
def standardStem : String := "tag:yaml.org,2002:"

/-- The kinds that tags name. -/
def namedKinds : List (String × Kind) :=
  [("null", .null), ("bool", .bool), ("int", .int), ("float", .float), ("str", .str),
   ("binary", .bytes), ("timestamp", .date), ("seq", .list), ("map", .mapping), ("omap", .pairs),
   ("pairs", .pairs), ("set", .set), ("merge", .merge), ("value", .equals)].map
    fun (name, kind) => (standardStem ++ name, kind)

/-- The kind that a tag names. -/
def Kind.ofTag (tag : String) : Kind := (namedKinds.lookup tag).getD .unknown

/-! ## Spellings -/

/-- A word in lower, capitalised or upper case. -/
def inThreeCases (word : String) : List String := [word, word.capitalize, word.toUpper]

def nullWords : List String := ["", "~"] ++ inThreeCases "null"

def trueWords : List String := ["yes", "true", "on"]

def falseWords : List String := ["no", "false", "off"]

def truthWords : List String := (trueWords ++ falseWords).flatMap inThreeCases

/-- A digit or an underscore. -/
def isDigitOrMark (c : Char) : Bool := c.isDigit || c == '_'

/-- Text without a sign in front. -/
def unsigned : List Char → List Char
  | '-' :: cs => cs
  | '+' :: cs => cs
  | cs => cs

/-- A digit of base sixty: one or two decimal digits. -/
def isSixty : List Char → Bool
  | [a] => a.isDigit
  | [a, b] => '0' ≤ a && a ≤ '5' && b.isDigit
  | _ => false

/-- Digits of base sixty between colons, at least two; the first, which may be greater, starts with
a character of the class. -/
def isSexagesimal (first : Char → Bool) (cs : List Char) : Bool :=
  match Text.cut ':' cs with
  | (c :: head) :: a :: more => first c && head.all isDigitOrMark && (a :: more).all isSixty
  | _ => false

/-- The spelling of an integer, without its sign. -/
def isInteger : List Char → Bool
  | '0' :: cs =>
    match cs with
    | [] => true
    | 'b' :: c :: bits => (c :: bits).all fun x => x == '0' || x == '1' || x == '_'
    | 'x' :: c :: digits => (c :: digits).all fun x => isHexDigit x || x == '_'
    | cs => cs.all fun x => ('0' ≤ x && x ≤ '7') || x == '_'
  | c :: cs =>
    (c.isDigit && cs.all isDigitOrMark) || isSexagesimal (fun x => x.isDigit && x != '0') (c :: cs)
  | [] => false

/-- The spelling of an exponent, which may be missing. -/
def isExponent : List Char → Bool
  | [] => true
  | e :: sign :: c :: cs =>
    (e == 'e' || e == 'E') && (sign == '-' || sign == '+') && (c :: cs).all Char.isDigit
  | _ => false

/-- Whether what follows the point of a number may stand there. -/
def isAfterPoint (cs : List Char) : Bool := isExponent (cs.dropWhile isDigitOrMark)

/-- The spelling of a number, without its sign. -/
def isNumber (cs : List Char) : Bool :=
  match cs.takeWhile (· != '.'), cs.dropWhile (· != '.') with
  | c :: whole, _ :: places =>
    (c.isDigit && whole.all isDigitOrMark && isAfterPoint places) ||
      (isSexagesimal Char.isDigit (c :: whole) && places.all isDigitOrMark)
  | _, _ => false

/-- The spelling of a number that starts with its point. -/
def isPlaces : List Char → Bool
  | '.' :: c :: cs => c.isDigit && isAfterPoint cs
  | _ => false

/-- A group of digits, and what follows it. -/
def digitGroup (least most : Nat) (cs : List Char) : Option (List Char × List Char) :=
  let digits := (cs.take most).takeWhile Char.isDigit
  if least ≤ digits.length then some (digits, cs.drop digits.length) else none

/-- The text after a character. -/
def after? (c : Char) : List Char → Option (List Char)
  | x :: cs => if x = c then some cs else none
  | [] => none

/-- The parts of a date as they are written. -/
structure DateText where
  year : List Char
  month : List Char
  day : List Char
  /-- Hour, minute, second and the places after it. -/
  time : Option (List Char × List Char × List Char × List Char) := none
  /-- Behind the sign of an offset, which is true before universal time, its hours and minutes; no
  hours if the offset is written as a letter. -/
  offset : Option (Bool × List Char × List Char) := none
  deriving DecidableEq, Repr

/-- The offset at the end of a date with a time. -/
def offset? (cs : List Char) : Option (Option (Bool × List Char × List Char)) :=
  match cs.dropWhile isSpace with
  | [] => if cs.isEmpty then some none else none
  | ['Z'] => some (some (false, [], []))
  | sign :: rest =>
    if sign = '+' ∨ sign = '-' then do
      let (hours, rest) ← digitGroup 1 2 rest
      match rest with
      | [] => some (some (sign == '-', hours, []))
      | ':' :: rest =>
        let (minutes, rest) ← digitGroup 2 2 rest
        if rest.isEmpty then some (some (sign == '-', hours, minutes)) else none
      | _ => none
    else none

/-- The time after a day, and the offset after it. -/
def timeOfDay? (date : DateText) (cs : List Char) : Option DateText := do
  let rest := match cs with
    | 'T' :: rest => some rest
    | 't' :: rest => some rest
    | c :: rest => if isSpace c then some (rest.dropWhile isSpace) else none
    | [] => none
  let (hour, rest) ← digitGroup 1 2 (← rest)
  let (minute, rest) ← digitGroup 2 2 (← after? ':' rest)
  let (second, rest) ← digitGroup 2 2 (← after? ':' rest)
  let (places, rest) := match rest with
    | '.' :: rest => (rest.takeWhile Char.isDigit, rest.dropWhile Char.isDigit)
    | rest => ([], rest)
  return { date with time := some (hour, minute, second, places), offset := ← offset? rest }

/-- The parts of a date, alone or with a time. -/
def DateText.ofChars? (cs : List Char) : Option DateText := do
  let (year, rest) ← digitGroup 4 4 cs
  let (month, rest) ← digitGroup 1 2 (← after? '-' rest)
  let (day, rest) ← digitGroup 1 2 (← after? '-' rest)
  let date : DateText := { year, month, day }
  if rest.isEmpty then some date else timeOfDay? date rest

/-- Whether a plain scalar shows a date: without a time, month and day take two digits. -/
def isDate (cs : List Char) : Bool :=
  (DateText.ofChars? cs).any fun date =>
    date.time.isSome || (date.month.length == 2 && date.day.length == 2)

/-- The kind that the spelling of a plain scalar shows. -/
def Kind.ofSpelling (spelling : List Char) : Kind :=
  let word := String.ofList spelling
  if nullWords.contains word then .null
  else if truthWords.contains word then .bool
  else if [".inf", ".Inf", ".INF"].contains (String.ofList (unsigned spelling)) then .float
  else if [".nan", ".NaN", ".NAN"].contains word then .float
  else if isNumber (unsigned spelling) || isPlaces spelling then .float
  else if isInteger (unsigned spelling) then .int
  else if isDate spelling then .date
  else if word = "<<" then .merge
  else if word = "=" then .equals
  else .str

/-- The kind of a plain scalar. -/
def Kind.ofPlain (text : String) : Kind :=
  let cs := text.toList
  match Kind.ofSpelling cs with
  | .str => if cs.getLast? == some '\n' then Kind.ofSpelling cs.dropLast else .str
  | kind => kind

end InputBindings.Yaml
