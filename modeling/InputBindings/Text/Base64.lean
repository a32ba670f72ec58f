/-!
# Base 64

Bytes written as characters of six bits each. Characters outside of the alphabet do not count. What
is written ends with its first group of four characters that padding fills up; without padding the
last group must be complete.
-/

namespace InputBindings.Text

/-- The six bits that a character stands for. -/
def sixBits? (c : Char) : Option Nat :=
  if 'A' ≤ c ∧ c ≤ 'Z' then some (c.toNat - 'A'.toNat)
  else if 'a' ≤ c ∧ c ≤ 'z' then some (c.toNat - 'a'.toNat + 26)
  else if '0' ≤ c ∧ c ≤ '9' then some (c.toNat - '0'.toNat + 52)
  else if c = '+' then some 62
  else if c = '/' then some 63
  else none

/-- The whole bytes in a group of six-bit parts. -/
def groupBytes (group : List Nat) : List UInt8 :=
  let bits := (group ++ List.replicate (4 - group.length) 0).foldl (fun n d => n * 64 + d) 0
  ([bits / 65536, bits / 256 % 256, bits % 256].take (group.length - 1)).map UInt8.ofNat

/-- The bytes from within a group on: `group` is what has been read of it, and `pads` how many
padding characters stand behind that. -/
def base64From (group : List Nat) (pads : Nat) : List Char → Option (List UInt8)
  | [] => if group.isEmpty then some [] else none
  | c :: cs =>
    if c = '=' then
      if 2 ≤ group.length then
        if 4 ≤ group.length + pads + 1 then some (groupBytes group)
        else base64From group (pads + 1) cs
      else base64From group pads cs
    else
      match sixBits? c with
      | none => base64From group pads cs
      | some d =>
        if group.length = 3 then
          (base64From [] 0 cs).map (groupBytes (group ++ [d]) ++ ·)
        else base64From (group ++ [d]) 0 cs

/-- The bytes that a text in base 64 stands for. -/
def base64? (cs : List Char) : Option (List UInt8) := base64From [] 0 cs

end InputBindings.Text
