import PageQuery.Text.Basic
import PageQuery.Text.Width
import PageQuery.Net.Address
import PageQuery.Net.Punycode
/-!
Names of hosts.

A name is percent-decoded, put into lower case and cut into labels; a label beyond ASCII is written
in ASCII with a mark in front. `host?` gives the one normal spelling of names and of addresses.
-/

namespace PageQuery.Net

open Text

/-! ## 1. Case -/

/-- Capitals of the Latin, Greek, Cyrillic and Armenian scripts: the first and the last of a series,
the step from one to the next, and the distance to the small letters. -/
def capitals : List (Nat × Nat × Nat × Nat) :=
  [(0xC0, 0xD6, 1, 32), (0xD8, 0xDE, 1, 32), (0x100, 0x12E, 2, 1), (0x132, 0x136, 2, 1),
   (0x139, 0x147, 2, 1), (0x14A, 0x176, 2, 1), (0x179, 0x17D, 2, 1), (0x386, 0x386, 1, 38),
   (0x388, 0x38A, 1, 37), (0x38C, 0x38C, 1, 64), (0x38E, 0x38F, 1, 63), (0x391, 0x3A1, 1, 32),
   (0x3A3, 0x3AB, 1, 32), (0x400, 0x40F, 1, 80), (0x410, 0x42F, 1, 32), (0x460, 0x480, 2, 1),
   (0x48A, 0x4BE, 2, 1), (0x4D0, 0x52E, 2, 1), (0x531, 0x556, 1, 48), (0x1E00, 0x1E94, 2, 1),
   (0x1EA0, 0x1EFE, 2, 1)]

/-- A character in lower case. -/
def lowerChar (c : Char) : Char :=
  let n := c.toNat
  match capitals.find? fun (first, last, step, _) =>
    first ≤ n && n ≤ last && (n - first) % step == 0 with
  | some (_, _, _, distance) => Char.ofNat (n + distance)
  | none => c.toLower

/-- A character of full width stands for its ASCII twin. -/
def narrowed (c : Char) : Char :=
  if 0xFF01 ≤ c.toNat && c.toNat ≤ 0xFF5E then Char.ofNat (c.toNat - 0xFEE0) else c

/-- Characters that part labels like a point. -/
def isPoint (c : Char) : Bool := c == '\u3002' || c == '\uff0e' || c == '\uff61'

/-- Characters that are passed over. -/
def isIgnored (c : Char) : Bool :=
  let n := c.toNat
  n == 0xAD || n == 0x200B || n == 0x2060 || n == 0xFEFF || (0xFE00 ≤ n && n ≤ 0xFE0F)

/-- A name with its characters as they count. -/
def mapped (cs : List Char) : List Char :=
  (cs.filter fun c => !isIgnored c).map fun c => if isPoint c then '.' else lowerChar (narrowed c)

/-! ## 2. Labels -/

/-- Characters beyond ASCII that no name may hold. -/
def isBarred (c : Char) : Bool :=
  let n := c.toNat
  (0x80 ≤ n && isBlank c) || (0x7F ≤ n && n < 0xA0) || n == 0x200E || n == 0x200F ||
    (0x2028 ≤ n && n ≤ 0x202E) || (0xE000 ≤ n && n ≤ 0xF8FF) || (0xFFF9 ≤ n && n ≤ 0xFFFF)

/-- The text of a label beyond ASCII may be in a name. -/
def isLabel (cs : List Char) : Bool :=
  !cs.any isBarred && !(cs.head?.any isMark)

/-- The mark of a label that was beyond ASCII. -/
def labelMark : List Char := "xn--".toList

def isAsciiChar (c : Char) : Bool := c.toNat < 0x80

/-- A marked label has to stand for a text beyond ASCII in its normal spelling. -/
def isMarkedLabel (cs : List Char) : Bool :=
  match Punycode.decode? cs with
  | some text => !text.all isAsciiChar && isLabel text && mapped text == text
  | none => false

/-- A label in ASCII. -/
def asciiLabel? (cs : List Char) : Option (List Char) :=
  if cs.all isAsciiChar then
    if labelMark.isPrefixOf cs && !isMarkedLabel (cs.drop 4) then none else some cs
  else if isLabel cs then some (labelMark ++ Punycode.encode cs)
  else none

/-- A name in ASCII. -/
def asciiName? (cs : List Char) : Option (List Char) := do
  return joinWith ['.'] (← (pieces '.' (mapped cs)).mapM asciiLabel?)

/-! ## 3. Hosts -/

/-- Characters that no host may hold as they are. -/
def isForbiddenInHost (c : Char) : Bool :=
  c.toNat == 0 || "\t\n\r #/:<>?@[\\]^|".toList.contains c

/-- Characters that no name may hold. -/
def isForbiddenInName (c : Char) : Bool :=
  isForbiddenInHost c || c.toNat < 0x21 || c.toNat == 0x7F || c == '%'

/-- A name, or an address of four bytes. -/
def name? (cs : List Char) : Option (List Char) := do
  let name ← asciiName? (← decodedText? cs)
  if name.isEmpty || name.any isForbiddenInName then none
  if endsInNumber name then address? name else some name

/-- An address in brackets. -/
def bracketed? (cs : List Char) : Option (List Char) :=
  match cs with
  | '[' :: rest =>
    if rest.getLast? == some ']' then
      (eightGroups? rest.dropLast).map fun gs => '[' :: (groupsText gs ++ [']'])
    else none
  | _ => none

/-- The normal spelling of a host of the web. -/
def host? (cs : List Char) : Option String :=
  (if cs.head? == some '[' then bracketed? cs else name? cs).map String.ofList

/-- The normal spelling of any other host. -/
def opaqueHost? (cs : List Char) : Option String :=
  if cs.head? == some '[' then (bracketed? cs).map String.ofList
  else if cs.any isForbiddenInHost then none
  else some (String.ofList (encode [] cs))

end PageQuery.Net
