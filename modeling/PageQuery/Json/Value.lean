import PageQuery.Number.Double
import PageQuery.Number.Shortest
/-!
JSON values, and their text.

Integers are kept apart from doubles, and the fields of an object keep the order in which they were
first given. `setField` is the one way the library adds a field: a name that is already there keeps
its place and takes the new value.

Text is compact or indented. In a string only the quote, the backslash and the control characters
below U+0020 are escaped; every other character stands for itself. The indented form puts each item on
a line of its own, two spaces deeper than its container, and an empty container on one line.
-/

namespace PageQuery

open Number

/-- A JSON value. A number is an integer of at most 64 bits or a finite double. -/
inductive Json where
  | null
  | bool (value : Bool)
  | int (value : Int)
  | double (value : Double)
  | str (value : String)
  | arr (items : List Json)
  | obj (fields : List (String × Json))

namespace Json

instance : Inhabited Json := ⟨null⟩

/-! ## 1. Building -/

def nat (n : Nat) : Json := int n

/-- Give a field its value: in its old place if the name is there, else at the end. -/
def setField (name : String) (value : Json) : List (String × Json) → List (String × Json)
  | [] => [(name, value)]
  | (k, v) :: rest =>
    if k = name then (k, value) :: rest else (k, v) :: setField name value rest

/-- An object from a list of fields in which a name may come again: the first place and the last
value count. -/
def ofFields (fields : List (String × Json)) : List (String × Json) :=
  fields.foldl (fun done field => setField field.1 field.2 done) []

/-- `null` for an absent value. -/
def ofOption {α : Type} (encode : α → Json) : Option α → Json
  | none => null
  | some a => encode a

/-! ## 2. Looking -/

/-- The value of a field, if this is an object that has it. -/
def get? (name : String) : Json → Option Json
  | obj fields => (fields.find? (fun field => field.1 == name)).map (·.2)
  | _ => none

def asString? : Json → Option String
  | str s => some s
  | _ => none

def asBool? : Json → Option Bool
  | bool b => some b
  | _ => none

/-- A natural number of at most 64 bits. -/
def asNat? : Json → Option Nat
  | int i => if 0 ≤ i ∧ i < Nat.pow 2 64 then some i.toNat else none
  | _ => none

/-- The string under a name. -/
def string? (name : String) (v : Json) : Option String := (v.get? name).bind asString?

@[simp] theorem get?_obj_nil (name : String) : (obj []).get? name = none := rfl

@[simp] theorem get?_obj_cons (name k : String) (v : Json) (rest : List (String × Json)) :
    (obj ((k, v) :: rest)).get? name = if k = name then some v else (obj rest).get? name := by
  by_cases h : k = name <;> simp [get?, h]

theorem asString?_eq_some_iff {v : Json} {s : String} : v.asString? = some s ↔ v = .str s := by
  cases v <;> simp [asString?]

theorem asBool?_eq_some_iff {v : Json} {b : Bool} : v.asBool? = some b ↔ v = .bool b := by
  cases v <;> simp [asBool?]

theorem string?_eq_some_iff {name s : String} {v : Json} :
    v.string? name = some s ↔ v.get? name = some (.str s) := by
  simp [string?, Option.bind_eq_some_iff, asString?_eq_some_iff]

/-- A natural number is read back if it has at most 64 bits. -/
theorem asNat?_nat {n : Nat} (h : n < Nat.pow 2 64) : (nat n).asNat? = some n := by
  have hRange : (0 : Int) ≤ n ∧ (n : Int) < Nat.pow 2 64 := by
    constructor
    · omega
    · exact Int.ofNat_lt.mpr h
  rw [nat, asNat?, if_pos hRange]
  rfl

@[simp] theorem setField_nil (name : String) (value : Json) :
    setField name value [] = [(name, value)] := rfl

@[simp] theorem setField_cons_self (name : String) (value old : Json)
    (rest : List (String × Json)) :
    setField name value ((name, old) :: rest) = (name, value) :: rest := by
  simp [setField]

/-! ## 3. Leaves -/

/-- A hexadecimal digit, in lower case. -/
def hexDigit (n : Nat) : Char :=
  if n < 10 then Char.ofNat (n + '0'.toNat) else Char.ofNat (n - 10 + 'a'.toNat)

/-- A character as it stands inside a JSON string. -/
def escapeChar (c : Char) : List Char :=
  if c = '"' then ['\\', '"']
  else if c = '\\' then ['\\', '\\']
  else if c = '\n' then ['\\', 'n']
  else if c = '\r' then ['\\', 'r']
  else if c = '\t' then ['\\', 't']
  else if c = '\x08' then ['\\', 'b']
  else if c = '\x0c' then ['\\', 'f']
  else if c.toNat < 32 then ['\\', 'u', '0', '0', hexDigit (c.toNat / 16), hexDigit (c.toNat % 16)]
  else [c]

def quote (s : String) : List Char := '"' :: (s.toList.flatMap escapeChar ++ ['"'])

def intText (i : Int) : List Char :=
  if i < 0 then '-' :: naturalDigits i.natAbs else naturalDigits i.natAbs

def boolText (b : Bool) : List Char := if b then "true".toList else "false".toList

/-! ## 4. Compact text -/

mutual

/-- A value without any blank between its parts. -/
def compact : Json → List Char
  | null => "null".toList
  | bool b => boolText b
  | int i => intText i
  | double x => x.jsonText
  | str s => quote s
  | arr items => '[' :: (compactItems items ++ [']'])
  | obj fields => '{' :: (compactFields fields ++ ['}'])

/-- Items with commas between them. -/
def compactItems : List Json → List Char
  | [] => []
  | [item] => compact item
  | item :: next :: rest => compact item ++ ',' :: compactItems (next :: rest)

/-- Fields with commas between them. -/
def compactFields : List (String × Json) → List Char
  | [] => []
  | [(name, value)] => quote name ++ ':' :: compact value
  | (name, value) :: next :: rest =>
    quote name ++ ':' :: (compact value ++ ',' :: compactFields (next :: rest))

end

/-! ## 5. Indented text -/

/-- A new line at the given depth. -/
def newline (depth : Nat) : List Char := '\n' :: List.replicate (2 * depth) ' '

mutual

/-- A value at the given depth, its parts on lines of their own. -/
def indented (depth : Nat) : Json → List Char
  | arr [] => ['[', ']']
  | obj [] => ['{', '}']
  | arr (item :: rest) =>
    '[' :: (indentedItems (depth + 1) (item :: rest) ++ newline depth ++ [']'])
  | obj (field :: rest) =>
    '{' :: (indentedFields (depth + 1) (field :: rest) ++ newline depth ++ ['}'])
  | null => "null".toList
  | bool b => boolText b
  | int i => intText i
  | double x => x.jsonText
  | str s => quote s

/-- Items at the given depth, each after a new line. -/
def indentedItems (depth : Nat) : List Json → List Char
  | [] => []
  | [item] => newline depth ++ indented depth item
  | item :: next :: rest =>
    newline depth ++ indented depth item ++ ',' :: indentedItems depth (next :: rest)

/-- Fields at the given depth, each after a new line. -/
def indentedFields (depth : Nat) : List (String × Json) → List Char
  | [] => []
  | [(name, value)] => newline depth ++ quote name ++ ':' :: ' ' :: indented depth value
  | (name, value) :: next :: rest =>
    newline depth ++ quote name ++ ':' :: ' ' ::
      (indented depth value ++ ',' :: indentedFields depth (next :: rest))

end

/-- Compact text as a string. -/
def render (v : Json) : String := String.ofList v.compact

/-- Indented text as a string. -/
def renderPretty (v : Json) : String := String.ofList (v.indented 0)

end Json

end PageQuery
