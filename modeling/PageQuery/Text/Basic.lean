
/-!
Blank characters, and cutting a text at a separator.

A character is *blank* when it has the Unicode property `White_Space`. Everything in this library
that trims, or asks whether a text is empty but for blanks, uses this one table. `isBlank_of_isWhitespace`
says that the table holds every character that core calls whitespace.

`pieces` keeps empty pieces, so a text with `n` separators has `n + 1` of them; `joinWith_pieces`
says that joining them gives back the text.
-/

namespace PageQuery.Text

/-! ## 1. The table -/

/-- The characters with the Unicode property `White_Space`. The zero-width space, the byte order
mark and the information separators U+001C to U+001F are not among them. -/
def isBlank (c : Char) : Bool :=
  let n := c.toNat
  (9 ≤ n && n ≤ 13) || n == 0x20 || n == 0x85 || n == 0xA0 || n == 0x1680 ||
    (0x2000 ≤ n && n ≤ 0x200A) || n == 0x2028 || n == 0x2029 || n == 0x202F || n == 0x205F ||
    n == 0x3000

theorem isBlank_of_isWhitespace {c : Char} (h : c.isWhitespace = true) : isBlank c = true := by
  simp only [Char.isWhitespace, Bool.or_eq_true, decide_eq_true_eq] at h
  rcases h with ((rfl | rfl) | rfl) | rfl <;> decide

/-! ## 2. Trimming -/

/-- Drop the blanks at both ends. -/
def trimChars (cs : List Char) : List Char :=
  ((cs.dropWhile isBlank).reverse.dropWhile isBlank).reverse

/-- Drop the blanks at both ends of a string. -/
def trim (s : String) : String := String.ofList (trimChars s.toList)

/-- A text is blank when it holds nothing but blank characters. -/
def isAllBlank (s : String) : Bool := s.toList.all isBlank

@[simp] theorem trimChars_nil : trimChars [] = [] := rfl

@[simp] theorem toList_trim (s : String) : (trim s).toList = trimChars s.toList := by
  simp [trim]

/-! ## 3. Pieces -/

/-- The pieces of a text between the separators, empty ones included. -/
def pieces (sep : Char) : List Char → List (List Char)
  | [] => [[]]
  | c :: rest =>
    if c = sep then [] :: pieces sep rest
    else
      match pieces sep rest with
      | [] => [[c]]
      | piece :: more => (c :: piece) :: more

/-- The pieces in order with a separator text between them. -/
def joinWith (sep : List Char) : List (List Char) → List Char
  | [] => []
  | [piece] => piece
  | piece :: next :: more => piece ++ sep ++ joinWith sep (next :: more)

/-- The lines of a text: its pieces between line feeds. -/
def lines (cs : List Char) : List (List Char) := pieces '\n' cs

theorem pieces_ne_nil (sep : Char) (cs : List Char) : pieces sep cs ≠ [] := by
  cases cs with
  | nil => simp [pieces]
  | cons c rest =>
    unfold pieces
    split
    · simp
    · split <;> simp

theorem joinWith_pieces (sep : Char) (cs : List Char) : joinWith [sep] (pieces sep cs) = cs := by
  induction cs with
  | nil => rfl
  | cons c rest ih =>
    unfold pieces
    split
    · next h =>
      subst h
      cases hp : pieces c rest with
      | nil => exact absurd hp (pieces_ne_nil c rest)
      | cons p ps => rw [hp] at ih; simp [joinWith, ih]
    · cases hp : pieces sep rest with
      | nil => exact absurd hp (pieces_ne_nil sep rest)
      | cons p ps =>
        rw [hp] at ih
        cases ps with
        | nil => simpa [joinWith] using ih
        | cons q qs => simpa [joinWith] using ih

end PageQuery.Text
