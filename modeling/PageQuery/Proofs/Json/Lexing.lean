import PageQuery.Json.Draft
import PageQuery.Json.Value
/-!
Printed JSON: its strings and lexemes are read as they were written, and compact text is one line.

A text stands in a JSON string with escapes for some of its characters, and `lexeme?_quote` says that
reading undoes them, whatever the characters and whatever comes after the string. `Lexes` says which
lexemes a text has, and has a rule for a gap and one for a lexeme; so the lexemes of a printed value are
told by following the printer.

Every control character below U+0020 is escaped in a string, and the printer puts none between the parts
of a value. So compact text has none at all (`hasNoControls_compact`), and a line feed behind each of some
compact texts cuts them apart again.
-/

namespace PageQuery.Json

open Number

/-! ## 1. Escapes -/

/-- A digit below sixteen is read as it was written. -/
theorem hexValue?_hexDigit {n : Nat} (h : n < 16) : hexValue? (hexDigit n) = some n := by
  have hAll : ∀ n < 16, hexValue? (hexDigit n) = some n := by decide
  exact hAll n h

theorem hex4?_byte {n : Nat} (h : n < 256) :
    hex4? '0' '0' (hexDigit (n / 16)) (hexDigit (n % 16)) = some n := by
  have hZero : hexValue? '0' = some 0 := by decide
  have hHigh := hexValue?_hexDigit (n := n / 16) (by omega)
  have hLow := hexValue?_hexDigit (n := n % 16) (by omega)
  rw [hex4?, hZero, hHigh, hLow]
  show some (4096 * 0 + 256 * 0 + 16 * (n / 16) + n % 16) = some n
  congr 1
  omega

/-- A unit that is read where a character was written. -/
def Unit16.IsOf (c : Char) (u : Unit16) : Prop :=
  ∀ us, unitsText? (u :: us) = (unitsText? us).map (c :: ·)

theorem Unit16.isOf_char (c : Char) : IsOf c (.char c) := fun _ => rfl

theorem Unit16.isOf_code {c : Char} (h : c.toNat < 32) : IsOf c (.code c.toNat) := by
  intro us
  have hHigh : ¬ (0xD800 ≤ c.toNat ∧ c.toNat < 0xDC00) := by omega
  have hLow : ¬ (0xDC00 ≤ c.toNat ∧ c.toNat < 0xE000) := by omega
  rw [unitsText?.eq_def]
  simp only [if_neg hHigh, if_neg hLow, Char.ofNat_toNat]

theorem stringUnits_simple {e c : Char} (hEscape : simpleEscape? e = some c) (hLetter : e ≠ 'u')
    (rest : List Char) :
    stringUnits ('\\' :: e :: rest) = (stringUnits rest).map fun r => (.char c :: r.1, r.2) := by
  rw [stringUnits]
  · rw [hEscape]
    cases stringUnits rest with
    | none => rfl
    | some r => rfl
  · exact fun _ _ _ _ _ h _ => hLetter h

theorem stringUnits_byte {n : Nat} (h : n < 256) (rest : List Char) :
    stringUnits ('\\' :: 'u' :: '0' :: '0' :: hexDigit (n / 16) :: hexDigit (n % 16) :: rest) =
      (stringUnits rest).map fun r => (.code n :: r.1, r.2) := by
  rw [stringUnits, hex4?_byte h]
  cases stringUnits rest with
  | none => rfl
  | some r => rfl

theorem stringUnits_plain {c : Char} (hQuote : c ≠ '"') (hBackslash : c ≠ '\\')
    (hControl : ¬ c.toNat < 32) (rest : List Char) :
    stringUnits (c :: rest) = (stringUnits rest).map fun r => (.char c :: r.1, r.2) := by
  rw [stringUnits]
  · rw [if_neg (by simp [hControl, hBackslash])]
    cases stringUnits rest with
    | none => rfl
    | some r => rfl
  · exact hQuote
  · exact fun _ _ _ _ _ h _ => hBackslash h
  · exact fun _ _ h _ => hBackslash h

/-- A character stands in a string as an escape of one letter, as an escape of its number, or for
itself. -/
theorem escapeChar_cases (c : Char) :
    (∃ e, simpleEscape? e = some c ∧ e ≠ 'u' ∧ escapeChar c = ['\\', e]) ∨
    (c.toNat < 32 ∧ escapeChar c =
      ['\\', 'u', '0', '0', hexDigit (c.toNat / 16), hexDigit (c.toNat % 16)]) ∨
    (c ≠ '"' ∧ c ≠ '\\' ∧ ¬ c.toNat < 32 ∧ escapeChar c = [c]) := by
  by_cases hLetter : c ∈ ['"', '\\', '\n', '\r', '\t', '\x08', '\x0c']
  · left
    simp only [List.mem_cons, List.not_mem_nil, or_false] at hLetter
    rcases hLetter with rfl | rfl | rfl | rfl | rfl | rfl | rfl
    · exact ⟨'"', by decide⟩
    · exact ⟨'\\', by decide⟩
    · exact ⟨'n', by decide⟩
    · exact ⟨'r', by decide⟩
    · exact ⟨'t', by decide⟩
    · exact ⟨'b', by decide⟩
    · exact ⟨'f', by decide⟩
  · right
    simp only [List.mem_cons, List.not_mem_nil, or_false, not_or] at hLetter
    obtain ⟨hQuote, hBackslash, hFeed, hReturn, hTab, hBack, hForm⟩ := hLetter
    rw [escapeChar, if_neg hQuote, if_neg hBackslash, if_neg hFeed, if_neg hReturn, if_neg hTab,
      if_neg hBack, if_neg hForm]
    by_cases hControl : c.toNat < 32
    · exact Or.inl ⟨hControl, if_pos hControl⟩
    · exact Or.inr ⟨hQuote, hBackslash, hControl, if_neg hControl⟩

/-- An escaped character is read as one unit. -/
theorem stringUnits_escapeChar (c : Char) : ∃ u, Unit16.IsOf c u ∧ ∀ rest,
    stringUnits (escapeChar c ++ rest) = (stringUnits rest).map fun r => (u :: r.1, r.2) := by
  rcases escapeChar_cases c with ⟨e, hEscape, hLetter, hText⟩ | ⟨hControl, hText⟩ |
    ⟨hQuote, hBackslash, hControl, hText⟩
  · rw [hText]
    exact ⟨_, Unit16.isOf_char c, stringUnits_simple hEscape hLetter⟩
  · rw [hText]
    exact ⟨_, Unit16.isOf_code hControl, stringUnits_byte (by omega)⟩
  · rw [hText]
    exact ⟨_, Unit16.isOf_char c, stringUnits_plain hQuote hBackslash hControl⟩

/-- **A string is read as it was written**, whatever comes after it. -/
theorem stringUnits_escaped : ∀ (cs rest : List Char), ∃ units, unitsText? units = some cs ∧
    stringUnits (cs.flatMap escapeChar ++ '"' :: rest) = some (units, rest)
  | [], rest => ⟨[], rfl, by rw [List.flatMap_nil, List.nil_append, stringUnits]⟩
  | c :: cs, rest => by
      obtain ⟨u, hUnit, hRead⟩ := stringUnits_escapeChar c
      obtain ⟨units, hUnits, hRest⟩ := stringUnits_escaped cs rest
      refine ⟨u :: units, by rw [hUnit, hUnits, Option.map_some], ?_⟩
      rw [List.flatMap_cons, List.append_assoc, hRead, hRest, Option.map_some]

theorem lexeme?_quote (s : String) (rest : List Char) :
    lexeme? (quote s ++ rest) = some (.text (some s), rest) := by
  obtain ⟨units, hUnits, hRead⟩ := stringUnits_escaped s.toList rest
  rw [quote, List.cons_append, List.append_assoc, List.singleton_append, lexeme?, hRead]
  simp only [Option.map_some, hUnits, String.ofList_toList]

/-! ## 2. Lexemes -/

/-- The text has these lexemes, in any number of steps that is not less than its length. -/
def Lexes (cs : List Char) (ls : List Lexeme) : Prop :=
  ∀ steps, cs.length ≤ steps → lexemesIn steps cs = some ls

theorem Lexes.lexemes_eq {cs : List Char} {ls : List Lexeme} (h : Lexes cs ls) :
    lexemes cs = some ls := h cs.length (Nat.le_refl _)

namespace Lexes

theorem nil : Lexes [] [] := fun steps _ => by rw [lexemesIn]

theorem gap {c : Char} {rest : List Char} {ls : List Lexeme} (hGap : isGap c = true)
    (h : Lexes rest ls) : Lexes (c :: rest) ls := by
  intro steps hSteps
  cases steps with
  | zero => simp at hSteps
  | succ steps =>
    rw [lexemesIn, if_pos hGap]
    exact h steps (by simpa using hSteps)

theorem gaps : ∀ {blank rest : List Char} {ls : List Lexeme},
    (∀ c ∈ blank, isGap c = true) → Lexes rest ls → Lexes (blank ++ rest) ls
  | [], _, _, _, h => h
  | c :: _, _, _, hGaps, h =>
      .gap (hGaps c List.mem_cons_self)
        (gaps (fun c hMem => hGaps c (List.mem_cons_of_mem _ hMem)) h)

/-- A lexeme at the head, and the lexemes of the rest. -/
theorem cons {c : Char} {cs rest : List Char} {l : Lexeme} {ls : List Lexeme}
    (hGap : isGap c = false) (hRead : lexeme? (c :: cs) = some (l, rest))
    (hShorter : rest.length ≤ cs.length) (h : Lexes rest ls) : Lexes (c :: cs) (l :: ls) := by
  intro steps hSteps
  cases steps with
  | zero => simp at hSteps
  | succ steps =>
    have hRest : lexemesIn steps rest = some ls := h steps (by simp at hSteps; omega)
    rw [lexemesIn, if_neg (by simp [hGap]), hRead]
    show (lexemesIn steps rest).bind _ = _
    rw [hRest]
    rfl

theorem quote (s : String) {rest : List Char} {ls : List Lexeme} (h : Lexes rest ls) :
    Lexes (Json.quote s ++ rest) (.text (some s) :: ls) := by
  have hRead := lexeme?_quote s rest
  rw [Json.quote, List.cons_append] at hRead ⊢
  exact .cons (by decide) hRead (by simp; omega) h

theorem newline (depth : Nat) {rest : List Char} {ls : List Lexeme} (h : Lexes rest ls) :
    Lexes (Json.newline depth ++ rest) ls := by
  refine .gaps (fun c hMem => ?_) h
  rcases List.mem_cons.mp hMem with rfl | hMem
  · decide
  · rw [List.eq_of_mem_replicate hMem]
    decide

end Lexes

/-! ## 3. Texts without controls -/

/-- No character of the text is a control character below U+0020. -/
def HasNoControls (cs : List Char) : Prop := ∀ c ∈ cs, 32 ≤ c.toNat

instance (cs : List Char) : Decidable (HasNoControls cs) :=
  List.decidableBAll (fun c : Char => 32 ≤ c.toNat) cs

namespace HasNoControls

variable {a b : List Char} {c : Char}

theorem nil : HasNoControls [] := by simp [HasNoControls]

theorem cons (hHead : 32 ≤ c.toNat) (hRest : HasNoControls b) : HasNoControls (c :: b) :=
  List.forall_mem_cons.mpr ⟨hHead, hRest⟩

theorem append (h : HasNoControls a) (h' : HasNoControls b) : HasNoControls (a ++ b) :=
  List.forall_mem_append.mpr ⟨h, h'⟩

theorem subset (h : HasNoControls b) (hSub : a ⊆ b) : HasNoControls a := fun c hMem => h c (hSub hMem)

theorem replicate (hSelf : 32 ≤ c.toNat) (n : Nat) : HasNoControls (List.replicate n c) := by
  intro d hMem
  rw [List.eq_of_mem_replicate hMem]
  exact hSelf

/-- A line feed is a control character. -/
theorem newline_not_mem (h : HasNoControls a) : '\n' ∉ a := by
  intro hMem
  have hLow : 32 ≤ '\n'.toNat := h _ hMem
  exact absurd hLow (by decide)

end HasNoControls

/-! ## 4. Leaves -/

theorem hasNoControls_naturalDigits (n : Nat) : HasNoControls (naturalDigits n) := by
  intro c hMem
  have hDigit : c.isDigit = true := Nat.isDigit_of_mem_toDigits (by omega) (by omega) hMem
  simp only [Char.isDigit, ge_iff_le, Bool.and_eq_true, decide_eq_true_eq] at hDigit
  have hLow : 48 ≤ c.val.toNat := hDigit.1
  show 32 ≤ c.val.toNat
  omega

theorem hasNoControls_intText (i : Int) : HasNoControls (intText i) := by
  rw [intText]
  split
  · exact .cons (by decide) (hasNoControls_naturalDigits _)
  · exact hasNoControls_naturalDigits _

theorem hasNoControls_write (layout : Layout) (digits : Nat) (power : Int) :
    HasNoControls (layout.write digits power) := by
  have hDigits := hasNoControls_naturalDigits digits
  rw [Layout.write]
  generalize naturalDigits digits = ds at hDigits
  simp only
  split
  · split
    · exact (hDigits.append (.replicate (by decide) _)).append
        (.cons (by decide) (.cons (by decide) .nil))
    · split
      · exact (hDigits.subset (List.take_subset _ _)).append
          (.cons (by decide) (hDigits.subset (List.drop_subset _ _)))
      · exact .cons (by decide) (.cons (by decide) (.append (.replicate (by decide) _) hDigits))
  · refine .append ?_ (.cons (by decide) (.cons ?_ (hasNoControls_naturalDigits _)))
    · match ds, hDigits with
      | [], _ => exact .nil
      | [d], hDigits => exact hDigits
      | d :: e :: rest, hDigits =>
        obtain ⟨hFirst, hRest⟩ := List.forall_mem_cons.mp hDigits
        exact .cons hFirst (.cons (by decide) hRest)
    · split <;> decide

theorem hasNoControls_jsonText (x : Double) : HasNoControls x.jsonText := by
  have hBody : HasNoControls (if x.isZero then ['0', '.', '0'] else
      Layout.json.write (shortest x).1 (shortest x).2) := by
    split
    · exact .cons (by decide) (.cons (by decide) (.cons (by decide) .nil))
    · exact hasNoControls_write _ _ _
  rw [Double.jsonText]
  simp only
  split
  · exact .cons (by decide) hBody
  · exact hBody

theorem hexDigit_toNat {n : Nat} (h : n < 16) : 32 ≤ (hexDigit n).toNat := by
  have hAll : ∀ n < 16, 32 ≤ (hexDigit n).toNat := by decide
  exact hAll n h

/-- The letter of an escape is no control character. -/
theorem toNat_of_simpleEscape? {e c : Char} (h : simpleEscape? e = some c) : 32 ≤ e.toNat := by
  rcases Nat.lt_or_ge e.toNat 32 with hLow | hHigh
  · have hOther : ∀ letter : Char, 32 ≤ letter.toNat → e ≠ letter := by
      rintro letter hLetter rfl
      omega
    simp [simpleEscape?, hOther '"' (by decide), hOther '\\' (by decide), hOther '/' (by decide),
      hOther 'b' (by decide), hOther 'f' (by decide), hOther 'n' (by decide),
      hOther 'r' (by decide), hOther 't' (by decide)] at h
  · exact hHigh

theorem hasNoControls_escapeChar (c : Char) : HasNoControls (escapeChar c) := by
  rcases escapeChar_cases c with ⟨e, hEscape, -, hText⟩ | ⟨hControl, hText⟩ | ⟨-, -, hNot, hText⟩
  · rw [hText]
    exact .cons (by decide) (.cons (toNat_of_simpleEscape? hEscape) .nil)
  · rw [hText]
    exact .cons (by decide) (.cons (by decide) (.cons (by decide) (.cons (by decide)
      (.cons (hexDigit_toNat (by omega)) (.cons (hexDigit_toNat (by omega)) .nil)))))
  · rw [hText]
    exact .cons (by omega) .nil

theorem hasNoControls_quote (s : String) : HasNoControls (quote s) := by
  refine .cons (by decide) (.append (fun c hMem => ?_) (.cons (by decide) .nil))
  obtain ⟨d, -, hEscaped⟩ := List.mem_flatMap.mp hMem
  exact hasNoControls_escapeChar d c hEscaped

/-! ## 5. Values -/

mutual

/-- **Compact text has no control characters.** -/
theorem hasNoControls_compact : ∀ v : Json, HasNoControls v.compact
  | .null => by
      rw [compact]
      decide
  | .bool b => by
      rw [compact]
      cases b with
      | true => decide
      | false => decide
  | .int i => by
      rw [compact]
      exact hasNoControls_intText i
  | .double x => by
      rw [compact]
      exact hasNoControls_jsonText x
  | .str s => by
      rw [compact]
      exact hasNoControls_quote s
  | .arr items => by
      rw [compact]
      exact .cons (by decide) ((hasNoControls_items items).append (.cons (by decide) .nil))
  | .obj fields => by
      rw [compact]
      exact .cons (by decide) ((hasNoControls_fields fields).append (.cons (by decide) .nil))

theorem hasNoControls_items : ∀ items : List Json, HasNoControls (compactItems items)
  | [] => by
      rw [compactItems]
      exact .nil
  | [item] => by
      rw [compactItems]
      exact hasNoControls_compact item
  | item :: next :: rest => by
      rw [compactItems]
      exact (hasNoControls_compact item).append
        (.cons (by decide) (hasNoControls_items (next :: rest)))

theorem hasNoControls_fields : ∀ fields : List (String × Json), HasNoControls (compactFields fields)
  | [] => by
      rw [compactFields]
      exact .nil
  | [(name, value)] => by
      rw [compactFields]
      exact (hasNoControls_quote name).append (.cons (by decide) (hasNoControls_compact value))
  | (name, value) :: next :: rest => by
      rw [compactFields]
      exact (hasNoControls_quote name).append (.cons (by decide)
        ((hasNoControls_compact value).append
          (.cons (by decide) (hasNoControls_fields (next :: rest)))))

end

theorem newline_not_mem_render (v : Json) : '\n' ∉ v.render.toList := by
  rw [render, String.toList_ofList]
  exact (hasNoControls_compact v).newline_not_mem

end PageQuery.Json
