import PageQuery.Proofs.Query.Reading
/-!
How far the tokenizer looks ahead: one character beyond a token, and no further.

`StartsLike` compares what stands behind a token in two texts. `Fits.of_startsLike` says that a token
stays what it is before every text that starts like the old one, or ends at once, and
`IsReading.transplant` says it of a whole list of tokens. So a text can be cut between any two of its
tokens, and nowhere else: the main statement is `tokenize_append_iff`.
-/

namespace PageQuery.Query

open Text

/-! ## 1. One character of look-ahead -/

/-- `new` starts with the first character of `old`, or it is empty. -/
def StartsLike (new old : List Char) : Prop := ∀ c ∈ new.head?, old.head? = some c

theorem startsLike_nil (old : List Char) : StartsLike [] old := by
  simp [StartsLike]

theorem StartsLike.append_left {new old : List Char} (h : StartsLike new old) (body : List Char) :
    StartsLike (body ++ new) (body ++ old) := by
  cases body with
  | nil => exact h
  | cons d body => simp [StartsLike]

/-- Behind nothing there is nothing to start like. -/
theorem StartsLike.eq_nil {new : List Char} (h : StartsLike new []) : new = [] := by
  cases new with
  | nil => rfl
  | cons c new => simp [StartsLike] at h

section Extents

variable {new old : List Char}

theorem IsMaximalRun.of_startsLike {p : Char → Prop} {text : List Char}
    (h : IsMaximalRun p text old) (hs : StartsLike new old) : IsMaximalRun p text new := by
  obtain ⟨hall, hstop⟩ := h
  exact ⟨hall, fun c hc => hstop c (hs c hc)⟩

theorem EndsAtClose.of_startsLike {body : List Char} (h : EndsAtClose body old)
    (hs : StartsLike new old) : EndsAtClose body new := by
  rcases h with hclosed | ⟨rfl, hopen⟩
  · exact .inl hclosed
  · exact .inr ⟨hs.eq_nil, hopen⟩

theorem EndsAtQuote.of_startsLike {body : List Char} (h : EndsAtQuote body old)
    (hs : StartsLike new old) : EndsAtQuote body new := by
  rcases h with ⟨inner, hbody, hnext⟩ | ⟨rfl, hopen⟩
  · exact .inl ⟨inner, hbody, fun hquote => hnext (hs _ hquote)⟩
  · exact .inr ⟨hs.eq_nil, hopen⟩

namespace Rule

theorem Extends.of_startsLike {r : Rule} {text : List Char} (h : r.Extends text old)
    (hs : StartsLike new old) : r.Extends text new := by
  cases r with
  | lineComment | operators | number | word => exact IsMaximalRun.of_startsLike h hs
  | blockComment =>
    obtain ⟨body, htext, hend⟩ := h
    exact ⟨body, htext, hend.of_startsLike hs⟩
  | quoted =>
    obtain ⟨body, htext, hend⟩ := h
    exact ⟨body, htext, hend.of_startsLike hs⟩
  | blank | punctuation | single => exact h

/-- A rule that can be used still can when more follows. -/
theorem Tests.of_startsLike {r : Rule} {c : Char} (h : r.Tests c new) (hs : StartsLike new old) :
    r.Tests c old := by
  cases r with
  | lineComment | blockComment => exact ⟨h.1, hs _ h.2⟩
  | _ => exact h

/-- A rule whose token ends before `old` did not need `old` to be used. -/
theorem Tests.of_extends {r : Rule} {c : Char} {body : List Char} (h : r.Tests c (body ++ old))
    (he : r.Extends (c :: body) old) (new : List Char) : r.Tests c (body ++ new) := by
  cases r with
  | lineComment =>
    obtain ⟨hc, hnext⟩ := h
    -- a comment never ends before a dash, so its second dash is its own
    cases body with
    | nil => exact absurd (by decide) (he.2 '-' hnext)
    | cons d body => exact ⟨hc, hnext⟩
  | blockComment =>
    obtain ⟨inner, hbody, -⟩ := he
    obtain ⟨rfl, rfl⟩ := List.cons.inj hbody
    exact ⟨rfl, rfl⟩
  | _ => exact h

/-- The rule that governs a text with its token in front governs what is put behind the token. -/
theorem Governs.of_startsLike {r : Rule} {c : Char} {body : List Char}
    (h : r.Governs (c :: body ++ old)) (he : r.Extends (c :: body) old)
    (hs : StartsLike new old) : r.Governs (c :: body ++ new) := by
  obtain ⟨hopens, hbefore⟩ := h
  have hmore : StartsLike (body ++ new) (body ++ old) := hs.append_left body
  constructor
  · have htest : r.Tests c (body ++ old) := (r.opens_cons c _).mp hopens
    exact (r.opens_cons c _).mpr (htest.of_extends he new)
  · intro q hq hopens'
    have htest : q.Tests c (body ++ new) := (q.opens_cons c _).mp hopens'
    exact hbefore q hq ((q.opens_cons c _).mpr (htest.of_startsLike hmore))

end Rule

/-- A token stays what it is when what follows it starts like before, or is cut off. -/
theorem Fits.of_startsLike {t : Token} (hne : t.text ≠ []) (h : Fits t old)
    (hs : StartsLike new old) : Fits t new := by
  obtain ⟨kind, text⟩ := t
  obtain ⟨c, body, rfl⟩ := List.exists_cons_of_ne_nil hne
  obtain ⟨r, hgoverns, hextends, hnames⟩ := h
  exact ⟨r, hgoverns.of_startsLike hextends hs, hextends.of_startsLike hs, hnames⟩

end Extents

/-! ## 2. Token lists before another text -/

/-- The first tokens of a reading go before the reading of any text that starts like the one they
stood before. -/
theorem IsReading.transplant {ts us vs : List Token} {cs new : List Char}
    (h : IsReading cs (ts ++ us)) (hnew : IsReading new vs) (hs : StartsLike new (plainText us)) :
    IsReading (plainText ts ++ new) (ts ++ vs) := by
  -- what a token stands before are the tokens between and then the new text, so both start alike
  induction ts generalizing cs with
  | nil => exact hnew
  | cons t ts ih =>
    rw [List.cons_append] at h
    obtain ⟨hne, hfits, -, hrest⟩ := isReading_cons.mp h
    have hvs : plainText (ts ++ vs) = plainText ts ++ new := by
      rw [plainText_append, hnew.plainText_eq]
    rw [plainText_append] at hfits
    rw [List.cons_append, isReading_cons, hvs]
    exact ⟨hne, hfits.of_startsLike hne (hs.append_left _), by simp, ih hrest⟩

theorem tokenize_transplant {ts us : List Token} {cs new : List Char}
    (h : tokenize cs = ts ++ us) (hs : StartsLike new (plainText us)) :
    tokenize (plainText ts ++ new) = ts ++ tokenize new := by
  have hread : IsReading cs (ts ++ us) := h ▸ isReading_tokenize cs
  exact (hread.transplant (isReading_tokenize new) hs).eq_tokenize.symm

theorem tokenize_plainText_left {ts us : List Token} {cs : List Char}
    (h : tokenize cs = ts ++ us) : tokenize (plainText ts) = ts := by
  have hcut := tokenize_transplant h (startsLike_nil _)
  rwa [tokenize_nil, List.append_nil, List.append_nil] at hcut

/-- The tokens behind a boundary are read from there alone: the scan keeps nothing in mind. -/
theorem tokenize_plainText_right {ts us : List Token} {cs : List Char}
    (h : tokenize cs = ts ++ us) : tokenize (plainText us) = us := by
  induction ts generalizing cs with
  | nil =>
    rw [List.nil_append] at h
    rw [← h, plainText_tokenize]
  | cons t ts ih =>
    cases cs with
    | nil => simp at h
    | cons c rest =>
      rw [tokenize_cons, List.cons_append] at h
      exact ih (List.cons.inj h).2

/-! ## 3. Cuts -/

/-- Some tokens of a text, from its start, are together `n` characters long. -/
def IsTokenBoundary (cs : List Char) (n : Nat) : Prop :=
  ∃ ts, ts <+: tokenize cs ∧ (plainText ts).length = n

theorem tokenize_append_of_boundary {p q : List Char}
    (h : IsTokenBoundary (p ++ q) p.length) : tokenize p ++ tokenize q = tokenize (p ++ q) := by
  obtain ⟨ts, ⟨us, hcut⟩, hlen⟩ := h
  have htext : plainText ts ++ plainText us = p ++ q := by
    rw [← plainText_append, hcut, plainText_tokenize]
  obtain ⟨rfl, rfl⟩ := List.append_inj htext hlen
  rw [tokenize_plainText_left hcut.symm, tokenize_plainText_right hcut.symm, hcut]

theorem isTokenBoundary_of_append {p q : List Char}
    (h : tokenize p ++ tokenize q = tokenize (p ++ q)) : IsTokenBoundary (p ++ q) p.length :=
  ⟨tokenize p, ⟨tokenize q, h⟩, by rw [plainText_tokenize]⟩

/-- **A text is read piece by piece exactly where it is cut between tokens**, and every run of its
tokens is just what its own text is read as. -/
theorem tokenize_append_iff :
    (∀ p q, tokenize p ++ tokenize q = tokenize (p ++ q) ↔ IsTokenBoundary (p ++ q) p.length) ∧
      ∀ cs ts, ts <:+: tokenize cs → tokenize (plainText ts) = ts := by
  constructor
  · intro p q
    exact ⟨isTokenBoundary_of_append, tokenize_append_of_boundary⟩
  · rintro cs ts ⟨before, after, hcs⟩
    have hfront : tokenize (plainText (before ++ ts)) = before ++ ts :=
      tokenize_plainText_left hcs.symm
    exact tokenize_plainText_right hfront

/-- A comment is the same without the line break that ended it, and a string is still open without
what came before it. -/
theorem tokens_around_break_read_alone :
    [⟨.comment, "--a'".toList⟩, ⟨.whitespace, ['\n']⟩, ⟨.string, "'b".toList⟩]
        <:+: tokenize "7--a'\n'b".toList ∧
      tokenize "--a'\n'b".toList
        = [⟨.comment, "--a'".toList⟩, ⟨.whitespace, ['\n']⟩, ⟨.string, "'b".toList⟩] := by
  have hread : tokenize "7--a'\n'b".toList
      = [⟨.number, ['7']⟩, ⟨.comment, "--a'".toList⟩, ⟨.whitespace, ['\n']⟩,
        ⟨.string, "'b".toList⟩] := by
    simp [tokenize_cons, firstToken, run, throughQuote, isBlank, isPunctuation, isOperatorChar,
      isDecimalDigit, isNumberChar]
  have hpart : [⟨.comment, "--a'".toList⟩, ⟨.whitespace, ['\n']⟩, ⟨.string, "'b".toList⟩]
      <:+: tokenize "7--a'\n'b".toList := by
    rw [hread]
    exact ⟨[⟨.number, ['7']⟩], [], rfl⟩
  exact ⟨hpart, tokenize_append_iff.2 _ _ hpart⟩

end PageQuery.Query
