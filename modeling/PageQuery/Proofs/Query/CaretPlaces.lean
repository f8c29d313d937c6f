import Mathlib.Data.Prod.Lex
import PageQuery.Proofs.Query.Buffer
/-!
Places in a token list and plain offsets.

Places are ordered by token and then by offset. Several of them can have one plain offset: the end of a
token, the start of the next, and all of any empty token between them. `locate_le_iff` says that `locate`
goes to the first place whose plain offset is large enough, so `locate` and `caretOffset` are adjoint, and
both that `caretOffset` is monotone and that `locate` finds first places follow from it. Neither
needs the tokens to hold any text. The main statement is `offsets_retract_places`.
-/

namespace PageQuery.Query

/-! ## 1. The order of places -/

namespace Caret

/-- What places are ordered by. -/
def key (p : Caret) : Nat ×ₗ Nat := toLex (p.token, p.offset)

theorem key_injective : Function.Injective key := by
  rintro ⟨token, offset⟩ ⟨token', offset'⟩ h
  obtain ⟨rfl, rfl⟩ := Prod.mk.inj (toLex_inj.mp h)
  rfl

instance : PartialOrder Caret := PartialOrder.lift key key_injective

theorem le_iff {p q : Caret} :
    p ≤ q ↔ p.token < q.token ∨ p.token = q.token ∧ p.offset ≤ q.offset :=
  Prod.Lex.toLex_le_toLex

end Caret

/-! ## 2. The first place that is far enough -/

/-- `locate` goes to the first of all places, also of those beyond the list, whose plain offset is at
least the given one. -/
theorem locate_le_iff {ts : List Token} {n : Nat} (h : n ≤ (plainText ts).length) (p : Caret) :
    locate ts n ≤ p ↔ n ≤ caretOffset ts p := by
  obtain ⟨token, offset⟩ := p
  fun_induction locate ts n generalizing token with
  | case1 n =>
    have hn : n = 0 := Nat.le_zero.mp h
    simp only [Caret.le_iff, hn]
    omega
  | case2 t ts n hn =>
    cases token with
    | zero =>
      simp only [Caret.le_iff, caretOffset, Nat.lt_irrefl, false_or, true_and]
      omega
    | succ token =>
      simp only [Caret.le_iff, caretOffset]
      omega
  | case3 t n hn =>
    -- beyond the last token the offset would be beyond the text
    rw [plainText_cons, plainText_nil, List.append_nil] at h
    exact absurd h hn
  | case4 t n hn u us place ih =>
    rw [plainText_cons, List.length_append] at h
    cases token with
    | zero =>
      simp only [Caret.le_iff, caretOffset]
      omega
    | succ token =>
      -- both sides go on in the rest of the list, one token and one token's length less
      have hstep : place ≤ ⟨token, offset⟩ ↔ _ := ih (by omega) token
      simp only [Caret.le_iff, caretOffset] at hstep ⊢
      omega

theorem caretOffset_monotone (ts : List Token) : Monotone (caretOffset ts) := by
  intro p q hpq
  have hfirst : locate ts (caretOffset ts p) ≤ p :=
    (locate_le_iff (caretOffset_le ts p) p).mpr (Nat.le_refl _)
  exact (locate_le_iff (caretOffset_le ts p) q).mp (hfirst.trans hpq)

/-! ## 3. Places inside a list -/

/-- A place is inside a list if it is at one of the tokens and not beyond the token's end. An empty list
has one place, its start. -/
def IsInside : List Token → Caret → Prop
  | [], p => p = ⟨0, 0⟩
  | t :: ts, p => ∃ u, (t :: ts)[p.token]? = some u ∧ p.offset ≤ u.text.length

theorem isInside_locate (ts : List Token) (n : Nat) : IsInside ts (locate ts n) := by
  fun_induction locate ts n with
  | case1 => rfl
  | case2 t ts n hn => exact ⟨t, rfl, hn⟩
  | case3 t n hn => exact ⟨t, rfl, Nat.le_refl _⟩
  | case4 t n hn u us place ih =>
    obtain ⟨v, hget, hle⟩ := ih
    exact ⟨v, hget, hle⟩

/-- The plain offset of a place at a token: the text before the token, and as much of the token as there
is up to the place. -/
theorem caretOffset_of_getElem? {ts : List Token} {p : Caret} {t : Token}
    (h : ts[p.token]? = some t) :
    caretOffset ts p = (plainText (ts.take p.token)).length + min p.offset t.text.length := by
  obtain ⟨token, offset⟩ := p
  induction ts generalizing token with
  | nil => cases h
  | cons u us ih =>
    cases token with
    | zero =>
      obtain rfl : u = t := Option.some.inj h
      simp [caretOffset]
    | succ token =>
      rw [caretOffset, ih token h, List.take_succ_cons, plainText_cons, List.length_append,
        Nat.add_assoc]

theorem IsInside.caretOffset_eq {ts : List Token} {p : Caret} (h : IsInside ts p) :
    caretOffset ts p = (plainText (ts.take p.token)).length + p.offset := by
  cases ts with
  | nil =>
    obtain rfl : p = ⟨0, 0⟩ := h
    rfl
  | cons t ts =>
    obtain ⟨u, hget, hle⟩ := h
    rw [caretOffset_of_getElem? hget, Nat.min_eq_left hle]

/-- Inside one token there is one place for a plain offset. -/
theorem IsInside.eq_of_token_eq {ts : List Token} {p q : Caret} (hp : IsInside ts p)
    (hq : IsInside ts q) (htoken : p.token = q.token)
    (hoffset : caretOffset ts p = caretOffset ts q) : p = q := by
  obtain ⟨token, offset⟩ := p
  obtain ⟨token', offset'⟩ := q
  obtain rfl : token = token' := htoken
  rw [hp.caretOffset_eq, hq.caretOffset_eq] at hoffset
  obtain rfl : offset = offset' := Nat.add_left_cancel hoffset
  rfl

/-! ## 4. There and back -/

/-- The first place inside a list that has a plain offset: all others that have it are at later
tokens. -/
structure IsFirstAt (ts : List Token) (n : Nat) (p : Caret) : Prop where
  isInside : IsInside ts p
  caretOffset_eq : caretOffset ts p = n
  first : ∀ q, IsInside ts q → caretOffset ts q = n → q = p ∨ p.token < q.token

theorem isFirstAt_locate {ts : List Token} {n : Nat} (h : n ≤ (plainText ts).length) :
    IsFirstAt ts n (locate ts n) := by
  have hoffset : caretOffset ts (locate ts n) = n := by rw [caretOffset_locate, Nat.min_eq_left h]
  refine ⟨isInside_locate ts n, hoffset, ?_⟩
  intro q hq hn
  rcases Caret.le_iff.mp ((locate_le_iff h q).mpr (Nat.le_of_eq hn.symm)) with hlt | ⟨hsame, -⟩
  · exact .inr hlt
  · exact .inl (hq.eq_of_token_eq (isInside_locate ts n) hsame.symm (hn.trans hoffset.symm))

/-- Among tokens that are not empty, a located place is located again from its own offset, also where the
offset it was located from is beyond the end. -/
theorem locate_caretOffset_locate {ts : List Token} (h : ∀ t ∈ ts, t.text ≠ []) (n : Nat) :
    locate ts (caretOffset ts (locate ts n)) = locate ts n := by
  rw [caretOffset_locate, Editor.locate_min h]

/-- **Plain offsets are a retract of places.** Going from an offset to its place and back clamps it to the
length of the text, and the place is the first of all inside the list that have that offset. Every place,
inside the list or not, has an offset within the text, and later places have no smaller one. None of this
needs tokens that hold text. Among the tokens of a text, a place that was located is located again from its
own offset. -/
theorem offsets_retract_places (ts : List Token) :
    (∀ n, caretOffset ts (locate ts n) = min n (plainText ts).length) ∧
      (∀ n, n ≤ (plainText ts).length → IsFirstAt ts n (locate ts n)) ∧
      (∀ p, caretOffset ts p ≤ (plainText ts).length) ∧
      Monotone (caretOffset ts) ∧
      ∀ (text : List Char) (n : Nat),
        locate (tokenize text) (caretOffset (tokenize text) (locate (tokenize text) n))
          = locate (tokenize text) n := by
  refine ⟨caretOffset_locate ts, fun n hn => isFirstAt_locate hn, caretOffset_le ts,
    caretOffset_monotone ts, ?_⟩
  intro text n
  exact locate_caretOffset_locate (fun t ht => Editor.text_ne_nil_of_mem_tokenize ht) n

/-- The offset behind `a` among empty tokens. It is that of three places inside the list, and the end of
the token with the `a` is the first of them. -/
theorem offsets_retract_places_of_empty_tokens :
    let ts : List Token := [⟨.other, []⟩, ⟨.identifier, ['a']⟩, ⟨.other, []⟩, ⟨.operator, ['=']⟩]
    1 ≤ (plainText ts).length ∧ IsFirstAt ts 1 (locate ts 1) ∧ locate ts 1 = ⟨1, 1⟩ ∧
      ∀ p ∈ [(⟨2, 0⟩ : Caret), ⟨3, 0⟩], IsInside ts p ∧ caretOffset ts p = 1 := by
  intro ts
  obtain ⟨-, hfirst, -⟩ := offsets_retract_places ts
  have hle : 1 ≤ (plainText ts).length := by decide
  refine ⟨hle, hfirst 1 hle, rfl, ?_⟩
  intro p hp
  simp only [List.mem_cons, List.not_mem_nil, or_false] at hp
  rcases hp with rfl | rfl
  · exact ⟨⟨⟨.other, []⟩, rfl, Nat.zero_le _⟩, rfl⟩
  · exact ⟨⟨⟨.operator, ['=']⟩, rfl, Nat.zero_le _⟩, rfl⟩

end PageQuery.Query
