import PageQuery.Proofs.Query.Buffer
import PageQuery.Proofs.Query.LookAhead
/-!
Edits are local: the tokens that end before an edit are left alone.

`endingBefore` lists the tokens that end before an offset, with their places.
`tokenize_of_take_eq` is about one token that two texts share and `endingBefore_of_take_eq` about all
of them; `Edit.start` is where an operation on an editor begins to change the text. The main statement
is `edit_spares_tokens_before`. It also says that the bound is sharp: a token that ends just where two
texts part can be in one of them and not in the other.
-/

namespace PageQuery.Query

open Text

/-! ## 1. Ends -/

/-- The tokens of a list with the offsets at which they end, where the first starts at `start`. -/
def withEnds (start : Nat) : List Token → List (Token × Nat)
  | [] => []
  | t :: ts => (t, start + t.text.length) :: withEnds (start + t.text.length) ts

/-- The tokens that end before an offset, and where they end. -/
def endingBefore (n : Nat) (ts : List Token) : List (Token × Nat) :=
  (withEnds 0 ts).filter (·.2 < n)

theorem le_of_mem_withEnds {start : Nat} {ts : List Token} {x : Token × Nat}
    (h : x ∈ withEnds start ts) : start ≤ x.2 := by
  induction ts generalizing start with
  | nil => simp [withEnds] at h
  | cons t ts ih =>
    rcases List.mem_cons.mp h with rfl | h
    · exact Nat.le_add_right _ _
    · exact (Nat.le_add_right _ _).trans (ih h)

/-- Where the first token does not end before an offset, none does. -/
theorem filter_withEnds_of_le {start n : Nat} {ts : List Token}
    (h : ∀ t ∈ ts.head?, n ≤ start + t.text.length) :
    (withEnds start ts).filter (·.2 < n) = [] := by
  cases ts with
  | nil => rfl
  | cons t ts =>
    have ht : n ≤ start + t.text.length := h t rfl
    rw [List.filter_eq_nil_iff]
    intro x hx
    rcases List.mem_cons.mp hx with rfl | hx
    · simpa using ht
    · have hle := le_of_mem_withEnds hx
      simp only [decide_eq_true_eq]
      omega

/-! ## 2. Two texts with the same beginning -/

section Shared

variable {cs ds : List Char} {n : Nat}

/-- What two texts share up to an offset behind a first token, they read alike: the token is in both,
and what is left is shared as far. -/
theorem tokenize_of_take_eq {t : Token} {ts : List Token} (hcs : tokenize cs = t :: ts)
    (hshared : cs.take n = ds.take n) (hlt : t.text.length < n) :
    ∃ left, tokenize ds = t :: tokenize left ∧
      (plainText ts).take (n - t.text.length) = left.take (n - t.text.length) := by
  have htext : cs = t.text ++ plainText ts := by
    rw [← plainText_cons, ← hcs, plainText_tokenize]
  have hleft : cs.drop t.text.length = plainText ts := by rw [htext, List.drop_left]
  have hfront : ds.take t.text.length = t.text := by
    have hcut := congrArg (List.take t.text.length) hshared
    rw [List.take_take, List.take_take, Nat.min_eq_left (Nat.le_of_lt hlt)] at hcut
    rw [← hcut, htext, List.take_left]
  have hback : (plainText ts).take (n - t.text.length)
      = (ds.drop t.text.length).take (n - t.text.length) := by
    rw [← hleft, ← List.drop_take, ← List.drop_take, hshared]
  have hds : t.text ++ ds.drop t.text.length = ds := by
    have := List.take_append_drop t.text.length ds
    rwa [hfront] at this
  -- the shared part goes on behind the token, so both texts go on with the same character
  have hstart : StartsLike (ds.drop t.text.length) (plainText ts) := by
    have hpos : n - t.text.length ≠ 0 := by omega
    have hhead := congrArg List.head? hback
    rw [List.head?_take, List.head?_take, if_neg hpos, if_neg hpos] at hhead
    intro c hc
    rw [hhead]
    exact hc
  refine ⟨ds.drop t.text.length, ?_, hback⟩
  have hread : tokenize (plainText [t] ++ ds.drop t.text.length)
      = [t] ++ tokenize (ds.drop t.text.length) := tokenize_transplant hcs hstart
  rwa [plainText_cons, plainText_nil, List.append_nil, hds] at hread

/-- Where no token ends in the shared part of the one text, none does in the other. -/
theorem le_head_of_take_eq (hshared : cs.take n = ds.take n)
    (h : ∀ t ∈ (tokenize cs).head?, n ≤ t.text.length) :
    ∀ u ∈ (tokenize ds).head?, n ≤ u.text.length := by
  intro u hu
  by_contra hlt
  obtain ⟨us, hds⟩ := List.head?_eq_some_iff.mp hu
  obtain ⟨left, hcs, -⟩ := tokenize_of_take_eq hds hshared.symm (by omega)
  have : n ≤ u.text.length := h u (by rw [hcs]; rfl)
  exact hlt this

theorem filter_withEnds_of_take_eq {ts : List Token} (hcs : tokenize cs = ts)
    (hshared : cs.take n = ds.take n) (start : Nat) :
    (withEnds start ts).filter (·.2 < start + n)
      = (withEnds start (tokenize ds)).filter (·.2 < start + n) := by
  induction ts generalizing cs ds n start with
  | nil =>
    have hnone : ∀ u ∈ (tokenize ds).head?, n ≤ u.text.length :=
      le_head_of_take_eq hshared (by simp [hcs])
    rw [filter_withEnds_of_le fun u hu => Nat.add_le_add_left (hnone u hu) start]
    rfl
  | cons t ts ih =>
    by_cases hlt : t.text.length < n
    · obtain ⟨left, hds, hback⟩ := tokenize_of_take_eq hcs hshared hlt
      have hsplit : tokenize cs = [t] ++ ts := hcs
      have hts : tokenize (plainText ts) = ts := tokenize_plainText_right hsplit
      have htail := ih hts hback (start + t.text.length)
      have hsum : start + t.text.length + (n - t.text.length) = start + n := by omega
      rw [hsum] at htail
      rw [hds, withEnds, withEnds, List.filter_cons, List.filter_cons, htail]
    · have hfirst : ∀ u ∈ (tokenize cs).head?, n ≤ u.text.length := by
        intro u hu
        rw [hcs] at hu
        obtain rfl : t = u := Option.some.inj hu
        omega
      have hother := le_head_of_take_eq hshared hfirst
      rw [hcs] at hfirst
      rw [filter_withEnds_of_le fun u hu => Nat.add_le_add_left (hfirst u hu) start,
        filter_withEnds_of_le fun u hu => Nat.add_le_add_left (hother u hu) start]

theorem endingBefore_of_take_eq (hshared : cs.take n = ds.take n) :
    endingBefore n (tokenize cs) = endingBefore n (tokenize ds) := by
  have h := filter_withEnds_of_take_eq rfl hshared 0
  rwa [Nat.zero_add] at h

end Shared

/-! ## 3. Operators at the bound -/

/-- A text of plus signs is one token. -/
theorem tokenize_plus_signs (n : Nat) :
    tokenize (List.replicate (n + 1) '+') = [⟨.operator, List.replicate (n + 1) '+'⟩] := by
  have hrun : run isOperatorChar (List.replicate n '+') = (List.replicate n '+', []) := by
    have hmarks : IsMaximalRun (· ∈ operatorMarks) ('+' :: List.replicate n '+') [] := by
      constructor
      · intro c hc
        rw [← List.replicate_succ] at hc
        rw [List.eq_of_mem_replicate hc]
        decide
      · simp
    have hcut := run_eq_of_isMaximalRun isOperatorChar_iff hmarks
    rwa [List.append_nil] at hcut
  have hfirst : firstToken '+' (List.replicate n '+')
      = (⟨.operator, '+' :: List.replicate n '+'⟩, []) := by
    have hblank : isBlank '+' = false := by decide
    simp [firstToken, hrun, hblank, isPunctuation, isOperatorChar]
  rw [List.replicate_succ, tokenize_cons, hfirst, tokenize_nil]

/-- A row of plus signs is a token that ends where the row does, and one more sign makes it another. -/
theorem endingBefore_plus_signs_ne (n : Nat) :
    endingBefore (n + 2) (tokenize (List.replicate (n + 1) '+'))
      ≠ endingBefore (n + 2) (tokenize (List.replicate (n + 2) '+')) := by
  rw [tokenize_plus_signs, tokenize_plus_signs]
  simp [endingBefore, withEnds]

/-! ## 4. Editors -/

/-- The offset from which on an operation can change the text of an editor. A move changes nothing, so
there it lies behind the end. -/
def Edit.start (e : Editor) : Edit → Nat
  | .withText _ | .setText _ => 0
  | .insert _ | .insertTab | .paste _ | .deleteForward => e.offset
  | .backspace => e.offset - 1
  | .setCaret _ | .moveLeft | .moveRight | .moveLineStart | .moveLineEnd | .moveVertical _ =>
    e.text.length + 1

namespace Editor

theorem take_text_render (e : Editor) {n : Nat} (hn : n ≤ e.text.length) (after : List Char)
    (caret : Nat) : (render (e.text.take n ++ after) caret).text.take n = e.text.take n := by
  rw [text_render]
  exact List.take_left' (List.length_take_of_le hn)

theorem take_text_insert (e : Editor) (added : List Char) :
    (e.insert added).text.take e.offset = e.text.take e.offset := by
  rw [insert, List.append_assoc]
  exact e.take_text_render e.offset_le _ _

/-- No operation changes the text before the offset where it starts. -/
theorem take_text_step (e : Editor) (edit : Edit) :
    (e.step edit).text.take (edit.start e) = e.text.take (edit.start e) := by
  have hle := e.offset_le
  cases edit with
  | withText text | setText text => rfl
  | insert added => exact e.take_text_insert added
  | insertTab => exact e.take_text_insert tabText
  | paste clip =>
    obtain ⟨plain, rich⟩ := clip
    rcases plain with _ | _ | ⟨c, cs⟩
    · rfl
    · rfl
    · exact e.take_text_insert (c :: cs)
  | backspace =>
    rw [step, backspace]
    split
    · rfl
    · exact e.take_text_render ((Nat.sub_le _ 1).trans hle) _ _
  | deleteForward =>
    rw [step, deleteForward]
    split
    · rfl
    · exact e.take_text_render hle _ _
  | setCaret _ | moveLeft | moveRight | moveLineStart | moveLineEnd | moveVertical _ =>
    rw [text_step_of_isMove e rfl]

theorem IsCoherent.endingBefore_step {e : Editor} (h : IsCoherent e) (edit : Edit) :
    endingBefore (edit.start e) (e.step edit).tokens = endingBefore (edit.start e) e.tokens := by
  rw [(h.step edit).tokens_eq, h.tokens_eq]
  exact endingBefore_of_take_eq (e.take_text_step edit)

end Editor

/-- **An edit spares the tokens that end before it.** Two texts that share their first `n` characters
have the same tokens that end before `n`, of the same kinds and at the same places, so no operation on
an editor touches the tokens that end before its start. A token that ends at `n` itself may differ,
whatever `n` is: the tokenizer does look at the one character behind it. -/
theorem edit_spares_tokens_before :
    (∀ (cs ds : List Char) (n : Nat), cs.take n = ds.take n →
      endingBefore n (tokenize cs) = endingBefore n (tokenize ds)) ∧
    (∀ n, 0 < n → ∃ cs ds : List Char, cs.take n = ds.take n ∧
      endingBefore (n + 1) (tokenize cs) ≠ endingBefore (n + 1) (tokenize ds)) ∧
    ∀ (edits : List Edit) (edit : Edit),
      endingBefore (edit.start (Editor.empty.run edits)) ((Editor.empty.run edits).step edit).tokens
        = endingBefore (edit.start (Editor.empty.run edits)) (Editor.empty.run edits).tokens := by
  refine ⟨fun cs ds n hshared => endingBefore_of_take_eq hshared, ?_, ?_⟩
  · intro n hn
    obtain ⟨m, rfl⟩ : ∃ m, n = m + 1 := ⟨n - 1, by omega⟩
    refine ⟨List.replicate (m + 1) '+', List.replicate (m + 2) '+', ?_,
      endingBefore_plus_signs_ne m⟩
    rw [List.take_replicate, List.take_replicate]
    congr 1
    omega
  · intro edits edit
    exact (Editor.isCoherent_empty.run edits).endingBefore_step edit

/-- A quote typed into a string splits the string, and the four tokens before it stay. -/
theorem quote_spares_tokens_before :
    "7 = 'ab'".toList.take 6 = "7 = 'a'b'".toList.take 6 ∧
      endingBefore 6 (tokenize "7 = 'ab'".toList)
        = [(⟨.number, ['7']⟩, 1), (⟨.whitespace, [' ']⟩, 2), (⟨.operator, ['=']⟩, 3),
          (⟨.whitespace, [' ']⟩, 4)] ∧
      endingBefore 6 (tokenize "7 = 'ab'".toList)
        = endingBefore 6 (tokenize "7 = 'a'b'".toList) := by
  have hshared : "7 = 'ab'".toList.take 6 = "7 = 'a'b'".toList.take 6 := by decide
  refine ⟨hshared, ?_, edit_spares_tokens_before.1 _ _ 6 hshared⟩
  simp [endingBefore, withEnds, tokenize_cons, firstToken, run, throughQuote, isBlank,
    isPunctuation, isOperatorChar, isDecimalDigit, isNumberChar]

end PageQuery.Query
