import PageQuery.Screen.Split
import Mathlib.Algebra.Order.Ring.Rat
import Mathlib.Algebra.Order.BigOperators.Group.List
import Mathlib.Data.Rat.Floor
import Mathlib.Tactic.Linarith
import Mathlib.Tactic.Ring
/-!
What a split can be relied on for.

A turn of `pour` gives out no more than is left and raises no part beyond its limit, so a rank takes no
more than there is and leaves the others as they are (`serve_spec`). Rounding keeps boundaries in order.
Together: the parts of a split lie one behind the other inside the whole, fill it if one of them has
only a least length, and none that asks for a fixed length gets more (`split_tiles`).
-/

namespace PageQuery.Screen

/-! ## 1. One turn -/

@[simp] theorem sumOf_eq (xs : List Rat) : sumOf xs = xs.sum := rfl

theorem leastOf_le (xs : List Rat) : ∀ x, leastOf xs x ≤ x ∧ ∀ y ∈ xs, leastOf xs x ≤ y := by
  induction xs with
  | nil => simp [leastOf]
  | cons z zs ih =>
    intro x
    obtain ⟨hstart, hrest⟩ := ih (if z < x then z else x)
    have hboth : (if z < x then z else x) ≤ x ∧ (if z < x then z else x) ≤ z := by
      split
      · next hless => exact ⟨hless.le, le_rfl⟩
      · next hmore => exact ⟨le_rfl, not_lt.mp hmore⟩
    exact ⟨hstart.trans hboth.1, List.forall_mem_cons.mpr ⟨hstart.trans hboth.2, hrest⟩⟩

/-- Parts that have grown, within their limits. -/
def Grown (parts parts' : List Part) : Prop :=
  List.Forall₂ (fun p q => q.limit = p.limit ∧ p.length ≤ q.length ∧ q.length ≤ q.limit) parts parts'

/-- What parts have together. -/
def total (parts : List Part) : Rat := (parts.map Part.length).sum

@[simp] theorem total_append (ps qs : List Part) : total (ps ++ qs) = total ps + total qs := by
  simp [total]

theorem total_raised (rise : Rat) (ps : List Part) :
    total (ps.map fun p => { p with length := p.length + rise }) = total ps + rise * ps.length := by
  induction ps with
  | nil => simp [total]
  | cons p ps ih =>
    simp only [total, List.map_cons, List.sum_cons, List.length_cons, Nat.cast_add, Nat.cast_one] at ih ⊢
    rw [ih]
    ring

/-- No part has more than its limit. -/
def Within (parts : List Part) : Prop := ∀ p ∈ parts, p.length ≤ p.limit

theorem Grown.refl {parts : List Part} (h : Within parts) : Grown parts parts :=
  List.forall₂_same.mpr fun p hp => ⟨rfl, le_rfl, h p hp⟩

namespace Block

variable (b : Block) (parts : List Part)

/-- A block stands between the parts before it and those behind it. -/
theorem cut : parts = parts.take b.first ++ b.members parts ++ parts.drop (b.first + b.size) := by
  rw [members, List.append_assoc, ← List.drop_drop, List.take_append_drop, List.take_append_drop]

theorem length_members_le : (b.members parts).length ≤ b.size := by simp [members]

theorem reach_le (left : Rat) : b.reach parts left ≤ left / b.size := (leastOf_le _ _).1

theorem reach_le_room {p : Part} (hp : p ∈ b.members parts) (left : Rat) :
    b.reach parts left ≤ p.room :=
  (leastOf_le _ _).2 _ (List.mem_append_left _ (List.mem_map_of_mem hp))

/-- A block grows by what it is given, and no part beyond its limit. -/
theorem grown_raise (hwithin : Within parts) {rise : Rat} (hrise : 0 < rise)
    (hroom : ∀ p ∈ b.members parts, rise ≤ p.room) : Grown parts (b.raise rise parts) := by
  have hbefore : Grown (parts.take b.first) (parts.take b.first) :=
    .refl fun p hp => hwithin p (List.mem_of_mem_take hp)
  have hbehind : Grown (parts.drop (b.first + b.size)) (parts.drop (b.first + b.size)) :=
    .refl fun p hp => hwithin p (List.mem_of_mem_drop hp)
  have hmembers : Grown (b.members parts)
      ((b.members parts).map fun p => { p with length := p.length + rise }) := by
    refine List.forall₂_map_right_iff.mpr (List.forall₂_same.mpr fun p hp => ?_)
    have := hroom p hp
    rw [Part.room] at this
    exact ⟨rfl, by simpa using hrise.le, by simpa using by linarith⟩
  have hall : Grown (parts.take b.first ++ b.members parts ++ parts.drop (b.first + b.size))
      (b.raise rise parts) := List.rel_append (List.rel_append hbefore hmembers) hbehind
  rwa [← b.cut parts] at hall

theorem total_raise_le {rise : Rat} (hrise : 0 < rise) :
    total (b.raise rise parts) ≤ total parts + rise * b.size := by
  have hcount : ((b.members parts).length : Rat) ≤ b.size := by exact_mod_cast b.length_members_le parts
  have hparts := congrArg total (b.cut parts)
  simp only [total_append] at hparts
  simp only [raise, total_append, total_raised]
  nlinarith

end Block

/-! ## 2. All turns -/

theorem Grown.trans {ps qs rs : List Part} (h : Grown ps qs) (h' : Grown qs rs) : Grown ps rs := by
  induction h generalizing rs with
  | nil => exact h'
  | cons hpq _ ih =>
    cases h' with
    | cons hqr hrest => exact .cons ⟨by rw [hqr.1, hpq.1], hpq.2.1.trans hqr.2.1, hqr.2.2⟩ (ih hrest)

theorem Grown.within {ps qs : List Part} (h : Grown ps qs) : Within qs := by
  induction h with
  | nil => simp [Within]
  | cons hpq _ ih => exact List.forall_mem_cons.mpr ⟨hpq.2.2, ih⟩

/-- Pouring gives out no more than is left, and lets parts grow within their limits. -/
theorem pour_spec (turns : Nat) : ∀ {left : Rat} {parts : List Part}, 0 ≤ left → Within parts →
    Grown parts (pour turns left parts) ∧ total (pour turns left parts) ≤ total parts + left := by
  induction turns with
  | zero =>
    intro left parts hleft hwithin
    exact ⟨.refl hwithin, by simpa [pour] using hleft⟩
  | succ turns ih =>
    intro left parts hleft hwithin
    rw [pour]
    cases hturn : cheapest? parts with
    | none => exact ⟨.refl hwithin, by simpa using hleft⟩
    | some b =>
      dsimp only
      split
      · next hrise =>
        have hsize : (0 : Rat) < b.size := by exact_mod_cast Nat.succ_pos b.more
        have hgiven : b.reach parts left * b.size ≤ left :=
          (le_div_iff₀ hsize).mp (b.reach_le parts left)
        have hgrown := b.grown_raise parts hwithin hrise fun p hp => b.reach_le_room parts hp left
        obtain ⟨hrest, hsum⟩ := ih (sub_nonneg.mpr hgiven) hgrown.within
        exact ⟨hgrown.trans hrest, by linarith [b.total_raise_le parts hrise]⟩
      · exact ⟨.refl hwithin, by simpa using hleft⟩

/-! ## 3. All ranks -/

/-- How far a split has come before a rank is served: no part has more than it claims, and the parts of
this rank and the later ones have nothing. -/
def Served (rank whole : Nat) (claims : List Claim) (given : List Rat) : Prop :=
  List.Forall₂ (fun c n => 0 ≤ n ∧ n ≤ c.hundredths whole ∧ (rank ≤ c.rank → n = 0)) claims given

variable {rank whole : Nat} {claims : List Claim} {given : List Rat}

theorem Served.within (h : Served rank whole claims given) :
    Within (List.zipWith (Claim.part rank whole) claims given) := by
  induction h with
  | nil => simp [Within]
  | @cons c n _ _ hn _ ih =>
    refine List.forall_mem_cons.mpr ⟨?_, ih⟩
    unfold Claim.part
    split
    · exact hn.2.1
    · exact le_rfl

theorem Served.total_eq (h : Served rank whole claims given) :
    total (List.zipWith (Claim.part rank whole) claims given) = given.sum := by
  induction h with
  | nil => rfl
  | cons _ _ ih => simpa [total, Claim.part] using ih

/-- Parts that have grown from what was given are those that the next rank begins with. -/
theorem Served.next (h : Served rank whole claims given) {parts : List Part}
    (hgrown : Grown (List.zipWith (Claim.part rank whole) claims given) parts) :
    Served (rank + 1) whole claims (parts.map Part.length) := by
  induction h generalizing parts with
  | nil =>
    cases hgrown
    exact .nil
  | @cons c n _ _ hn _ ih =>
    cases hgrown with
    | @cons _ p _ _ hp hrest =>
      refine .cons ?_ (ih hrest)
      obtain ⟨hlimit, hmore, hwithin⟩ := hp
      simp only [Claim.part] at hlimit hmore
      rw [hlimit] at hwithin
      split at hwithin
      · next hserved => exact ⟨hn.1.trans hmore, hwithin, fun hlater => by omega⟩
      · have hsame : p.length = n := le_antisymm hwithin hmore
        rw [hsame]
        exact ⟨hn.1, hn.2.1, fun hlater => hn.2.2 (by omega)⟩

/-- A rank takes no more than what is left of the whole. -/
theorem serve_spec (h : Served rank whole claims given) (hsum : given.sum ≤ 100 * whole) :
    Served (rank + 1) whole claims (serve rank whole claims given) ∧
      (serve rank whole claims given).sum ≤ 100 * whole := by
  set parts := List.zipWith (Claim.part rank whole) claims given with hparts
  have htotal : total parts = given.sum := h.total_eq
  unfold serve
  rw [← hparts]
  dsimp only
  split
  · next hfits =>
    rw [sumOf_eq, sumOf_eq] at hfits
    have hfull : Grown parts (parts.map fun p => ⟨p.limit, p.limit⟩) :=
      List.forall₂_map_right_iff.mpr
        (List.forall₂_same.mpr fun p hp => ⟨rfl, h.within p hp, le_rfl⟩)
    have hlimits : (parts.map Part.limit).sum = total parts + (parts.map Part.room).sum := by
      rw [total, ← List.sum_map_add]
      simp [Part.room]
    refine ⟨by simpa [Function.comp_def] using h.next hfull, ?_⟩
    rw [hlimits]
    linarith
  · obtain ⟨hgrown, hpoured⟩ := pour_spec (turnsFor parts) (sub_nonneg.mpr hsum) h.within
    rw [sumOf_eq]
    rw [← hparts] at hgrown hpoured
    refine ⟨h.next hgrown, ?_⟩
    rw [total] at hpoured
    linarith

/-- Lengths that suit their claims: none is negative, and none exceeds a fixed length. -/
def Suits (claims : List Claim) (lengths : List Rat) : Prop :=
  List.Forall₂ (fun c n => 0 ≤ n ∧ ∀ k : Nat, c = .exactly k → n ≤ 100 * (k : Rat)) claims lengths

theorem Served.suits (h : Served rank whole claims given) : Suits claims given :=
  List.Forall₂.imp (fun c n hn => ⟨hn.1, by rintro k rfl; simpa [Claim.hundredths] using hn.2.1⟩) h

theorem suits_giveRest (h : Suits claims given) {left : Rat} (hleft : 0 ≤ left) :
    Suits claims (giveRest left claims given) := by
  induction h with
  | nil => exact .nil
  | @cons c n _ _ hn hrest ih =>
    cases c with
    | atLeast k => exact .cons ⟨add_nonneg hn.1 hleft, by simp⟩ hrest
    | exactly k => exact .cons hn ih
    | percent k => exact .cons hn ih

/-- What is left is given out if there is a part that takes it. -/
theorem sum_giveRest (h : Suits claims given) {left : Rat} (hleft : 0 ≤ left) :
    (giveRest left claims given).sum ≤ given.sum + left ∧
      ((∃ k, .atLeast k ∈ claims) → (giveRest left claims given).sum = given.sum + left) := by
  induction h with
  | nil => simpa [giveRest] using hleft
  | @cons c n cs ns _ _ ih =>
    cases c with
    | atLeast k =>
      have hsum : (n + left + ns.sum) = n + ns.sum + left := by ring
      simp [giveRest, hsum]
    | exactly k => simpa [giveRest, add_assoc] using ih
    | percent k => simpa [giveRest, add_assoc] using ih

/-- The shares suit their claims, and together they are the whole if there is a part that takes what is
left, and no more otherwise. -/
theorem shares_spec (whole : Nat) (claims : List Claim) :
    Suits claims (shares whole claims) ∧ (shares whole claims).sum ≤ 100 * whole ∧
      ((∃ k, .atLeast k ∈ claims) → (shares whole claims).sum = 100 * whole) := by
  have hstart : Served 0 whole claims (claims.map fun _ => 0) :=
    List.forall₂_map_right_iff.mpr (List.forall₂_same.mpr fun c _ => by simp)
  obtain ⟨h₁, hsum₁⟩ := serve_spec hstart (by simp)
  obtain ⟨h₂, hsum₂⟩ := serve_spec h₁ hsum₁
  obtain ⟨h₃, hsum₃⟩ := serve_spec h₂ hsum₂
  have hleft := sub_nonneg.mpr hsum₃
  obtain ⟨hmost, htaken⟩ := sum_giveRest h₃.suits hleft
  rw [add_sub_cancel] at hmost htaken
  exact ⟨suits_giveRest h₃.suits hleft, hmost, htaken⟩

/-! ## 4. Places -/

theorem rounded_mono {x y : Rat} (h : x ≤ y) : rounded x ≤ rounded y := by
  have hfloor : (x + 1 / 2).floor ≤ (y + 1 / 2).floor := Rat.floor_monotone (by linarith)
  exact Nat.div_le_div_right (Nat.add_le_add_right (Int.toNat_le_toNat hfloor) 50)

/-- Whole units stay what they are. -/
theorem rounded_add {x : Rat} (h : 0 ≤ x) (n : Nat) : rounded (x + 100 * n) = rounded x + n := by
  have hfloor : (x + 100 * n + 1 / 2).floor = (x + 1 / 2).floor + 100 * n := by
    rw [show x + 100 * n + 1 / 2 = x + 1 / 2 + ((100 * n : Int) : Rat) by push_cast; ring]
    exact Rat.floor_add_intCast
  have hpos : 0 ≤ (x + 1 / 2).floor := Rat.le_floor_iff.mpr (by push_cast; linarith)
  rw [rounded, rounded, hfloor]
  omega

/-- Places that lie one behind the other, from one boundary to another. -/
inductive Tiles : Nat → List (Nat × Nat) → Nat → Prop
  | nil (stop : Nat) : Tiles stop [] stop
  | cons {start length stop : Nat} {rest : List (Nat × Nat)} :
      Tiles (start + length) rest stop → Tiles start ((start, length) :: rest) stop

theorem tiles_placesFrom {lengths : List Rat} (h : Suits claims lengths) : ∀ {start : Rat}, 0 ≤ start →
    Tiles (rounded start) (placesFrom 0 start lengths) (rounded (start + lengths.sum)) ∧
      List.Forall₂ (fun c place => ∀ n, c = .exactly n → place.2 ≤ n) claims
        (placesFrom 0 start lengths) := by
  induction h with
  | nil => exact fun _ => ⟨by simpa [placesFrom] using .nil _, .nil⟩
  | @cons c n _ rest hn _ ih =>
    intro start hstart
    have hnext := @ih (start + n) (add_nonneg hstart hn.1)
    have hwidth : rounded start + (rounded (start + n) - rounded start) = rounded (start + n) :=
      Nat.add_sub_cancel' (rounded_mono (by linarith [hn.1]))
    simp only [placesFrom, Nat.cast_zero, mul_zero, add_zero, List.sum_cons, ← add_assoc]
    refine ⟨.cons (by rw [hwidth]; exact hnext.1), .cons ?_ hnext.2⟩
    rintro k rfl
    have hbound : rounded (start + n) ≤ rounded start + k := by
      rw [← rounded_add hstart]
      exact rounded_mono (by linarith [hn.2 k rfl])
    exact Nat.sub_le_iff_le_add'.mpr hbound

/-- **The parts of a split lie side by side.** Whatever is claimed, the places follow each other without
a gap from the start and none of them reaches beyond the whole; if there is a part with a least length
they fill it. A part with a fixed length gets no more than that. -/
theorem split_tiles (whole : Nat) (claims : List Claim) :
    ∃ stop ≤ whole, Tiles 0 (split whole claims) stop ∧
      ((∃ n, .atLeast n ∈ claims) → stop = whole) ∧
      List.Forall₂ (fun c place => ∀ n, c = .exactly n → place.2 ≤ n) claims (split whole claims) := by
  obtain ⟨hsuits, hsum, hfull⟩ := shares_spec whole claims
  have hzero : rounded 0 = 0 := by decide +kernel
  have hwhole : rounded (100 * whole) = whole := by
    simpa [hzero] using rounded_add le_rfl whole
  obtain ⟨htiles, hwidths⟩ := tiles_placesFrom hsuits le_rfl
  rw [hzero, zero_add] at htiles
  refine ⟨rounded (shares whole claims).sum, ?_, htiles, fun htakes => ?_, hwidths⟩
  · calc rounded (shares whole claims).sum ≤ rounded (100 * whole) := rounded_mono hsum
      _ = whole := hwhole
  · rw [hfull htakes, hwhole]

/-- Forty cells are too few for these claims: ten are left for the three fixed ones, which share them. -/
example : split 40 [.atLeast 30, .exactly 16, .exactly 16, .exactly 30] =
    [(0, 30), (30, 3), (33, 4), (37, 3)] := by decide +kernel

end PageQuery.Screen
