import PageQuery.Proofs.Calendar.Dates
import PageQuery.Proofs.Number.Exact
/-!
Times written in fixed width.

Numbers that are padded to one width are ordered as texts as they are as numbers (`padded_lt_iff`), and
this goes on when more text follows (`padded_append_lt_iff`). So a stamp, field by field, has the order of
its time where no minus stands in front (`stamp_lt_iff`), and with or without one it tells the time
(`stamp_inj`).
-/

namespace PageQuery.Calendar

open Number

/-! ## 1. Texts of one length -/

/-- Texts that begin with parts of one length are ordered by these, then by what follows. -/
theorem append_lt_append_iff : ∀ {a b : List Char} (s t : List Char), a.length = b.length →
    (a ++ s < b ++ t ↔ a < b ∨ a = b ∧ s < t)
  | [], [], s, t, _ => by simp
  | c :: a, d :: b, s, t, h => by
      have hrest : a.length = b.length := by simpa using h
      rw [List.cons_append, List.cons_append, List.cons_lt_cons_iff, List.cons_lt_cons_iff,
        append_lt_append_iff s t hrest, List.cons.injEq]
      tauto

theorem append_eq_append_iff {a b : List Char} (s t : List Char) (h : a.length = b.length) :
    a ++ s = b ++ t ↔ a = b ∧ s = t := by
  constructor
  · intro heq
    exact List.append_inj heq h
  · rintro ⟨rfl, rfl⟩
    rfl

/-! ## 2. Numbers of one width -/

theorem padded_eq (width n : Nat) : padded width n =
    List.replicate (width - (naturalDigits n).length) '0' ++ naturalDigits n := rfl

/-- The last digit of a padded number stands behind the others, padded. -/
theorem padded_succ {width : Nat} (hwidth : 0 < width) (n : Nat) :
    padded (width + 1) n = padded width (n / 10) ++ [(n % 10).digitChar] := by
  rw [padded_eq, padded_eq, naturalDigits, naturalDigits]
  by_cases h : n < 10
  · obtain ⟨w, rfl⟩ : ∃ w, width = w + 1 := ⟨width - 1, by omega⟩
    have hdiv : n / 10 = 0 := by omega
    have hmod : n % 10 = n := by omega
    rw [hdiv, hmod, Nat.toDigits_of_lt_base h, Nat.toDigits_zero]
    simp [List.replicate_succ']
  · rw [Nat.toDigits_of_base_le (by omega) (by omega), List.length_append, List.length_singleton,
      Nat.add_sub_add_right, List.append_assoc]

theorem length_padded_of_lt {width n : Nat} (hwidth : 0 < width) (h : n < 10 ^ width) :
    (padded width n).length = width := by
  have hlength : (naturalDigits n).length ≤ width :=
    (Nat.length_toDigits_le_iff (by omega) hwidth).mpr h
  rw [padded_eq, List.length_append, List.length_replicate]
  omega

theorem digitChar_lt : ∀ a < 10, ∀ b < 10, a < b → a.digitChar < b.digitChar := by decide

theorem padded_lt_padded {width : Nat} (hwidth : 0 < width) {a b : Nat} (h : a < b)
    (hb : b < 10 ^ width) : padded width a < padded width b := by
  induction width, hwidth using Nat.le_induction generalizing a b with
  | base =>
    have hdigit (n : Nat) (hn : n < 10) : padded 1 n = [n.digitChar] := by
      rw [padded_eq, naturalDigits, Nat.toDigits_of_lt_base hn]
      rfl
    rw [hdigit a (by omega), hdigit b (by omega), List.cons_lt_cons_iff]
    exact Or.inl (digitChar_lt a (by omega) b (by omega) h)
  | succ width hwidth ih =>
    have hfront : b / 10 < 10 ^ width := by
      rw [Nat.pow_succ] at hb
      omega
    have hlength : (padded width (a / 10)).length = (padded width (b / 10)).length := by
      rw [length_padded_of_lt hwidth hfront, length_padded_of_lt hwidth (by omega)]
    rw [padded_succ hwidth, padded_succ hwidth, append_lt_append_iff _ _ hlength]
    rcases Nat.lt_or_ge (a / 10) (b / 10) with hless | hmore
    · exact Or.inl (ih hless hfront)
    · have hsame : a / 10 = b / 10 := by omega
      refine Or.inr ⟨by rw [hsame], ?_⟩
      rw [List.cons_lt_cons_iff]
      exact Or.inl (digitChar_lt _ (by omega) _ (by omega) (by omega))

section

variable {width a b : Nat} (hwidth : 0 < width) (ha : a < 10 ^ width) (hb : b < 10 ^ width)
include hwidth ha hb

theorem padded_lt_iff : padded width a < padded width b ↔ a < b := by
  constructor
  · intro h
    rcases Nat.lt_trichotomy a b with hless | rfl | hmore
    · exact hless
    · exact absurd h (List.lt_irrefl _)
    · exact absurd (padded_lt_padded hwidth hmore ha) (List.lt_asymm h)
  · intro h
    exact padded_lt_padded hwidth h hb

theorem padded_inj : padded width a = padded width b ↔ a = b := by
  constructor
  · intro h
    rcases Nat.lt_trichotomy a b with hless | rfl | hmore
    · exact absurd (h ▸ padded_lt_padded hwidth hless hb) (List.lt_irrefl _)
    · rfl
    · exact absurd (h ▸ padded_lt_padded hwidth hmore ha) (List.lt_irrefl _)
  · rintro rfl
    rfl

theorem padded_append_lt_iff (s t : List Char) :
    padded width a ++ s < padded width b ++ t ↔ a < b ∨ a = b ∧ s < t := by
  have hlength : (padded width a).length = (padded width b).length := by
    rw [length_padded_of_lt hwidth ha, length_padded_of_lt hwidth hb]
  rw [append_lt_append_iff s t hlength, padded_lt_iff hwidth ha hb, padded_inj hwidth ha hb]

theorem padded_append_inj (s t : List Char) :
    padded width a ++ s = padded width b ++ t ↔ a = b ∧ s = t := by
  have hlength : (padded width a).length = (padded width b).length := by
    rw [length_padded_of_lt hwidth ha, length_padded_of_lt hwidth hb]
  rw [append_eq_append_iff s t hlength, padded_inj hwidth ha hb]

end

/-! ## 3. Stamps -/

/-- Each field of a time has a number of its width. -/
structure Time.FitsStamp (t : Time) : Prop where
  year : t.date.year.natAbs < 10 ^ 4
  month : t.date.month < 10 ^ 2
  day : t.date.day < 10 ^ 2
  hour : t.hour < 10 ^ 2
  minute : t.minute < 10 ^ 2
  second : t.second < 10 ^ 2

theorem daysIn_le (year : Int) (month : Nat) : daysIn year month ≤ 31 := by
  unfold daysIn
  split_ifs <;> omega

/-- A time that is shown for a second fits if its year does. -/
theorem fitsStamp_time {unix offset : Int} (h : inRange (time unix offset) = true) :
    (time unix offset).FitsStamp := by
  have hyear : -9999 ≤ (time unix offset).date.year ∧ (time unix offset).date.year ≤ 9999 := by
    simpa [inRange] using h
  obtain ⟨-, hmonth, -, hday⟩ := civil_bounds ((unix + offset) / 86400)
  have hlast := hday.trans (daysIn_le _ _)
  constructor
  · omega
  · exact hmonth.trans_lt (by decide)
  · exact hlast.trans_lt (by decide)
  · show ((unix + offset) % 86400).toNat / 3600 < 10 ^ 2
    omega
  · show ((unix + offset) % 86400).toNat / 60 % 60 < 10 ^ 2
    omega
  · show ((unix + offset) % 86400).toNat % 60 < 10 ^ 2
    omega

/-- Without a minus in front, stamps are ordered as their times. -/
theorem stamp_lt_iff {t t' : Time} (ht : t.FitsStamp) (ht' : t'.FitsStamp)
    (hyear : 0 ≤ t.date.year) (hyear' : 0 ≤ t'.date.year) :
    stamp t < stamp t' ↔ t.rank < t'.rank := by
  have hplus : ¬ t.date.year < 0 := by omega
  have hplus' : ¬ t'.date.year < 0 := by omega
  simp only [stamp, hplus, hplus', if_false, List.nil_append, List.append_assoc]
  rw [padded_append_lt_iff (by omega) ht.year ht'.year,
    padded_append_lt_iff (by omega) ht.month ht'.month,
    padded_append_lt_iff (by omega) ht.day ht'.day, List.cons_lt_cons_iff,
    padded_append_lt_iff (by omega) ht.hour ht'.hour,
    padded_append_lt_iff (by omega) ht.minute ht'.minute,
    padded_lt_iff (by omega) ht.second ht'.second]
  have hdates : t.date.rank = t'.date.rank ↔
      t.date.year = t'.date.year ∧ t.date.month = t'.date.month ∧ t.date.day = t'.date.day := by
    simp [Date.rank]
  have hyears : t.date.year.natAbs < t'.date.year.natAbs ↔ t.date.year < t'.date.year := by omega
  have hsame : t.date.year.natAbs = t'.date.year.natAbs ↔ t.date.year = t'.date.year := by omega
  rw [Time.rank, Time.rank, Prod.Lex.toLex_lt_toLex, hdates, hyears, hsame]
  simp only [Date.rank, Prod.Lex.toLex_lt_toLex, Char.lt_irrefl, false_or, true_and, and_or_left,
    or_assoc, and_assoc]

theorem length_stamp {t : Time} (ht : t.FitsStamp) :
    (stamp t).length = if t.date.year < 0 then 16 else 15 := by
  simp only [stamp, List.length_append, List.length_cons, length_padded_of_lt (by omega) ht.year,
    length_padded_of_lt (by omega) ht.month, length_padded_of_lt (by omega) ht.day,
    length_padded_of_lt (by omega) ht.hour, length_padded_of_lt (by omega) ht.minute,
    length_padded_of_lt (by omega) ht.second]
  split <;> simp

/-- A stamp tells the time. The length tells whether a minus stands in front. -/
theorem stamp_inj {t t' : Time} (ht : t.FitsStamp) (ht' : t'.FitsStamp) :
    stamp t = stamp t' ↔ t = t' := by
  constructor
  · intro h
    have hlength := congrArg List.length h
    rw [length_stamp ht, length_stamp ht'] at hlength
    have hsign : t.date.year < 0 ↔ t'.date.year < 0 := by
      split at hlength <;> split at hlength <;> omega
    simp only [stamp, hsign, List.append_assoc, List.append_cancel_left_eq] at h
    rw [padded_append_inj (by omega) ht.year ht'.year,
      padded_append_inj (by omega) ht.month ht'.month,
      padded_append_inj (by omega) ht.day ht'.day, List.cons.injEq,
      padded_append_inj (by omega) ht.hour ht'.hour,
      padded_append_inj (by omega) ht.minute ht'.minute,
      padded_inj (by omega) ht.second ht'.second] at h
    obtain ⟨hyear, hmonth, hday, -, hhour, hminute, hsecond⟩ := h
    obtain ⟨⟨year, month, day⟩, hour, minute, second⟩ := t
    obtain ⟨⟨year', month', day'⟩, hour', minute', second'⟩ := t'
    obtain rfl : year = year' := by
      simp only at hyear hsign
      omega
    subst hmonth hday hhour hminute hsecond
    rfl
  · rintro rfl
    rfl

end PageQuery.Calendar
