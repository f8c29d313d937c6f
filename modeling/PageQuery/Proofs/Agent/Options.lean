import PageQuery.Agent.Request
import PageQuery.Proofs.Number.Exact
/-!
What is typed for an option, and the value it comes to.

The bounds of the two options are doubles as they are, so comparing in double precision compares the very
numbers: what is typed as a number comes to its floor, brought into the range (`clampInput_of_finite`), and
everything else to the default. A value of the range is left alone, so typing it in decimal gives it back
(`clampInput_naturalDigits`).
-/

namespace PageQuery

open Number Text

/-- A natural number below `2 ^ 53` is not rounded. -/
theorem roundedNat_of_lt {n : Nat} (h : n < 2 ^ 53) : roundedNat n = n := by
  obtain ⟨x, hNearest, -, hValue⟩ := Double.nearest_whole h
  have hFloor : x.floor = n := by rw [Double.floor_eq, hValue, Int.floor_natCast]
  unfold roundedNat Double.ofNat?
  rw [hNearest]
  simp [hFloor]

namespace OptionBounds

/-! ## 1. Ranges -/

/-- A value of the range. -/
def Allows (b : OptionBounds) (v : Nat) : Prop := b.min ≤ v ∧ v ≤ b.max

/-- An integer brought into the range. -/
def bring (b : OptionBounds) (z : Int) : Int := Max.max (b.min : Int) (Min.min (b.max : Int) z)

/-- The default is a value of the range, and the whole range is one of doubles. -/
structure IsSound (b : OptionBounds) : Prop where
  allows_default : b.Allows b.default
  max_lt : b.max < 2 ^ 53

theorem isSound_maxRows : maxRows.IsSound := ⟨⟨by decide, by decide⟩, by decide⟩

theorem isSound_timeoutMs : timeoutMs.IsSound := ⟨⟨by decide, by decide⟩, by decide⟩

/-- A default has no part in the range. -/
@[simp] theorem allows_withDefault (b : OptionBounds) (d v : Nat) :
    (b.withDefault d).Allows v ↔ b.Allows v := Iff.rfl

variable {b : OptionBounds} (h : b.IsSound)

include h

/-- Another default is brought into the range, which stays as it is. -/
theorem bring_withDefault (d : Nat) :
    ((b.withDefault d).default : Int) = b.bring d := by
  obtain ⟨hLow, hHigh⟩ := h.allows_default
  simp only [withDefault, bring]
  split
  · omega
  · split <;> omega

theorem bring_mem (z : Int) : (b.min : Int) ≤ b.bring z ∧ b.bring z ≤ b.max := by
  obtain ⟨hLow, hHigh⟩ := h.allows_default
  unfold bring
  omega

theorem IsSound.withDefault (d : Nat) : (b.withDefault d).IsSound := by
  obtain ⟨hLow, hHigh⟩ := bring_mem h d
  rw [← bring_withDefault h d] at hLow hHigh
  exact ⟨⟨Int.ofNat_le.mp hLow, Int.ofNat_le.mp hHigh⟩, h.max_lt⟩

/-! ## 2. What is typed -/

theorem clampWhole_eq (floored : Int) : (b.clampWhole floored : Int) = b.bring floored := by
  obtain ⟨hLow, hHigh⟩ := h.allows_default
  have hMax := h.max_lt
  unfold clampWhole bring
  rw [roundedNat_of_lt (by omega), roundedNat_of_lt hMax]
  split
  · omega
  · split <;> omega

/-- What is typed as a number comes to the number's floor, brought into the range. -/
theorem clampInput_of_finite {input : String} {x : Double}
    (hRead : readNumeral (trimChars input.toList) = some (.finite x)) :
    (b.clampInput input : Int) = b.bring ⌊x.toRat⌋ := by
  unfold clampInput
  rw [hRead]
  simp only [clampValue]
  rw [clampWhole_eq h, Double.floor_eq]

omit h in
/-- What is typed and is no finite number comes to the default. -/
theorem clampInput_of_other {input : String}
    (hRead : ∀ x, readNumeral (trimChars input.toList) ≠ some (.finite x)) :
    b.clampInput input = b.default := by
  unfold clampInput
  split
  · next x hFinite => exact absurd hFinite (hRead x)
  · rfl

/-- Whatever is typed comes to a value of the range. -/
theorem allows_clampInput (input : String) : b.Allows (b.clampInput input) := by
  by_cases hRead : ∃ x, readNumeral (trimChars input.toList) = some (.finite x)
  · obtain ⟨x, hRead⟩ := hRead
    have hMem := bring_mem h ⌊x.toRat⌋
    rw [← clampInput_of_finite h hRead] at hMem
    exact ⟨Int.ofNat_le.mp hMem.1, Int.ofNat_le.mp hMem.2⟩
  · rw [clampInput_of_other fun x hFinite => hRead ⟨x, hFinite⟩]
    exact h.allows_default

/-- A value of the range, typed in decimal, comes to itself. -/
theorem clampInput_naturalDigits {v : Nat} (hAllowed : b.Allows v) :
    b.clampInput (String.ofList (naturalDigits v)) = v := by
  obtain ⟨x, hRead, hValue⟩ := readNumeral_naturalDigits (hAllowed.2.trans_lt h.max_lt)
  have hTyped : readNumeral (trimChars (String.ofList (naturalDigits v)).toList) = some (.finite x) := by
    rw [String.toList_ofList, trimChars_naturalDigits, hRead]
  have hClamped := clampInput_of_finite h hTyped
  rw [hValue, Int.floor_natCast] at hClamped
  obtain ⟨hLow, hHigh⟩ := hAllowed
  unfold bring at hClamped
  omega

end OptionBounds

end PageQuery
