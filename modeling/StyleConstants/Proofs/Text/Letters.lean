import StyleConstants.Text.Hex

/-!
# ASCII letters

The classes of ASCII characters as ranges of code points, and what a change of case does to them.

* `isUpper_iff`, `isLower_iff`, `isDigit_iff`, `isAlphanum_iff`: the ranges.
* `toNat_toLower`, `toNat_toUpper`: the code point of the other case.
* `isAlphanum_toLower`, `isAlphanum_toUpper`: a letter stays a letter, a digit a digit.
-/

namespace StyleConstants.Text

/-! ## Classes -/

theorem isUpper_iff {c : Char} : c.isUpper = true ↔ 65 ≤ c.toNat ∧ c.toNat ≤ 90 := by
  have hclass : c.isUpper = decide (65 ≤ c.val ∧ c.val ≤ 90) := rfl
  rw [hclass, decide_eq_true_iff, UInt32.le_iff_toNat_le, UInt32.le_iff_toNat_le]
  rfl

theorem isLower_iff {c : Char} : c.isLower = true ↔ 97 ≤ c.toNat ∧ c.toNat ≤ 122 := by
  have hclass : c.isLower = (decide (97 ≤ c.val) && decide (c.val ≤ 122)) := rfl
  rw [hclass, Bool.and_eq_true, decide_eq_true_iff, decide_eq_true_iff,
    UInt32.le_iff_toNat_le, UInt32.le_iff_toNat_le]
  rfl

theorem isDigit_iff {c : Char} : c.isDigit = true ↔ 48 ≤ c.toNat ∧ c.toNat ≤ 57 := by
  have hclass : c.isDigit = (decide (48 ≤ c.val) && decide (c.val ≤ 57)) := rfl
  rw [hclass, Bool.and_eq_true, decide_eq_true_iff, decide_eq_true_iff,
    UInt32.le_iff_toNat_le, UInt32.le_iff_toNat_le]
  rfl

theorem isAlphanum_iff {c : Char} : c.isAlphanum = true ↔
    (48 ≤ c.toNat ∧ c.toNat ≤ 57) ∨ (65 ≤ c.toNat ∧ c.toNat ≤ 90) ∨
      (97 ≤ c.toNat ∧ c.toNat ≤ 122) := by
  have hclass : c.isAlphanum = (c.isUpper || c.isLower || c.isDigit) := rfl
  rw [hclass, Bool.or_eq_true, Bool.or_eq_true, isUpper_iff, isLower_iff, isDigit_iff]
  omega

theorem toNat_lt_of_isAlphanum {c : Char} (h : c.isAlphanum = true) : c.toNat < 0x80 := by
  rw [isAlphanum_iff] at h
  omega

theorem toNat_of_hex {c : Char} (h : (hexValue? c).isSome = true) :
    (48 ≤ c.toNat ∧ c.toNat ≤ 57) ∨ (97 ≤ c.toNat ∧ c.toNat ≤ 102) ∨
      (65 ≤ c.toNat ∧ c.toNat ≤ 70) := by
  unfold hexValue? at h
  split at h
  · rename_i hdigit
    exact .inl (isDigit_iff.1 hdigit)
  · split at h
    · rename_i hlower
      simp only [Char.le_def, UInt32.le_iff_toNat_le] at hlower
      exact .inr (.inl hlower)
    · split at h
      · rename_i hupper
        simp only [Char.le_def, UInt32.le_iff_toNat_le] at hupper
        exact .inr (.inr hupper)
      · cases h

theorem isAlphanum_of_hex {c : Char} (h : (hexValue? c).isSome = true) : c.isAlphanum = true := by
  have hrange := toNat_of_hex h
  rw [isAlphanum_iff]
  omega

/-! ## The other case -/

theorem toNat_toLower (c : Char) :
    c.toLower.toNat = if 65 ≤ c.toNat ∧ c.toNat ≤ 90 then c.toNat + 32 else c.toNat := by
  have hbounds : ('A' ≤ c ∧ c ≤ 'Z') ↔ (65 ≤ c.toNat ∧ c.toNat ≤ 90) := by
    simp [Char.le_def, UInt32.le_iff_toNat_le]
  unfold Char.toLower
  split
  · rename_i h
    have hrange := hbounds.1 h
    have hsum : (c.val + ('a'.val - 'A'.val)).toNat = (c.toNat + 32) % 2 ^ 32 :=
      UInt32.toNat_add _ _
    rw [if_pos hrange]
    change (c.val + ('a'.val - 'A'.val)).toNat = c.toNat + 32
    omega
  · rename_i h
    rw [if_neg (mt hbounds.2 h)]

theorem toNat_toUpper (c : Char) :
    c.toUpper.toNat = if 97 ≤ c.toNat ∧ c.toNat ≤ 122 then c.toNat - 32 else c.toNat := by
  have hbounds : ('a' ≤ c ∧ c ≤ 'z') ↔ (97 ≤ c.toNat ∧ c.toNat ≤ 122) := by
    simp [Char.le_def, UInt32.le_iff_toNat_le]
  unfold Char.toUpper
  split
  · rename_i h
    have hrange := hbounds.1 h
    have hsum : (c.val + ('A'.val - 'a'.val)).toNat = (c.toNat + (2 ^ 32 - 32)) % 2 ^ 32 :=
      UInt32.toNat_add _ _
    rw [if_pos hrange]
    change (c.val + ('A'.val - 'a'.val)).toNat = c.toNat - 32
    omega
  · rename_i h
    rw [if_neg (mt hbounds.2 h)]

theorem toNat_toUpper_lt {c : Char} (h : c.toNat < 0x80) : c.toUpper.toNat < 0x80 := by
  rw [toNat_toUpper]
  split <;> omega

theorem isAlphanum_toLower (c : Char) : c.toLower.isAlphanum = c.isAlphanum := by
  rw [Bool.eq_iff_iff, isAlphanum_iff, isAlphanum_iff, toNat_toLower]
  split <;> omega

theorem isAlphanum_toUpper (c : Char) : c.toUpper.isAlphanum = c.isAlphanum := by
  rw [Bool.eq_iff_iff, isAlphanum_iff, isAlphanum_iff, toNat_toUpper]
  split <;> omega

end StyleConstants.Text
