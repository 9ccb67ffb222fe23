import Mathlib.Algebra.Group.Nat.Defs
import Mathlib.Data.Nat.Log
import RoundRobin.Number.Digits
import RoundRobin.Number.Lucas
import RoundRobin.Value

namespace RoundRobin

/-!
# Counted digits and written digits

The digits of a number are counted by dividing by ten. The count is one more than
the logarithm, so it goes up at the powers of ten and nowhere else; and it is the
length of the number's text, which is in digits throughout and whose length is
bounded by the same powers.
-/

/-- Numbers are written in digits. -/
theorem isDigit_of_mem_repr
    {n : Nat}
    (member : character ∈ n.repr.toList) :
    character.isDigit := by
  rw [Nat.toList_repr] at member
  exact Nat.isDigit_of_mem_toDigits (by decide) (by decide) member

/-- A number starts with a digit. -/
theorem exists_digit_repr (n : Nat) :
    ∃ digit digits,
      n.repr.toList = digit :: digits ∧ digit.isDigit := by
  rcases written : n.repr.toList with _ | ⟨digit, digits⟩
  · rw [Nat.toList_repr] at written
    exact (Nat.toDigits_ne_nil written).elim
  · have member : digit ∈ n.repr.toList := by
      rw [written]
      exact List.mem_cons_self
    exact ⟨digit, digits, rfl, isDigit_of_mem_repr member⟩

/-- A number has one digit more than its logarithm tells; that of zero counts as zero. -/
theorem digitCount_eq_log_add_one (n : Nat) :
    digitCount n = Nat.log 10 n + 1 := by
  induction n using Nat.strongRecOn with
  | ind n inductionHypothesis =>
      rcases Nat.lt_or_ge n 10 with small | large
      · rw [digitCount_of_lt_ten small, Nat.log_of_lt small]
      · have smaller : n / 10 < n :=
          Nat.div_lt_self (Nat.zero_lt_of_lt large) (by decide)
        rw [digitCount_of_ten_le large,
          inductionHypothesis (n / 10) smaller,
          Nat.log_of_one_lt_of_le (by decide) large]

/-- A number has no more digits than the power of ten that it stays below has zeros. -/
theorem digitCount_le_iff
    {digits n : Nat}
    (positive : 0 < digits) :
    digitCount n ≤ digits ↔ n < 10 ^ digits := by
  rw [digitCount_eq_log_add_one, Nat.succ_le_iff]
  rcases Nat.eq_zero_or_pos n with zero | nonzero
  · subst zero
    simp only [Nat.log_zero_right, positive, Nat.pow_pos, Nat.zero_lt_succ]
  · exact Nat.log_lt_iff_lt_pow (by decide) (Nat.ne_of_gt nonzero)

/-- A number has so many digits exactly if it has come to the power of ten, or one is enough. -/
theorem le_digitCount_iff
    {digits n : Nat}
    (positive : 1 ≤ digits) :
    digits ≤ digitCount n ↔ 10 ^ (digits - 1) ≤ n ∨ digits = 1 := by
  obtain ⟨fewer, rfl⟩ := Nat.exists_eq_add_of_le' positive
  rcases Nat.eq_zero_or_pos fewer with single | several
  · subst single
    simp only [Nat.zero_add, one_le_digitCount, or_true]
  · have below : digitCount n ≤ fewer ↔ n < 10 ^ fewer :=
      digitCount_le_iff several
    rw [Nat.add_sub_cancel, Nat.succ_le_iff, ← Nat.not_le, below,
      Nat.not_lt]
    exact (or_iff_left (by omega)).symm

/-- A larger number has no fewer digits. -/
theorem digitCount_le_digitCount
    {smaller larger : Nat}
    (ordered : smaller ≤ larger) :
    digitCount smaller ≤ digitCount larger := by
  rw [digitCount_eq_log_add_one, digitCount_eq_log_add_one]
  exact Nat.succ_le_succ (Nat.log_mono_right ordered)

/-- The text of a number has as many characters as are counted. -/
theorem length_repr_eq_digitCount (n : Nat) :
    n.repr.length = digitCount n := by
  have counted : n < 10 ^ digitCount n :=
    (digitCount_le_iff (one_le_digitCount n)).mp (Nat.le_refl _)
  have written : n < 10 ^ n.repr.length :=
    (Nat.length_repr_le_iff Nat.length_repr_pos).mp (Nat.le_refl _)
  apply Nat.le_antisymm
  · exact (Nat.length_repr_le_iff (one_le_digitCount n)).mpr counted
  · exact (digitCount_le_iff Nat.length_repr_pos).mpr written

/--
The digits that are counted of a number in use are the characters of its text as
a value, and one more than the floor of its decimal logarithm where it has one.
There are `digits` of them or more exactly if the number has come to the power of
ten with one zero less, or if one is asked for. So a larger number has no fewer,
and none in use has more than 39.
-/
theorem digits_counted
    {n : Nat}
    (within : n < wordBound) :
    (Value.number n).text.length = digitCount n ∧
      (digitCount n = if n = 0 then 1 else Nat.log 10 n + 1) ∧
      (∀ digits,
        1 ≤ digits →
        (digits ≤ digitCount n ↔ 10 ^ (digits - 1) ≤ n ∨ digits = 1)) ∧
      (∀ smaller ≤ n, digitCount smaller ≤ digitCount n) ∧
      digitCount n ≤ 39 := by
  refine
    ⟨length_repr_eq_digitCount n, ?_, fun _ => le_digitCount_iff,
      fun _ => digitCount_le_digitCount, ?_⟩
  · split
    · next zero =>
        subst zero
        exact digitCount_of_lt_ten (by decide)
    · exact digitCount_eq_log_add_one n
  · have power : wordBound ≤ 10 ^ 39 := by
      decide
    exact
      (digitCount_le_iff (by decide)).mpr (Nat.lt_of_lt_of_le within power)

/-- The largest number in use has all of the 39 digits. -/
theorem digits_counted_at_bound :
    digitCount (wordBound - 1) = 39 ∧
      (Value.number (wordBound - 1)).text.length = 39 := by
  obtain ⟨written, -, counted, -, most⟩ :=
    digits_counted (by decide : wordBound - 1 < wordBound)
  have least : 39 ≤ digitCount (wordBound - 1) :=
    (counted 39 (by decide)).mpr (.inl (by decide))
  have all := Nat.le_antisymm most least
  exact ⟨all, written.trans all⟩

end RoundRobin
