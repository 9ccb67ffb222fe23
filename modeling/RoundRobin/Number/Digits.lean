namespace RoundRobin

/-!
# Counting decimal digits

`digitCount n` is found by repeated division by ten, so zero has one digit and
the count goes up by one at each power of ten.
-/

/-- The number of decimal digits of `n`; zero has one. -/
def digitCount (n : Nat) : Nat :=
  if n < 10 then 1 else digitCount (n / 10) + 1

/-- A number below ten has one digit. -/
theorem digitCount_of_lt_ten
    {n : Nat}
    (small : n < 10) :
    digitCount n = 1 := by
  rw [digitCount, if_pos small]

/-- Dividing by ten drops one digit of a number of two digits or more. -/
theorem digitCount_of_ten_le
    {n : Nat}
    (large : 10 ≤ n) :
    digitCount n = digitCount (n / 10) + 1 := by
  rw [digitCount, if_neg (Nat.not_lt.mpr large)]

/-- Every number has at least one digit. -/
theorem one_le_digitCount (n : Nat) : 1 ≤ digitCount n := by
  rw [digitCount]
  split
  · exact Nat.le_refl 1
  · exact Nat.le_add_left 1 _

end RoundRobin
