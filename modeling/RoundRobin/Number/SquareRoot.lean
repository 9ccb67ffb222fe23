namespace RoundRobin

/-!
# Integer square roots

`floorSqrt n` is the largest number whose square does not exceed `n`. It is
found one binary digit at a time: the root of `n / 4` doubled is short of the
root of `n` by at most one.
-/

/-- The largest number whose square is at most `n`. -/
def floorSqrt (n : Nat) : Nat :=
  if n = 0 then 0
  else
    let doubled := 2 * floorSqrt (n / 4)
    if (doubled + 1) * (doubled + 1) ≤ n then doubled + 1 else doubled

/-- The square of the root does not exceed the number, and the next square does. -/
theorem floorSqrt_bounds (n : Nat) :
    floorSqrt n * floorSqrt n ≤ n ∧
      n < (floorSqrt n + 1) * (floorSqrt n + 1) := by
  induction n using Nat.strongRecOn with
  | ind n inductionHypothesis =>
      rw [floorSqrt]
      split
      · next isZero => subst isZero; decide
      · next nonZero =>
          obtain ⟨lower, upper⟩ :=
            inductionHypothesis (n / 4) (by omega)
          generalize floorSqrt (n / 4) = root at lower upper ⊢
          have lowerDoubled : (2 * root) * (2 * root) ≤ n := by
            have expanded : (2 * root) * (2 * root) = 2 * 2 * (root * root) :=
              Nat.mul_mul_mul_comm 2 root 2 root
            omega
          have upperDoubled :
              n < (2 * root + 1 + 1) * (2 * root + 1 + 1) := by
            have expanded :
                (2 * (root + 1)) * (2 * (root + 1)) =
                  2 * 2 * ((root + 1) * (root + 1)) :=
              Nat.mul_mul_mul_comm 2 (root + 1) 2 (root + 1)
            have factored : 2 * root + 1 + 1 = 2 * (root + 1) := by omega
            rw [factored]
            omega
          dsimp only
          split
          · next fits => exact ⟨fits, upperDoubled⟩
          · next tooLarge =>
              exact ⟨lowerDoubled, Nat.lt_of_not_le tooLarge⟩

end RoundRobin
