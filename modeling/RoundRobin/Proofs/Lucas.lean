import Mathlib.Data.Nat.Digits.Lemmas
import Mathlib.Data.Nat.Find
import RoundRobin.Proofs.Digits

namespace RoundRobin

/-!
# The terms of the Lucas sequence

A cursor shows the terms of the Lucas sequence as far as they lie below the
bound. From the second on no term is smaller than the one before, so once a term
has reached the bound no later one is shown, and no term before it is skipped.
For every number of digits that may be searched for, the first term that is long
enough is below the bound.
-/

/-- The digits of a positive number are as many as are counted. -/
theorem length_digits_eq_digitCount
    {n : Nat}
    (positive : 0 < n) :
    (Nat.digits 10 n).length = digitCount n := by
  rw [Nat.length_digits 10 n (by decide) (Nat.ne_of_gt positive),
    digitCount_eq_log_add_one]

namespace Lucas

/-- The Lucas sequence over the natural numbers. -/
def term : Nat → Nat
  | 0 => 2
  | 1 => 1
  | index + 2 => term index + term (index + 1)

theorem term_pos (index : Nat) : 0 < term index := by
  induction index using term.induct with
  | case1 => decide
  | case2 => decide
  | case3 index before _ =>
      exact Nat.add_pos_left before _

/-- From the second on no term is smaller than the one before. -/
theorem term_le_term
    {earlier later : Nat}
    (second : 1 ≤ earlier)
    (ordered : earlier ≤ later) :
    term earlier ≤ term later := by
  induction later, ordered using Nat.le_induction with
  | base => exact Nat.le_refl _
  | succ later ordered inductionHypothesis =>
      obtain ⟨index, rfl⟩ :=
        Nat.exists_eq_add_of_le' (Nat.le_trans second ordered)
      exact
        Nat.le_trans inductionHypothesis (Nat.le_add_left _ (term index))

/-- The terms grow beyond every number. -/
theorem le_term (index : Nat) : index ≤ term index := by
  induction index using term.induct with
  | case1 => decide
  | case2 => decide
  | case3 index _ next =>
      have positive := term_pos index
      simp only [term]
      omega

/-- What comes after a term that has reached the bound has reached it too. -/
theorem wordBound_le_term
    {earlier later : Nat}
    (reached : wordBound ≤ term earlier)
    (ordered : earlier ≤ later) :
    wordBound ≤ term later := by
  have second : 1 ≤ earlier := by
    by_contra first
    obtain rfl : earlier = 0 := by omega
    exact absurd reached (by decide)
  exact Nat.le_trans reached (term_le_term second ordered)

/-- The terms below the bound are the first 185. -/
theorem term_lt_wordBound_iff (index : Nat) :
    term index < wordBound ↔ index < 185 := by
  constructor
  · intro below
    by_contra beyond
    have first : wordBound ≤ term 185 := by
      decide
    have reached := wordBound_le_term first (Nat.le_of_not_lt beyond)
    omega
  · intro before
    by_contra reached
    have last : term 184 < wordBound := by
      decide
    have beyond :=
      wordBound_le_term (Nat.le_of_not_lt reached)
        (Nat.le_of_lt_succ before)
    omega

/-- A term as a cursor shows it: not at all from the bound on. -/
def shown? (index : Nat) : Option Nat :=
  if term index < wordBound then some (term index) else none

/-- The cursor that has come to a term. -/
def cursor (index : Nat) : Lucas where
  current := shown? index
  following := shown? (index + 1)

theorem shown?_eq_some
    {index : Nat}
    (below : term index < wordBound) :
    shown? index = some (term index) :=
  if_pos below

theorem shown?_eq_none
    {index : Nat}
    (reached : wordBound ≤ term index) :
    shown? index = none :=
  if_neg (Nat.not_lt.mpr reached)

/-- The sum of two neighbours is shown exactly if it is below the bound. -/
theorem bind_checkedAdd?
    (index : Nat) :
    (shown? (index + 1)).bind (checkedAdd? (term index)) =
      shown? (index + 2) := by
  rcases Nat.lt_or_ge (term (index + 1)) wordBound with below | reached
  · rw [shown?_eq_some below]
    rfl
  · rw [shown?_eq_none reached,
      shown?_eq_none (wordBound_le_term reached (Nat.le_succ _))]
    rfl

/-- A cursor gives the term it has come to and goes on to the next. -/
theorem next_cursor (index : Nat) :
    (cursor index).next = (cursor (index + 1), shown? index) := by
  rcases Nat.lt_or_ge (term index) wordBound with below | reached
  · have present : (cursor index).current = some (term index) :=
      shown?_eq_some below
    have following :
        (cursor index).following.bind (checkedAdd? (term index)) =
          shown? (index + 2) :=
      bind_checkedAdd? index
    simp only [next, present, following, shown?_eq_some below]
    rfl
  · have absent (later : Nat) (ordered : index ≤ later) :
        shown? later = none :=
      shown?_eq_none (wordBound_le_term reached ordered)
    have afterNext : shown? (index + 1 + 1) = none :=
      absent _ (Nat.le_add_right index 2)
    simp only [next, cursor, absent index (Nat.le_refl _),
      absent (index + 1) (Nat.le_succ _), afterNext]

/-- There are terms of every number of digits or more. -/
theorem exists_le_length_digits (digits : Nat) :
    ∃ index, digits ≤ (Nat.digits 10 (term index)).length := by
  refine ⟨10 ^ digits, Nat.le_of_lt ?_⟩
  exact
    (Nat.lt_digits_length_iff (by decide) _).mpr (le_term (10 ^ digits))

/-- The least index whose term has at least so many decimal digits. -/
def firstOfLength (digits : Nat) : Nat :=
  Nat.find (exists_le_length_digits digits)

/-- The search test is passed at the first term that is long enough. -/
theorem le_digitCount_firstOfLength (digits : Nat) :
    digits ≤ digitCount (term (firstOfLength digits)) := by
  rw [← length_digits_eq_digitCount (term_pos _)]
  exact Nat.find_spec (exists_le_length_digits digits)

/-- The search test is failed at every term before. -/
theorem digitCount_lt_of_lt_firstOfLength
    {digits index : Nat}
    (before : index < firstOfLength digits) :
    digitCount (term index) < digits := by
  rw [← length_digits_eq_digitCount (term_pos _)]
  exact
    Nat.lt_of_not_le
      (Nat.find_min (exists_le_length_digits digits) before)

/-- The first term of a length is where the sequence passes a power of ten. -/
theorem firstOfLength_eq
    {exponent index : Nat}
    (start : 2 < 10 ^ exponent)
    (short : term index < 10 ^ exponent)
    (long : 10 ^ exponent ≤ term (index + 1)) :
    firstOfLength (exponent + 1) = index + 1 := by
  have enough (other : Nat) :
      exponent + 1 ≤ (Nat.digits 10 (term other)).length ↔
        10 ^ exponent ≤ term other :=
    Nat.lt_digits_length_iff (by decide) (term other)
  simp only [firstOfLength, Nat.find_eq_iff, enough, Nat.not_le]
  refine ⟨long, ?_⟩
  intro earlier before
  rcases Nat.eq_zero_or_pos earlier with first | second
  · subst first
    exact start
  · exact
      Nat.lt_of_le_of_lt
        (term_le_term second (Nat.le_of_lt_succ before)) short

/-- For every length that is not too long there is a term below the bound. -/
theorem term_firstOfLength_lt
    {digits : Nat}
    (fits : digits ≤ maxDigits) :
    term (firstOfLength digits) < wordBound := by
  have longEnough : maxDigits ≤ (Nat.digits 10 (term 184)).length :=
    (Nat.lt_digits_length_iff (by decide) _).mpr
      (show 10 ^ 38 ≤ term 184 by decide)
  have found : firstOfLength digits ≤ 184 :=
    Nat.find_min' (exists_le_length_digits digits)
      (Nat.le_trans fits longEnough)
  have last : term 184 < wordBound := by
    decide
  by_contra beyond
  have reached : wordBound ≤ term 184 :=
    wordBound_le_term (Nat.le_of_not_lt beyond) found
  omega

end Lucas

end RoundRobin
