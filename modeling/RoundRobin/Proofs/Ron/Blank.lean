import RoundRobin.Proofs.Ron.Grammar

namespace RoundRobin.Ron

/-!
# Skipping white space and comments

What the grammar takes for white space and comments is skipped, and skipping
twice is skipping once.
-/

/-- The gap that a block comment inside so many others leaves behind. -/
def Gap.behindBlock : Nat → Gap
  | 0 => .open
  | depth + 1 => .block depth

/-- The body of a block comment is skipped together with the mark at its end. -/
theorem skipGap_commentBody
    (comment : CommentBody body)
    (depth : Nat)
    (rest : List Char) :
    skipGap (.block depth) (body ++ '*' :: '/' :: rest) =
      skipGap (.behindBlock depth) rest := by
  induction comment generalizing depth rest with
  | nil =>
      cases depth with
      | zero => rfl
      | succ depth => rfl
  | nested inner others innerHypothesis othersHypothesis =>
      rw [List.cons_append, List.cons_append, List.append_assoc,
        List.cons_append, List.cons_append, skipGap, innerHypothesis]
      exact othersHypothesis depth rest
  | @other character following opensNone closesNone others
      inductionHypothesis =>
      -- Neither mark can arise from the last character of the body and the mark behind it.
      have noOpening :
          ∀ later,
            character = '/' →
            following ++ '*' :: '/' :: rest = '*' :: later →
            False := by
        rintro later slash same
        obtain ⟨next, later', rfl, noStar⟩ := opensNone slash
        exact noStar (List.cons.inj same).1
      have noClosing :
          ∀ later,
            character = '*' →
            following ++ '*' :: '/' :: rest = '/' :: later →
            False := by
        rintro later star same
        cases following with
        | nil => cases same
        | cons next later' =>
            obtain ⟨rfl, _⟩ := List.cons.inj same
            exact closesNone star rfl
      rw [List.cons_append, skipGap]
      · exact inductionHypothesis depth rest
      · exact noOpening
      · exact fun later _ => noClosing later
      · exact fun _ later _ => noClosing later

/-- A line comment is skipped up to the end of the line. -/
theorem skipGap_line
    (comment : ∀ character ∈ body, character ≠ '\n')
    (rest : List Char) :
    skipGap .line (body ++ '\n' :: rest) = skipGap .open rest := by
  induction body with
  | nil => rfl
  | cons character body inductionHypothesis =>
      rw [List.cons_append, skipGap]
      · exact
          inductionHypothesis fun other member =>
            comment other (List.mem_cons_of_mem _ member)
      · exact comment character List.mem_cons_self

/-- White space and comments are skipped. -/
theorem skipBlank_append
    (blanks : Blanks before)
    (rest : List Char) :
    skipBlank (before ++ rest) = skipBlank rest := by
  unfold skipBlank
  induction blanks with
  | nil => rfl
  | space blank _ inductionHypothesis =>
      rw [List.cons_append, skipGap, if_pos blank]
      · exact inductionHypothesis
      · rintro _ rfl
        cases blank
      · rintro _ rfl
        cases blank
      · rintro rfl
        cases blank
  | lineComment comment _ inductionHypothesis =>
      rw [List.cons_append, List.cons_append, List.append_assoc,
        List.cons_append, skipGap, skipGap_line comment]
      exact inductionHypothesis
  | blockComment comment _ inductionHypothesis =>
      rw [List.cons_append, List.cons_append, List.append_assoc,
        List.cons_append, List.cons_append, skipGap,
        skipGap_commentBody comment]
      exact inductionHypothesis

/-- What is neither white space nor a slash is not skipped. -/
theorem skipBlank_cons
    (visible : isBlank character = false)
    (noSlash : character ≠ '/')
    (rest : List Char) :
    skipBlank (character :: rest) = some (character :: rest) := by
  rw [skipBlank, skipGap, if_neg (by rw [visible]; decide)]
  · exact fun _ same => (noSlash same).elim
  · exact fun _ same => (noSlash same).elim
  · exact noSlash

/-- Where skipping has stopped, there is nothing more to skip. -/
theorem skipBlank_of_skipGap
    {gap : Gap}
    (skipped : skipGap gap input = some rest) :
    skipBlank rest = some rest := by
  induction gap, input using skipGap.induct with
  | case1 =>
      cases skipped
      rfl
  | case4 tail noLine noBlock =>
      rw [skipGap] at skipped
      · cases skipped
      · exact noLine
      · exact noBlock
  | case5 character tail noLine noBlock noSlash blank inductionHypothesis =>
      rw [skipGap, if_pos blank] at skipped
      · exact inductionHypothesis skipped
      · exact noLine
      · exact noBlock
      · exact noSlash
  | case6 character tail noLine noBlock noSlash visible =>
      rw [skipGap, if_neg visible] at skipped
      · cases skipped
        exact skipBlank_cons (Bool.eq_false_iff.mpr visible) noSlash tail
      · exact noLine
      · exact noBlock
      · exact noSlash
  | case7 =>
      cases skipped
      rfl
  | case9 character tail noBreak inductionHypothesis =>
      rw [skipGap] at skipped
      · exact inductionHypothesis skipped
      · exact noBreak
  | case10 depth => cases skipped
  | case14 depth character tail noOpening noEnd noClosing
      inductionHypothesis =>
      rw [skipGap] at skipped
      · exact inductionHypothesis skipped
      · exact noOpening
      · exact noEnd
      · exact noClosing
  | _ =>
      next inductionHypothesis =>
        rw [skipGap] at skipped
        exact inductionHypothesis skipped

/-- At the end of a text, all white space and comments are skipped. -/
theorem skipBlank_of_lastBlanks (blanks : LastBlanks spelling) :
    skipBlank spelling = some [] := by
  cases blanks with
  | blanks blanks =>
      have skipped := skipBlank_append blanks []
      rwa [List.append_nil] at skipped
  | @lineComment before body blanks comment =>
      rw [skipBlank_append blanks, skipBlank, skipGap]
      induction body with
      | nil => rfl
      | cons character body inductionHypothesis =>
          rw [skipGap]
          · exact
              inductionHypothesis fun other member =>
                comment other (List.mem_cons_of_mem _ member)
          · exact comment character List.mem_cons_self

end RoundRobin.Ron
