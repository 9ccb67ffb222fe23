import Mathlib.Data.List.Forall2
import RoundRobin.Proofs.Json.Grammar

namespace RoundRobin

/-!
# The pretty form is well formed

What is written character by character and line by line follows the grammar:
escaped characters may stand between quotes, and what is put between elements
is a comma and white space.
-/

namespace Json

/-- A control character is the one whose number is written in its escape. -/
theorem codePoint?_of_control
    {character : Char}
    (control : character.toNat < 0x20) :
    codePoint? '0' '0' (Nat.digitChar (character.toNat / 16))
        (Nat.digitChar (character.toNat % 16)) =
      some character := by
  have all :
      ∀ number < 0x20,
        codePoint? '0' '0' (Nat.digitChar (number / 16))
            (Nat.digitChar (number % 16)) =
          some (Char.ofNat number) := by
    decide
  rw [all _ control, Char.ofNat_toNat]

/-- An escaped character may stand between quotes. -/
theorem spellsText_escaped
    (character : Char)
    (rest : SpellsText spelling content) :
    SpellsText ((escaped character).toList ++ spelling)
      (character :: content) := by
  unfold escaped
  split
  · exact .short rfl rest
  · exact .short rfl rest
  · exact .short rfl rest
  · exact .short rfl rest
  · exact .short rfl rest
  · exact .short rfl rest
  · exact .short rfl rest
  · next noQuote noBackslash _ _ _ _ _ =>
      split
      · next control =>
          have spells :=
            SpellsText.unicode (codePoint?_of_control control) rest
          simpa [String.toList_append] using spells
      · next printable =>
          have spells :=
            SpellsText.plain (Nat.not_lt.mp printable) noQuote noBackslash
              rest
          simpa [Char.toString] using spells

/-- Escaped characters, one after the other, spell the text. -/
theorem spellsText_flatMap (content : List Char) :
    SpellsText (content.flatMap fun character => (escaped character).toList)
      content := by
  induction content with
  | nil => exact .nil
  | cons character rest inductionHypothesis =>
      exact spellsText_escaped character inductionHypothesis

/-- A text is quoted by what spells it. -/
theorem exists_quoted (content : String) :
    ∃ spelling,
      SpellsText spelling content.toList ∧
        (quoted content).toList = '"' :: (spelling ++ ['"']) := by
  refine ⟨_, spellsText_flatMap content.toList, ?_⟩
  simp only [quoted, String.toList_append, String.toList_join,
    List.flatMap_map]
  rfl

/-- A new line is white space. -/
theorem blanks_lineStart (depth : Nat) :
    Blanks (lineStart depth).toList := by
  rw [lineStart, String.pushn_eq_repeat_push]
  generalize 2 * depth = count
  induction count with
  | zero =>
      intro character member
      rw [List.mem_singleton.mp member]
      rfl
  | succ count inductionHypothesis =>
      intro character member
      rw [Nat.repeat, String.toList_push, List.mem_append] at member
      rcases member with earlier | last
      · exact inductionHypothesis character earlier
      · rw [List.mem_singleton.mp last]
        rfl

theorem blanks_nil : Blanks [] := by
  intro character member
  cases member

/-- With any white space around it, the text spells the phrase. -/
def Stands (phrase : Phrase) (written : String) : Prop :=
  ∀ {before after : List Char},
    Blanks before →
    Blanks after →
    Spells phrase (before ++ written.toList ++ after)

/-- Where commas part what stands between brackets, white space may follow them. -/
theorem spells_intercalate
    {one : α → Phrase}
    {several : List α → Phrase}
    (last :
      ∀ {element spelling},
        Spells (one element) spelling →
        Spells (several [element]) spelling)
    (more :
      ∀ {element spelling rest others},
        Spells (one element) spelling →
        Spells (several rest) others →
        Spells (several (element :: rest)) (spelling ++ ',' :: others))
    (breaks : Blanks between)
    (stand :
      List.Forall₂ (fun element => Stands (one element)) elements written)
    (inhabited : elements ≠ [])
    (leading : Blanks before)
    (trailing : Blanks after) :
    Spells (several elements)
      (before ++
        (',' :: between).intercalate (written.map String.toList) ++
        after) := by
  induction stand generalizing before with
  | nil => exact (inhabited rfl).elim
  | cons first others inductionHypothesis =>
      cases others with
      | nil =>
          rw [List.map_singleton, List.intercalate_singleton]
          exact last (first leading trailing)
      | cons second others =>
          have rest := inductionHypothesis (List.cons_ne_nil _ _) breaks
          have all := more (first leading blanks_nil) rest
          simpa [List.intercalate_cons_cons] using all

theorem toList_block_nil
    (depth : Nat)
    (opening closing : String) :
    (block depth opening closing []).toList =
      opening.toList ++ closing.toList :=
  String.toList_append

/-- Elements that are written one per line are parted by commas and white space. -/
theorem toList_block
    (depth : Nat)
    (opening closing : String)
    {written : List String}
    (inhabited : written ≠ []) :
    (block depth opening closing written).toList =
      opening.toList ++
        ((lineStart (depth + 1)).toList ++
          (',' :: (lineStart (depth + 1)).toList).intercalate
            (written.map String.toList) ++
          (lineStart depth).toList) ++
        closing.toList := by
  rw [block, List.isEmpty_eq_false_iff.mpr inhabited]
  simp [String.toList_append, String.toList_intercalate]

/-- A quoted name, a colon, a blank and a document are a field. -/
theorem stands_field
    (name : String)
    {written : String}
    (spells : Spells (.document content) written.toList) :
    Stands (.field name content) (quoted name ++ ": " ++ written) := by
  intro before after leading trailing
  obtain ⟨spelling, named, quotedName⟩ := exists_quoted name
  have blank : Blanks [' '] := by
    intro character member
    rw [List.mem_singleton.mp member]
    rfl
  have field :=
    Spells.field leading named blanks_nil (.element blank spells trailing)
  simpa [String.toList_append, quotedName] using field

mutual

/-- The pretty form of a document spells it, at whatever depth it stands. -/
theorem spells_pretty
    (depth : Nat) :
    (document : Json) →
    Spells (.document document) (document.pretty depth).toList
  | .number n => .number n
  | .text content => by
      obtain ⟨spelling, spells, written⟩ := exists_quoted content
      rw [pretty, written]
      exact .text spells
  | .array [] => by
      rw [pretty, prettyItems, toList_block_nil]
      exact .emptyArray blanks_nil
  | .array (item :: rest) => by
      have spells :=
        spells_intercalate .lastItem .moreItems
          (blanks_lineStart (depth + 1))
          (stand_prettyItems (depth + 1) (item :: rest))
          (List.cons_ne_nil item rest)
          (blanks_lineStart (depth + 1))
          (blanks_lineStart depth)
      rw [pretty, toList_block]
      · exact .array spells
      · exact List.cons_ne_nil _ _
  | .object [] => by
      rw [pretty, prettyFields, toList_block_nil]
      exact .emptyObject blanks_nil
  | .object ((name, content) :: rest) => by
      have spells :=
        spells_intercalate .lastField .moreFields
          (blanks_lineStart (depth + 1))
          (stand_prettyFields (depth + 1) ((name, content) :: rest))
          (List.cons_ne_nil (name, content) rest)
          (blanks_lineStart (depth + 1))
          (blanks_lineStart depth)
      rw [pretty, toList_block]
      · exact .object spells
      · exact List.cons_ne_nil _ _

/-- The pretty forms of items spell them. -/
theorem stand_prettyItems
    (depth : Nat) :
    (items : List Json) →
    List.Forall₂ (fun item => Stands (.element item))
      items (prettyItems depth items)
  | [] => .nil
  | item :: rest =>
      .cons
        (fun leading trailing =>
          .element leading (spells_pretty depth item) trailing)
        (stand_prettyItems depth rest)

/-- The pretty forms of fields spell them. -/
theorem stand_prettyFields
    (depth : Nat) :
    (fields : List (String × Json)) →
    List.Forall₂ (fun field => Stands (.field field.1 field.2))
      fields (prettyFields depth fields)
  | [] => .nil
  | (name, content) :: rest =>
      .cons
        (stands_field name (spells_pretty depth content))
        (stand_prettyFields depth rest)

end

/-- The pretty form of a document means it. -/
theorem means_pretty (document : Json) : Means (document.pretty 0) document := by
  have spells :=
    Spells.element blanks_nil (spells_pretty 0 document) blanks_nil
  rwa [List.nil_append, List.append_nil] at spells

example :
    (object [("error", .text "a\"b"), ("order", .array [])]).pretty 0 =
      "\x7b\n  \"error\": \"a\\\"b\",\n  \"order\": []\n\x7d" := by
  decide +kernel

end Json

end RoundRobin
