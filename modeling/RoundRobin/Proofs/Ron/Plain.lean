import RoundRobin.Proofs.Ron.Grammar
import RoundRobin.Ron.Plain

namespace RoundRobin.Ron

/-!
# Plain documents are well formed

What is written for a plain document spells the tree that the document is read
into, as long as its names are names, its numbers have at most sixty-four bits
and it is not nested too deep.
-/

namespace Plain

/-- The document can be read back; lists and records in it are nested at most so deep. -/
inductive Sound : (depth : Nat) → Plain → Prop where
  | boolean (flag : Bool) : Sound depth (.boolean flag)
  | number
      {n : Nat}
      (fits : n < UInt64.size) :
      Sound depth (.number n)
  | name
      (isName : IsName word)
      (free : word ∉ reserved) :
      Sound depth (.name word)
  | list
      {items : List Plain}
      (each : ∀ item ∈ items, Sound depth item) :
      Sound (depth + 1) (.list items)
  | record
      {fields : List (String × Plain)}
      (named : ∀ field ∈ fields, IsName field.1)
      (each : ∀ field ∈ fields, Sound depth field.2) :
      Sound (depth + 1) (.record fields)

/-- A line break and blanks are white space. -/
theorem blanks_line (level : Nat) : Blanks ('\n' :: indentation level) := by
  refine .space rfl ?_
  unfold indentation
  induction 4 * level with
  | zero => exact .nil
  | succ count inductionHypothesis => exact .space rfl inductionHypothesis

/-- Items on lines of their own are items, the last with a comma behind it too. -/
theorem spells_writeItems
    {items : List Plain}
    (spells :
      ∀ item ∈ items,
        Spells depth (.value item.tree) (item.write (level + 1))) :
    Spells depth (.items (trees items))
      ('\n' :: (writeItems (level + 1) items ++ indentation level)) := by
  induction items with
  | nil => exact .noItems (blanks_line level)
  | cons item rest inductionHypothesis =>
      have first := spells item List.mem_cons_self
      have others :=
        inductionHypothesis fun item member =>
          spells item (List.mem_cons_of_mem _ member)
      have all := Spells.moreItems (blanks_line (level + 1)) first .nil others
      simpa [writeItems, trees] using all

/-- Fields on lines of their own are fields, the last with a comma behind it too. -/
theorem spells_writeFields
    {fields : List (String × Plain)}
    (named : ∀ field ∈ fields, IsName field.1)
    (spells :
      ∀ field ∈ fields,
        Spells depth (.value field.2.tree) (field.2.write (level + 1))) :
    Spells depth (.fields (fieldTrees fields))
      ('\n' :: (writeFields (level + 1) fields ++ indentation level)) := by
  induction fields with
  | nil => exact .noFields (blanks_line level)
  | cons field rest inductionHypothesis =>
      have blank : Blanks [' '] := .space rfl .nil
      have first :=
        Spells.field (named field List.mem_cons_self) .nil blank
          (spells field List.mem_cons_self)
      have others :=
        inductionHypothesis
          (fun field member => named field (List.mem_cons_of_mem _ member))
          fun field member => spells field (List.mem_cons_of_mem _ member)
      have all := Spells.moreFields (blanks_line (level + 1)) first .nil others
      simpa [writeFields, fieldTrees] using all

/-- What is written for a document spells its tree, at whatever level it stands. -/
theorem spells_write
    {document : Plain}
    (sound : document.Sound depth)
    (level : Nat) :
    Spells depth (.value document.tree) (document.write level) := by
  induction sound generalizing level with
  | boolean flag => exact .boolean flag
  | number fits => exact .number fits
  | name isName free => exact .name isName free
  | @list _ items _ inductionHypothesis =>
      have content :=
        spells_writeItems fun item member =>
          inductionHypothesis item member (level + 1)
      cases items with
      | nil => exact .list (.noItems .nil)
      | cons item rest => simpa [write, tree] using Spells.list content
  | @record _ fields named _ inductionHypothesis =>
      have content :=
        spells_writeFields named fun field member =>
          inductionHypothesis field member (level + 1)
      cases fields with
      | nil => exact .record .none (.noFields .nil)
      | cons field rest =>
          simpa [write, tree, fieldTrees, recordTree] using Spells.record .none content

/-- The text of a document means its tree. -/
theorem means_text
    {document : Plain}
    (sound : document.Sound maxDepth) :
    Means document.text document.tree := by
  refine
    ⟨[], document.write 0, [], .nil, spells_write sound 0, .blanks .nil, ?_⟩
  rw [text, String.toList_ofList, List.nil_append, List.append_nil]

end Plain

end RoundRobin.Ron
