import RoundRobin.Ron.Tree

namespace RoundRobin.Ron

/-!
# Writing plain documents

Settings are written as plain documents: booleans, natural numbers, bare
names, lists, and records without names. Each element of a list and each field
of a record has a line of its own, indented by four blanks for each level and
ended by a comma.
-/

/-- A document of the kind that is written. -/
inductive Plain where
  | boolean (flag : Bool)
  | number (n : Nat)
  | name (word : String)
  | list (items : List Plain)
  | record (fields : List (String × Plain))

namespace Plain

mutual

/-- The tree that a plain document is read into. -/
def tree : Plain → Tree
  | boolean flag => .boolean flag
  | number n => .number (.integer { value := n, suffix := none })
  | name word => .name word
  | list items => .list (trees items)
  | record [] => .tuple none []
  | record (field :: fields) => .record none (fieldTrees (field :: fields))

/-- The trees of the elements of a list. -/
def trees : List Plain → List Tree
  | [] => []
  | item :: rest => item.tree :: trees rest

/-- The trees of the fields of a record. -/
def fieldTrees : List (String × Plain) → List (String × Tree)
  | [] => []
  | (key, content) :: rest => (key, content.tree) :: fieldTrees rest

end

/-- The blanks at the start of a line. -/
def indentation (level : Nat) : List Char :=
  List.replicate (4 * level) ' '

mutual

/-- The written form of a document that stands at a level. -/
def write
    (level : Nat) :
    Plain →
    List Char
  | boolean flag => (if flag then "true" else "false").toList
  | number n => n.repr.toList
  | name word => word.toList
  | list [] => ['[', ']']
  | list (item :: items) =>
      '[' :: '\n' ::
        (writeItems (level + 1) (item :: items) ++ indentation level ++ [']'])
  | record [] => ['(', ')']
  | record (field :: fields) =>
      '(' :: '\n' ::
        (writeFields (level + 1) (field :: fields) ++ indentation level ++ [')'])

/-- The lines of the elements of a list. -/
def writeItems
    (level : Nat) :
    List Plain →
    List Char
  | [] => []
  | item :: rest =>
      indentation level ++ item.write level ++ [',', '\n'] ++
        writeItems level rest

/-- The lines of the fields of a record. -/
def writeFields
    (level : Nat) :
    List (String × Plain) →
    List Char
  | [] => []
  | (key, content) :: rest =>
      indentation level ++ key.toList ++ [':', ' '] ++ content.write level ++
        [',', '\n'] ++ writeFields level rest

end

/-- The text of a plain document. -/
def text (document : Plain) : String :=
  String.ofList (document.write 0)

end Plain

end RoundRobin.Ron
