import RoundRobin.Ron.Attribute
import RoundRobin.Ron.Lookahead
import RoundRobin.Ron.Range

namespace RoundRobin.Ron

/-!
# Documents as trees

A document in the object notation RON is read into a `Tree`: numbers and ranges
of them, texts and other single values, lists, maps, options, tuples, and
records with named fields. Tuples and records may carry a name in front.

Nesting is limited: a reader starts with a number of levels to spare, and each
list, map, tuple, record or option, as well as each element in one, takes one
away.
-/

/-- A document as it was read. -/
inductive Tree where
  | boolean (flag : Bool)
  | number (n : Number)
  | range (range : Range)
  | text (content : String)
  | character (content : Char)
  | byte (content : Nat)
  | bytes (content : String)
  | list (items : List Tree)
  | map (entries : List (Tree × Tree))
  | absent
  | present (content : Tree)
  /-- A name that nothing in parentheses follows. -/
  | name (word : String)
  | tuple (name : Option String) (items : List Tree)
  | record (name : Option String) (fields : List (String × Tree))

/-- A bound as a value of its own. -/
def Bound.tree : Bound → Tree
  | .number n => .number n
  | .byte value => .byte value

/-- Read a number, a byte or a range. -/
def numeric : Reader Tree :=
  fun input =>
    match input with
    | '.' :: '.' :: _ =>
        (rangeFrom? none input).map fun (range, rest) => (.range range, rest)
    | input =>
        match bound? input with
        | none => none
        | some (first, '.' :: '.' :: rest) =>
            (rangeFrom? (some first) ('.' :: '.' :: rest)).map
              fun (range, rest) => (.range range, rest)
        | some (bound, rest) => some (bound.tree, rest)

/-- Read what stands in parentheses, the opening one being read already. -/
def parenthesised
    (value : Reader Tree)
    (name : Option String) :
    Reader Tree :=
  fun input =>
    match skipBlank input with
    | none => none
    | some inside =>
        if startsWithField inside then
          (elements (field value) ')' inside).map fun (fields, rest) =>
            (.record name fields, rest)
        else
          (elements value ')' inside).map fun (items, rest) =>
            (.tuple name items, rest)

/-- Read what is left of an option behind its content: a comma, if any, and the parenthesis. -/
def optionEnd (content : Tree) : Reader Tree :=
  fun input =>
    match skipBlank input with
    | some (')' :: rest) => some (.present content, rest)
    | some (',' :: rest) =>
        match skipBlank rest with
        | some (')' :: rest) => some (.present content, rest)
        | _ => none
    | _ => none

/--
Read what stands in the parentheses of an option. With `inside` the inside of a
record or a tuple is read, whose own parentheses may be left out.
-/
def optionContent
    (extensions : Extensions)
    (content inside : Reader Tree) :
    Reader Tree :=
  fun input =>
    if extensions.unwrappedVariants then
      match input with
      | ')' :: rest => some (.present (.tuple none []), rest)
      | input =>
          match holdsOne? input with
          | none => none
          | some true =>
              (content input).bind fun (inner, rest) => optionEnd inner rest
          | some false =>
              (inside input).map fun (inner, rest) => (.present inner, rest)
    else
      (content input).bind fun (inner, rest) => optionEnd inner rest

/-- Read what stands behind `Some`. -/
def behindSome
    (extensions : Extensions)
    (content inside : Reader Tree) :
    Reader Tree :=
  fun input =>
    match skipBlank input with
    | some ('(' :: rest) =>
        (skipBlank rest).bind (optionContent extensions content inside)
    | some rest =>
        if extensions.implicitSome then
          (content rest).map fun (inner, rest) => (.present inner, rest)
        else none
    | none => none

/-- Read a value that starts like no number, no word and no name. -/
def unnamed
    (nests : Bool)
    (value : Reader Tree) :
    Reader Tree
  | '(' :: rest => if nests then parenthesised value none rest else none
  | '[' :: rest =>
      if nests then
        (elements value ']' rest).map fun (items, rest) => (.list items, rest)
      else none
  | '\x7b' :: rest =>
      if nests then
        (elements (mapEntry value) '\x7d' rest).map fun (entries, rest) =>
          (.map entries, rest)
      else none
  | '"' :: rest =>
      (quotation? ('"' :: rest)).map fun (content, rest) => (.text content, rest)
  | 'r' :: rest =>
      (quotation? ('r' :: rest)).map fun (content, rest) => (.text content, rest)
  | '\'' :: rest =>
      (quotedCharacter? ('\'' :: rest)).map fun (content, rest) =>
        (.character content, rest)
  | 'b' :: rest =>
      (quotedBytes? ('b' :: rest)).map fun (content, rest) => (.bytes content, rest)
  | _ => none

/--
Read a value. Elements of lists and the like are read by `value`, what stands
behind `Some` by `content`, or by `inside` if it has no parentheses of its own;
where `nests` is false, neither lists nor the like are read.
-/
def valueWith
    (extensions : Extensions)
    (nests : Bool)
    (value content inside : Reader Tree) :
    Reader Tree :=
  fun input =>
    if let some rest := takeWord? "true" input then
      some (.boolean true, rest)
    else if let some rest := takeWord? "false" input then
      some (.boolean false, rest)
    else if let some rest := takeWord? "Some" input then
      if nests then behindSome extensions content inside rest else none
    else if let some rest := takeWord? "None" input then
      some (.absent, rest)
    else if let some rest := take? "()" input then
      some (.tuple none [], rest)
    else if startsBound input then
      numeric input
    else
      match name? input with
      | none => unnamed nests value input
      | some (name, rest) =>
          match skipBlank rest with
          | some ('(' :: rest) =>
              if nests then parenthesised value (some name) rest else none
          | some rest => some (.name name, rest)
          | none => none

/-- Read a value with so many levels of nesting to spare. -/
def value
    (extensions : Extensions) :
    (levels : Nat) →
    Reader Tree
  | 0 => valueWith extensions false nothing nothing nothing
  | 1 => valueWith extensions true nothing (value extensions 0) nothing
  | 2 =>
      valueWith extensions true (value extensions 0) (value extensions 1)
        (parenthesised nothing none)
  | levels + 3 =>
      valueWith extensions true (value extensions (levels + 1))
        (value extensions (levels + 2))
        (parenthesised (value extensions levels) none)

/-- The levels of nesting that a document has. -/
def maxLevels : Nat :=
  128

/-- A document: what it enables and what it holds. -/
structure Document where
  extensions : Extensions
  tree : Tree

/-- Read a whole document. -/
def Document.parse? (text : String) : Option Document :=
  match skipBlank text.toList with
  | none => none
  | some input =>
      match attributes (input.length + 1) {} input with
      | none => none
      | some (extensions, input) =>
          match value extensions maxLevels input with
          | none => none
          | some (tree, rest) =>
              match skipBlank rest with
              | some [] => some { extensions := extensions, tree := tree }
              | _ => none

end RoundRobin.Ron
