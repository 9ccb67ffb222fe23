import RoundRobin.Ron.Blank
import RoundRobin.Ron.Name

namespace RoundRobin.Ron

/-!
# Readers

A reader takes something off the front of the input. The readers here put the
parts of a document together: things with a colon between them, and elements
parted by commas, the last of which may have a comma behind it too.
-/

/-- A way to take something off the front of the input. -/
abbrev Reader (α : Type) :=
  List Char → Option (α × List Char)

/-- A reader that reads nothing. -/
def nothing : Reader α :=
  fun _ => none

/-- Take texts off the front of the input, with blanks behind each. -/
def takeAll? :
    List String →
    List Char →
    Option (List Char)
  | [], input => some input
  | text :: texts, input =>
      ((take? text input).bind skipBlank).bind (takeAll? texts)

/-- Read elements parted by commas up to a closing character; `limit` bounds their number. -/
def commaSeparated
    (one : Reader α)
    (closing : Char) :
    (limit : Nat) →
    Reader (List α)
  | 0, _ => none
  | limit + 1, input =>
      match skipBlank input with
      | none => none
      | some [] => none
      | some (character :: rest) =>
          if character == closing then some ([], rest)
          else
            match one (character :: rest) with
            | none => none
            | some (element, rest) =>
                match skipBlank rest with
                | some (',' :: rest) =>
                    (commaSeparated one closing limit rest).map
                      fun (elements, rest) => (element :: elements, rest)
                | some (character :: rest) =>
                    if character == closing then some ([element], rest) else none
                | _ => none

/-- Read elements up to a closing character. -/
def elements
    (one : Reader α)
    (closing : Char) :
    Reader (List α) :=
  fun input => commaSeparated one closing (input.length + 1) input

/-- Read a value behind a key: a colon comes first. -/
def behindColon
    (value : Reader α) :
    Reader α :=
  fun input =>
    match skipBlank input with
    | some (':' :: rest) => (skipBlank rest).bind value
    | _ => none

/-- Read a field of a record: its name and its value. -/
def field (value : Reader α) : Reader (String × α) :=
  fun input =>
    match name? input with
    | none => none
    | some (name, rest) =>
        (behindColon value rest).map fun (content, rest) =>
          ((name, content), rest)

/-- Read an entry of a map: its key and its value. -/
def mapEntry (value : Reader α) : Reader (α × α) :=
  fun input =>
    match value input with
    | none => none
    | some (key, rest) =>
        (behindColon value rest).map fun (content, rest) =>
          ((key, content), rest)

/-- Whether the input starts with a name and a colon behind it. -/
def startsWithField (input : List Char) : Bool :=
  match name? input with
  | none => false
  | some (_, rest) =>
      match skipBlank rest with
      | some (':' :: _) => true
      | _ => false

end RoundRobin.Ron
