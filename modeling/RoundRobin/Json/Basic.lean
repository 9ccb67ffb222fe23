namespace RoundRobin

/-!
# JSON documents

A `Json` value is written in two forms: compact, without any blanks, and
pretty, with one element per line and two spaces for each level. Quotes,
backslashes and control characters of a text are escaped; all else is written
as it is.
-/

/-- The JSON documents that reports are made of. -/
inductive Json where
  | number (n : Nat)
  | text (content : String)
  | array (items : List Json)
  | object (fields : List (String × Json))

namespace Json

/-- A character as it stands in a JSON text. -/
def escaped (character : Char) : String :=
  match character with
  | '"' => "\\\""
  | '\\' => "\\\\"
  | '\n' => "\\n"
  | '\r' => "\\r"
  | '\t' => "\\t"
  | '\x08' => "\\b"
  | '\x0c' => "\\f"
  | _ =>
      if character.toNat < 0x20 then
        "\\u00" ++
          String.ofList
            [Nat.digitChar (character.toNat / 16),
              Nat.digitChar (character.toNat % 16)]
      else
        character.toString

/-- A text between quotes. -/
def quoted (text : String) : String :=
  "\"" ++ String.join (text.toList.map escaped) ++ "\""

mutual

/-- The compact form. -/
def compact : Json → String
  | number n => n.repr
  | text content => quoted content
  | array items => "[" ++ ",".intercalate (compactItems items) ++ "]"
  | object fields => "\x7b" ++ ",".intercalate (compactFields fields) ++ "\x7d"

/-- The compact forms of the elements of an array. -/
def compactItems : List Json → List String
  | [] => []
  | item :: rest => item.compact :: compactItems rest

/-- The compact forms of the fields of an object. -/
def compactFields : List (String × Json) → List String
  | [] => []
  | (name, content) :: rest =>
      (quoted name ++ ":" ++ content.compact) :: compactFields rest

end

/-- The start of a line at a depth. -/
def lineStart (depth : Nat) : String :=
  "\n".pushn ' ' (2 * depth)

/-- Elements between brackets, one per line; nothing stands between the brackets of none. -/
def block
    (depth : Nat)
    (opening closing : String)
    (elements : List String) :
    String :=
  if elements.isEmpty then opening ++ closing
  else
    opening ++ lineStart (depth + 1) ++
      ("," ++ lineStart (depth + 1)).intercalate elements ++
      lineStart depth ++ closing

mutual

/-- The pretty form of a document that stands at a depth. -/
def pretty
    (depth : Nat) :
    Json →
    String
  | number n => n.repr
  | text content => quoted content
  | array items => block depth "[" "]" (prettyItems (depth + 1) items)
  | object fields => block depth "\x7b" "\x7d" (prettyFields (depth + 1) fields)

/-- The pretty forms of the elements of an array. -/
def prettyItems
    (depth : Nat) :
    List Json →
    List String
  | [] => []
  | item :: rest => item.pretty depth :: prettyItems depth rest

/-- The pretty forms of the fields of an object. -/
def prettyFields
    (depth : Nat) :
    List (String × Json) →
    List String
  | [] => []
  | (name, content) :: rest =>
      (quoted name ++ ": " ++ content.pretty depth) :: prettyFields depth rest

end

end Json

end RoundRobin
