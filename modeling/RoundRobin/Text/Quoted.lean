import RoundRobin.Text.Hidden

namespace RoundRobin.Text

/-!
# Quoted text

`quoted` puts a text between double quotes and escapes what would not survive
there: the quote and the backslash, the usual control characters by a letter,
and every other character without a shape of its own by its code point.
-/

/-- The lowercase hexadecimal digits of a number, without leading zeros. -/
def hexadecimal (n : Nat) : String :=
  String.ofList (Nat.toDigits 16 n)

/-- A character as it stands between quotes. -/
def escaped (character : Char) : String :=
  match character with
  | '\x00' => "\\0"
  | '\t' => "\\t"
  | '\r' => "\\r"
  | '\n' => "\\n"
  | '"' => "\\\""
  | '\\' => "\\\\"
  | _ =>
      if isHidden character then
        "\\u\x7b" ++ hexadecimal character.toNat ++ "\x7d"
      else
        character.toString

/-- A text between double quotes. -/
def quoted (text : String) : String :=
  "\"" ++ String.join (text.toList.map escaped) ++ "\""

end RoundRobin.Text
