import RoundRobin.Ron.Blank
import RoundRobin.Ron.Name

namespace RoundRobin.Ron

/-!
# Quoted texts, characters and bytes

A text stands between double quotes, with escapes, or raw behind an `r`, where
as many number signs as stand in front of the opening quote must follow the
closing one. With a `b` in front the same forms hold bytes. Where a text is not
raw, a backslash at the end of a line joins the next line to it, less the white
space at its start.
-/

/-- The value of a hexadecimal digit. -/
def hexDigit? (character : Char) : Option Nat :=
  if character.isDigit then some (character.toNat - '0'.toNat)
  else if 'a' ≤ character && character ≤ 'f' then
    some (character.toNat - 'a'.toNat + 10)
  else if 'A' ≤ character && character ≤ 'F' then
    some (character.toNat - 'A'.toNat + 10)
  else none

/-- Two hexadecimal digits at the front of the input, as a byte. -/
def hexByte? : List Char → Option (UInt8 × List Char)
  | high :: low :: rest => do
      some ((16 * (← hexDigit? high) + (← hexDigit? low)).toUInt8, rest)
  | _ => none

/-- The character that bytes encode, if they encode exactly one. -/
def ofBytes? (bytes : List UInt8) : Option Char :=
  match (String.fromUTF8? bytes.toByteArray).map String.toList with
  | some [character] => some character
  | _ => none

/-- Extend bytes by escaped ones, at most so many, until they encode a character. -/
def moreBytes? :
    (atMost : Nat) →
    (bytes : List UInt8) →
    List Char →
    Option (Char × List Char)
  | 0, _, _ => none
  | atMost + 1, bytes, '\\' :: 'x' :: input => do
      let (byte, rest) ← hexByte? input
      let extended := bytes ++ [byte]
      match ofBytes? extended with
      | some character => some (character, rest)
      | none => moreBytes? atMost extended rest
  | _, _, _ => none

/-- The code point between braces: up to six hexadecimal digits and the closing brace. -/
def codePoint? :
    (atMost : Nat) →
    (code digits : Nat) →
    List Char →
    Option (Nat × List Char)
  | _, code, digits, '\x7d' :: rest =>
      if digits = 0 then none else some (code, rest)
  | atMost + 1, code, digits, character :: rest =>
      match hexDigit? character with
      | some digit => codePoint? atMost (16 * code + digit) (digits + 1) rest
      | none => none
  | _, _, _, _ => none

/-- The character with a code point. -/
def character? (code : Nat) : Option Char :=
  if code.isValidChar then some (Char.ofNat code) else none

/-- Where an escape stands, which decides about escaped bytes. -/
inductive EscapePlace where
  /-- In a text: several bytes may encode one character. -/
  | text
  /-- Between single quotes: one byte encodes one character. -/
  | character
  /-- Among bytes: every byte stands for itself. -/
  | bytes
  deriving DecidableEq, Repr

/-- Read an escape behind its backslash. -/
def escape?
    (place : EscapePlace) :
    List Char →
    Option (Char × List Char)
  | '\'' :: rest => some ('\'', rest)
  | '"' :: rest => some ('"', rest)
  | '\\' :: rest => some ('\\', rest)
  | 'n' :: rest => some ('\n', rest)
  | 'r' :: rest => some ('\r', rest)
  | 't' :: rest => some ('\t', rest)
  | '0' :: rest => some ('\x00', rest)
  | 'x' :: input => do
      let (byte, rest) ← hexByte? input
      match place, ofBytes? [byte] with
      | .bytes, _ => some (Char.ofNat byte.toNat, rest)
      | _, some character => some (character, rest)
      | .text, none => moreBytes? 3 [byte] rest
      | .character, none => none
  | 'u' :: '\x7b' :: input => do
      let (code, rest) ← codePoint? 6 0 0 input
      some (← character? code, rest)
  | _ => none

/-- The rest of a text up to its closing quote; `limit` bounds the length. -/
def quotedRest?
    (place : EscapePlace) :
    (limit : Nat) →
    List Char →
    Option (List Char × List Char)
  | 0, _ => none
  | _, [] => none
  | _, '"' :: rest => some ([], rest)
  | limit + 1, '\\' :: '\n' :: input =>
      quotedRest? place limit (input.dropWhile isBlank)
  | limit + 1, '\\' :: input => do
      let (character, rest) ← escape? place input
      let (characters, rest) ← quotedRest? place limit rest
      some (character :: characters, rest)
  | limit + 1, character :: rest => do
      let (characters, rest) ← quotedRest? place limit rest
      some (character :: characters, rest)

/-- The rest of a raw text up to its closing quote and the given signs. -/
def rawRest?
    (closing : List Char) :
    List Char →
    Option (List Char × List Char)
  | [] => none
  | character :: rest =>
      if closing.isPrefixOf (character :: rest) then
        some ([], (character :: rest).drop closing.length)
      else
        (rawRest? closing rest).map fun (characters, rest) =>
          (character :: characters, rest)

/-- A raw text behind its mark. -/
def raw? (input : List Char) : Option (List Char × List Char) :=
  let signs := input.takeWhile (· == '#')
  match input.dropWhile (· == '#') with
  | '"' :: rest => rawRest? ('"' :: signs) rest
  | _ => none

/-- Take a quoted text off the front of the input. -/
def quotation? : List Char → Option (String × List Char)
  | '"' :: rest =>
      (quotedRest? .text (rest.length + 1) rest).map fun (characters, rest) =>
        (String.ofList characters, rest)
  | 'r' :: rest =>
      (raw? rest).map fun (characters, rest) =>
        (String.ofList characters, rest)
  | _ => none

/-- Take quoted bytes off the front of the input, one character for each. -/
def quotedBytes? : List Char → Option (String × List Char)
  | 'b' :: '"' :: rest =>
      (quotedRest? .bytes (rest.length + 1) rest).map fun (characters, rest) =>
        (String.ofList characters, rest)
  | 'b' :: 'r' :: rest =>
      (raw? rest).map fun (characters, rest) =>
        (String.ofList characters, rest)
  | _ => none

/-- A character and the closing single quote behind it. -/
def characterRest?
    (place : EscapePlace)
    (input : List Char) :
    Option (Char × List Char) := do
  let (character, rest) ←
    match input with
    | [] => none
    | '\\' :: escaped => escape? place escaped
    | character :: rest => some (character, rest)
  match rest with
  | '\'' :: rest => some (character, rest)
  | _ => none

/-- Take a character between single quotes off the front of the input. -/
def quotedCharacter? : List Char → Option (Char × List Char)
  | '\'' :: rest => characterRest? .character rest
  | _ => none

/--
Take a byte between single quotes, marked by a `b`, off the front of the input.
It is an ASCII character or an escape, but not of a code point.
-/
def quotedByte? : List Char → Option (Nat × List Char)
  | 'b' :: '\'' :: '\\' :: 'u' :: _ => none
  | 'b' :: '\'' :: '\\' :: escaped =>
      (characterRest? .bytes ('\\' :: escaped)).map fun (byte, rest) =>
        (byte.toNat, rest)
  | 'b' :: '\'' :: byte :: '\'' :: rest =>
      if byte.toNat < 0x80 then some (byte.toNat, rest) else none
  | _ => none

end RoundRobin.Ron
