import RoundRobin.Ron.Name

namespace RoundRobin.Ron

/-!
# Numbers

Integers may carry a sign, a mark for base two, eight or sixteen, underscores
between their digits, and a suffix that names a type. What is no integer may
still be a number with a fraction or an exponent; of such numbers only the
form matters here. A decimal integer too large for sixty-four bits counts as
such a number too.
-/

/-- Whether a character can stand in an integer of some base. -/
def isIntegerPart (character : Char) : Bool :=
  character.isDigit || character == '_' ||
    ('a' ≤ character && character ≤ 'f') ||
    ('A' ≤ character && character ≤ 'F')

/-- Whether a character can stand in a number with a fraction or an exponent. -/
def isDecimalPart (character : Char) : Bool :=
  character.isDigit || character == '_' || character == 'e' ||
    character == 'E' || character == '.' || character == '+' || character == '-'

/-- The value of a digit of a base up to sixteen. -/
def digitValue (character : Char) : Nat :=
  if character.isDigit then character.toNat - '0'.toNat
  else if 'a' ≤ character then character.toNat - 'a'.toNat + 10
  else character.toNat - 'A'.toNat + 10

/-- An integer as it is written: with the type that its suffix names. -/
structure Integer where
  value : Int
  suffix : Option String
  deriving DecidableEq, Repr

/-- The integers of a type: the least and the greatest. -/
structure Width where
  least : Int
  greatest : Int
  deriving DecidableEq, Repr

/-- The natural numbers of so many bits. -/
def Width.unsigned (bits : Nat) : Width where
  least := 0
  greatest := Nat.pow 2 bits - 1

/-- The integers of so many bits and one for the sign. -/
def Width.signed (bits : Nat) : Width where
  least := -Nat.pow 2 bits
  greatest := Nat.pow 2 bits - 1

/-- The types that a suffix can name. -/
def widths : List (String × Width) :=
  [("i8", .signed 7),
    ("i16", .signed 15),
    ("i32", .signed 31),
    ("i64", .signed 63),
    ("u8", .unsigned 8),
    ("u16", .unsigned 16),
    ("u32", .unsigned 32),
    ("u64", .unsigned 64)]

/-- The integers that may stand without a suffix. -/
def unmarkedWidth : Width where
  least := (Width.signed 63).least
  greatest := (Width.unsigned 64).greatest

/-- Whether an integer is within a width. -/
def Width.holds
    (width : Width)
    (n : Int) :
    Bool :=
  width.least ≤ n && n ≤ width.greatest

/-- The number that digits of a base stand for; underscores are passed over. -/
def digitsValue?
    (base : Nat) :
    (value : Nat) →
    List Char →
    Option Nat
  | value, [] => some value
  | value, '_' :: rest => digitsValue? base value rest
  | value, digit :: rest =>
      if digitValue digit < base then
        digitsValue? base (value * base + digitValue digit) rest
      else
        none

/-- What is left of the input at the first digit that the base does not have. -/
def fromForeignDigit
    (base : Nat) :
    List Char →
    List Char
  | [] => []
  | character :: rest =>
      if isIntegerPart character &&
          (character == '_' || digitValue character < base) then
        fromForeignDigit base rest
      else
        character :: rest

/-- The base that the input is marked with, and the input behind the mark. -/
def baseMark : List Char → Nat × List Char
  | '0' :: 'b' :: rest => (2, rest)
  | '0' :: 'o' :: rest => (8, rest)
  | '0' :: 'x' :: rest => (16, rest)
  | input => (10, input)

/--
Take an integer of a width, without sign, off the front of the input. Where
there is none, the error is what is left of the input at the fault, and whether
the fault is one of form rather than of size.
-/
def unsignedInteger
    (negative : Bool)
    (width : Width)
    (input : List Char) :
    Except (List Char × Bool) (Int × List Char) :=
  let (base, digitsOn) := baseMark input
  let digits := digitsOn.takeWhile isIntegerPart
  let rest := digitsOn.dropWhile isIntegerPart
  if digits.isEmpty || digits.head? == some '_' then
    .error (digitsOn, true)
  else
    match digitsValue? base 0 digits with
    | none => .error (fromForeignDigit base digitsOn, true)
    | some value =>
        let signed : Int := if negative then -value else value
        if width.holds signed then .ok (signed, rest) else .error (rest, false)

/-- Split a sign off the input. -/
def sign : List Char → Bool × List Char
  | '+' :: rest => (false, rest)
  | '-' :: rest => (true, rest)
  | input => (false, input)

/-- The suffix with which the input goes on, if it is one that names a type. -/
def suffix? (input : List Char) : Option (String × Width × List Char) :=
  widths.findSome? fun (name, width) =>
    (takeWord? name input).map fun rest => (name, width, rest)

/-- Take an integer off the front of the input; the error is what is left at the fault. -/
def integer (input : List Char) : Except (List Char) (Integer × List Char) :=
  let (negative, unsigned) := sign input
  match suffix? (unsigned.dropWhile isIntegerPart) with
  | some (name, width, rest) =>
      match unsignedInteger negative width unsigned with
      | .ok (value, _) => .ok ({ value := value, suffix := some name }, rest)
      | .error (left, ofForm) => .error (if ofForm then left else rest)
  | none =>
      match unsignedInteger negative unmarkedWidth unsigned with
      | .ok (value, rest) => .ok ({ value := value, suffix := none }, rest)
      | .error (left, _) => .error left

/-- The spellings of numbers that are not finite, and of what is no number. -/
def specialNumbers : List String :=
  ["inf", "+inf", "-inf", "NaN", "+NaN", "-NaN"]

/-- Take the suffix of a number with a fraction off the front of the input. -/
def decimalSuffix? (input : List Char) : Option (List Char) :=
  (takeWord? "f32" input).orElse fun _ => takeWord? "f64" input

/-- Take a special number off the front of the input. -/
def special? (input : List Char) : Option (List Char) :=
  specialNumbers.findSome? fun spelling =>
    (takeWord? spelling input).orElse fun _ =>
      (take? spelling input).bind decimalSuffix?

/--
Drop the underscores from a number. They may stand after digits and exponent
marks, and after each other there.
-/
def withoutUnderscores :
    (allowed : Bool) →
    List Char →
    Option (List Char)
  | _, [] => some []
  | allowed, '_' :: rest =>
      if allowed then withoutUnderscores true rest else none
  | allowed, character :: rest =>
      let allowed' :=
        if character.isDigit || character == 'e' || character == 'E' then true
        else if character == '.' then false
        else allowed
      (withoutUnderscores allowed' rest).map (character :: ·)

/-- Whether characters are a sign, if any, and digits, at least one. -/
def isExponent (characters : List Char) : Bool :=
  let digits := (sign characters).2
  !digits.isEmpty && digits.all Char.isDigit

/-- Whether characters have the form of a number with a fraction or an exponent. -/
def isDecimal (characters : List Char) : Bool :=
  let unsigned := (sign characters).2
  let whole := unsigned.takeWhile Char.isDigit
  let afterWhole := unsigned.dropWhile Char.isDigit
  let (fraction, afterFraction) :=
    match afterWhole with
    | '.' :: rest => (rest.takeWhile Char.isDigit, rest.dropWhile Char.isDigit)
    | rest => ([], rest)
  !(whole.isEmpty && fraction.isEmpty) &&
    match afterFraction with
    | [] => true
    | 'e' :: exponent => isExponent exponent
    | 'E' :: exponent => isExponent exponent
    | _ => false

/--
The characters at the front of the input that can stand in a number with a
fraction or an exponent, and what is left behind them. Two dots in a row belong
to no number.
-/
def splitDecimal : List Char → List Char × List Char
  | [] => ([], [])
  | '.' :: '.' :: rest => ([], '.' :: '.' :: rest)
  | character :: rest =>
      if isDecimalPart character then
        let (characters, rest) := splitDecimal rest
        (character :: characters, rest)
      else
        ([], character :: rest)

/-- Take a number with a fraction or an exponent off the front of the input. -/
def decimal? (input : List Char) : Option (List Char) :=
  match special? input with
  | some rest => some rest
  | none =>
      let (characters, rest) := splitDecimal input
      if characters.head? == some '_' then none
      else
        match withoutUnderscores false characters with
        | none => none
        | some plain =>
            if isDecimal plain then some ((decimalSuffix? rest).getD rest)
            else none

/-- A number: an integer, or one of which only the form was checked. -/
inductive Number where
  | integer (n : Integer)
  | decimal
  deriving DecidableEq, Repr

/--
Take a number off the front of the input. Where no integer can be read, a
number with a fraction may be, provided it reaches at least as far as the
reading of the integer did.
-/
def number? (input : List Char) : Option (Number × List Char) :=
  let unsigned := (sign input).2
  let decimal := (decimal? input).map fun rest => (Number.decimal, rest)
  if (unsigned.takeWhile isIntegerPart).length <
      (splitDecimal unsigned).1.length then
    decimal
  else
    match integer input with
    | .ok (n, rest) => some (.integer n, rest)
    | .error left =>
        decimal.filter fun (_, rest) => rest.length ≤ left.length

end RoundRobin.Ron
