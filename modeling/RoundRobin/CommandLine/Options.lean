namespace RoundRobin.CommandLine

/-!
# Options

Options are chosen by a letter behind one dash or by a name behind two. Some
take a value: behind an equals sign, behind the letter, or as the next
argument, which then must not look like an option. Letters of options without
a value can stand together behind one dash. A sole pair of dashes ends the
options.

`scan` reads arguments up to the first one that is a word of its own.
-/

/-- How a report is written. -/
inductive Format where
  | text
  | json
  deriving DecidableEq, Repr

/-- The format with a name. -/
def Format.ofName? : String → Option Format
  | "text" => some text
  | "json" => some json
  | _ => none

/-- Something to be shown in place of running a command. -/
inductive Notice where
  | version
  | help
  deriving DecidableEq, Repr

/-- The options. -/
inductive Flag where
  | verbose
  | settingsFile
  | format
  | minDigits
  | count
  | notice (notice : Notice)
  deriving DecidableEq, Repr

namespace Flag

/-- The letter of an option. -/
def letter : Flag → Char
  | verbose => 'v'
  | settingsFile => 'c'
  | format => 'f'
  | minDigits => 'd'
  | count => 'n'
  | notice .version => 'V'
  | notice .help => 'h'

/-- The name of an option. -/
def name : Flag → String
  | verbose => "verbose"
  | settingsFile => "config"
  | format => "format"
  | minDigits => "min-digits"
  | count => "count"
  | notice .version => "version"
  | notice .help => "help"

/-- Whether an option takes a value. -/
def takesValue : Flag → Bool
  | verbose => false
  | settingsFile => true
  | format => true
  | minDigits => true
  | count => true
  | notice _ => false

end Flag

/-- What was chosen by options. -/
structure Selection where
  verbose : Bool := false
  settingsFile : Option String := none
  format : Option Format := none
  minDigits : List Nat := []
  count : Option Nat := none
  deriving DecidableEq, Repr

/-- The number that decimal digits stand for. -/
def digitsNumber? (digits : List Char) : Option Nat :=
  if digits.isEmpty || !digits.all Char.isDigit then none
  else some (digits.foldl (fun n digit => 10 * n + (digit.toNat - '0'.toNat)) 0)

/-- Counts stay below two to the power of 64. -/
def countBound : Nat :=
  18446744073709551616

/-- Thresholds stay below two to the power of 32. -/
def thresholdBound : Nat :=
  4294967296

/-- The number of a count, with a plus sign or without. -/
def count? (text : String) : Option Nat :=
  let number :=
    match text.toList with
    | '+' :: digits => digitsNumber? digits
    | digits => digitsNumber? digits
  number.filter fun n => n < countBound

/-- The number of a threshold, with a sign or without; zero may have a minus sign. -/
def threshold? (text : String) : Option Nat :=
  let number :=
    match text.toList with
    | '+' :: digits => digitsNumber? digits
    | '-' :: digits => (digitsNumber? digits).filter (· == 0)
    | digits => digitsNumber? digits
  number.filter fun n => n < thresholdBound

namespace Selection

/-- Choose an option without a value; it must not be chosen twice. -/
def turnOn?
    (selection : Selection) :
    Flag →
    Option Selection
  | .verbose =>
      if selection.verbose then none else some { selection with verbose := true }
  | _ => none

/-- Choose an option with a value; only thresholds can be given more than once. -/
def choose?
    (selection : Selection)
    (value : String) :
    Flag →
    Option Selection
  | .settingsFile =>
      if selection.settingsFile.isSome || value.isEmpty then none
      else some { selection with settingsFile := some value }
  | .format =>
      if selection.format.isSome then none
      else
        (Format.ofName? value).map fun format =>
          { selection with format := some format }
  | .minDigits =>
      (threshold? value).map fun digits =>
        { selection with minDigits := selection.minDigits ++ [digits] }
  | .count =>
      if selection.count.isSome then none
      else (count? value).map fun count => { selection with count := some count }
  | _ => none

end Selection

/-- What reading an argument comes to. -/
inductive Reading where
  /-- Options were chosen. -/
  | chosen (selection : Selection)
  /-- Options were chosen, and the next argument is the value of one more. -/
  | awaiting (flag : Flag) (selection : Selection)
  /-- Something is to be shown at once. -/
  | notice (notice : Notice)
  /-- The argument is no option. -/
  | word
  /-- The argument ends the options. -/
  | separator
  | misuse
  deriving DecidableEq, Repr

/-- Options were chosen, unless they could not be. -/
def Reading.ofChoice : Option Selection → Reading
  | some selection => chosen selection
  | none => misuse

/-- Read the name of an option, with a value attached to it or without. -/
def readName
    (known : List Flag)
    (name : String)
    (value? : Option String)
    (selection : Selection) :
    Reading :=
  match known.find? (·.name == name), value? with
  | none, _ => .misuse
  | some (.notice notice), none => .notice notice
  | some flag, none =>
      if flag.takesValue then .awaiting flag selection
      else .ofChoice (selection.turnOn? flag)
  | some flag, some value => .ofChoice (selection.choose? value flag)

/-- Read the letters of options. -/
def readLetters
    (known : List Flag) :
    List Char →
    Selection →
    Reading
  | [], selection => .chosen selection
  | letter :: rest, selection =>
      match known.find? (·.letter == letter) with
      | none => .misuse
      | some (.notice notice) => .notice notice
      | some flag =>
          if flag.takesValue then
            match rest with
            | [] => .awaiting flag selection
            | '=' :: value =>
                .ofChoice (selection.choose? (String.ofList value) flag)
            | value => .ofChoice (selection.choose? (String.ofList value) flag)
          else
            match selection.turnOn? flag with
            | some selection => readLetters known rest selection
            | none => .misuse

/-- Read an argument. -/
def readArgument
    (known : List Flag)
    (argument : String)
    (selection : Selection) :
    Reading :=
  match argument.toList with
  | ['-', '-'] => .separator
  | '-' :: '-' :: long =>
      let name := long.takeWhile (· != '=')
      match long.dropWhile (· != '=') with
      | [] => readName known (String.ofList name) none selection
      | _ :: value =>
          readName known (String.ofList name) (some (String.ofList value)) selection
  | '-' :: letter :: letters => readLetters known (letter :: letters) selection
  | _ => .word

/-- Whether an argument looks like an option; a single dash does not. -/
def looksLikeOption (argument : String) : Bool :=
  match argument.toList with
  | '-' :: _ :: _ => true
  | _ => false

/-- What reading arguments comes to. -/
inductive Scan where
  /-- All arguments were options. -/
  | finished (selection : Selection)
  /-- A word was met, with arguments behind it. -/
  | word (word : String) (rest : List String) (selection : Selection)
  | notice (notice : Notice)
  | misuse
  deriving DecidableEq, Repr

/-- Read the options that are known, up to the first word. -/
def scan
    (known : List Flag) :
    List String →
    Selection →
    Scan
  | [], selection => .finished selection
  | argument :: rest, selection =>
      match readArgument known argument selection, rest with
      | .chosen selection, rest => scan known rest selection
      | .awaiting _ _, [] => .misuse
      | .awaiting flag selection, value :: rest =>
          if looksLikeOption value then .misuse
          else
            match selection.choose? value flag with
            | some selection => scan known rest selection
            | none => .misuse
      | .notice notice, _ => .notice notice
      | .word, rest => .word argument rest selection
      | .separator, [] => .finished selection
      | .separator, _ :: _ => .misuse
      | .misuse, _ => .misuse

end RoundRobin.CommandLine
