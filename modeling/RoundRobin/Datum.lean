import RoundRobin.Payload
import RoundRobin.Text.Quoted

namespace RoundRobin

/-!
# Plain data as payloads

A `Datum` is a piece of plain data that a generator may yield. Its description
shows its structure: texts are quoted, lists stand in brackets, pairs in
parentheses.
-/

/-- A piece of plain data. -/
inductive Datum where
  | unit
  | boolean (flag : Bool)
  | integer (n : Int)
  | text (content : String)
  | list (items : List Datum)
  | pair (first second : Datum)
  | absent
  | present (content : Datum)

namespace Datum

mutual

/-- The text that shows the structure of a piece of data. -/
def describe : Datum → String
  | unit => "()"
  | boolean flag => if flag then "true" else "false"
  | integer n => toString n
  | text content => Text.quoted content
  | list items => "[" ++ ", ".intercalate (describeAll items) ++ "]"
  | pair first second => "(" ++ describe first ++ ", " ++ describe second ++ ")"
  | absent => "None"
  | present content => "Some(" ++ describe content ++ ")"

/-- The descriptions of several pieces of data. -/
def describeAll : List Datum → List String
  | [] => []
  | item :: rest => describe item :: describeAll rest

end

instance : Describe Datum where
  describe := describe

end Datum

end RoundRobin
