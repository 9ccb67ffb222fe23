import RoundRobin.Ron.Quotation
import RoundRobin.Ron.Reader

namespace RoundRobin.Ron

/-!
# Attributes

In front of a document there may be attributes. Some enable departures from the
plain notation; others tell the type or the schema of what follows, which
makes no difference to how it is read.
-/

/-- The departures from the plain notation that a document can enable. -/
structure Extensions where
  /-- What stands behind `Some` need not be in parentheses. -/
  implicitSome : Bool := false
  /-- The parentheses of what stands behind `Some` can be left out. -/
  unwrappedVariants : Bool := false
  /-- Known records must carry their names. -/
  explicitNames : Bool := false
  deriving DecidableEq, Repr

/-- Enable the departure of a name. -/
def Extensions.enable?
    (extensions : Extensions) :
    String →
    Option Extensions
  | "unwrap_newtypes" => some extensions
  | "implicit_some" => some { extensions with implicitSome := true }
  | "unwrap_variant_newtypes" =>
      some { extensions with unwrappedVariants := true }
  | "explicit_struct_names" => some { extensions with explicitNames := true }
  | _ => none

/-- Read the names of what is enabled; `limit` bounds their number. -/
def enabledNames :
    (limit : Nat) →
    Extensions →
    Reader Extensions
  | 0, _, _ => none
  | limit + 1, extensions, input =>
      match name? input with
      | none => none
      | some (name, rest) =>
          match extensions.enable? name, skipBlank rest with
          | some extensions, some (',' :: rest) =>
              match skipBlank rest with
              | some (')' :: rest) => some (extensions, ')' :: rest)
              | some rest => enabledNames limit extensions rest
              | none => none
          | some extensions, some rest => some (extensions, rest)
          | _, _ => none

/-- The names of the attributes that describe a document by a text. -/
def descriptions : List String :=
  ["type", "schema"]

/-- Read an attribute behind its opening bracket, up to the closing one. -/
def oneAttribute (extensions : Extensions) : Reader Extensions :=
  fun input =>
    match takeAll? ["enable", "("] input with
    | some rest =>
        match enabledNames (rest.length + 1) extensions rest with
        | none => none
        | some (extensions, rest) =>
            (takeAll? [")", "]"] rest).map fun rest => (extensions, rest)
    | none =>
        match descriptions.findSome? fun name => takeAll? [name, "="] input with
        | none => none
        | some rest =>
            match quotation? rest with
            | none => none
            | some (_, rest) =>
                ((skipBlank rest).bind (takeAll? ["]"])).map fun rest =>
                  (extensions, rest)

/-- Read the attributes at the head of a document; `limit` bounds their number. -/
def attributes :
    (limit : Nat) →
    Extensions →
    Reader Extensions
  | 0, _, _ => none
  | limit + 1, extensions, input =>
      if input.head? == some '#' then
        match (takeAll? ["#", "!", "["] input).bind (oneAttribute extensions) with
        | none => none
        | some (extensions, rest) => attributes limit extensions rest
      else some (extensions, input)

end RoundRobin.Ron
