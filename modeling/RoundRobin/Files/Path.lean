namespace RoundRobin.Path

/-!
# Paths as texts

A path is a text of names with slashes between them. It is absolute if it
starts with a slash. The lengths of names and paths are limited.
-/

/-- The names between the slashes of a path. -/
def names (path : String) : List String :=
  (path.toList.splitOn '/').map String.ofList

/-- The most bytes that a name can have. -/
def maxNameSize : Nat :=
  255

/-- The most bytes that a path can have. -/
def maxSize : Nat :=
  4095

/--
Whether a path can lead anywhere: neither it nor a name in it is too long, and
it has no null character, which would end it.
-/
def isUsable (path : String) : Bool :=
  path.utf8ByteSize ≤ maxSize && !path.toList.contains '\x00' &&
    (names path).all fun name => name.utf8ByteSize ≤ maxNameSize

/-- Whether a path starts at the root. -/
def isAbsolute (path : String) : Bool :=
  path.toList.head? == some '/'

/-- A path below a base: one slash comes between, unless the base ends with one or is empty. -/
def join
    (base : String)
    (path : String) :
    String :=
  if base.isEmpty || base.toList.getLast? == some '/' then base ++ path
  else base ++ "/" ++ path

/-- Whether a name stands for the place where it is found. -/
def staysInPlace (name : String) : Bool :=
  name.isEmpty || name == "."

/-- Leave out the names at the end that stand for the place where they are found. -/
def withoutIdleEnd (names : List String) : List String :=
  (names.reverse.dropWhile staysInPlace).reverse

/--
Split a path into the part that is always kept, a leading slash or a leading
dot that is a name of its own, and the rest.
-/
def splitStart (path : String) : String × String :=
  match path.toList with
  | '/' :: rest => ("/", String.ofList rest)
  | ['.'] => (".", "")
  | '.' :: '/' :: rest => (".", String.ofList ('/' :: rest))
  | _ => ("", path)

/--
The path without its last name. A path without names has no parent, and the
parent of a single name is the empty path.
-/
def parent? (path : String) : Option String :=
  let (start, rest) := splitStart path
  let names := withoutIdleEnd (names rest)
  if names.isEmpty then
    if start == "." then some "" else none
  else
    some (start ++ "/".intercalate (withoutIdleEnd names.dropLast))

end RoundRobin.Path
