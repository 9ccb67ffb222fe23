namespace RoundRobin

/-!
# Payloads of suspensions

A generator may yield a value each time it pauses. `Payload` says which yielded
values count as empty, and how the others are described when they are
reported. A generator that only pauses yields `Unit`; one that may carry a
value yields an `Option`, where `none` alone is empty.
-/

/-- Values with a text that shows their structure. -/
class Describe (π : Type) where
  describe : π → String

/-- Values that a generator can yield. -/
class Payload (π : Type) where
  /-- Whether the value counts as no payload at all. -/
  isEmpty : π → Bool
  /-- The text under which a payload is reported. -/
  describe : π → String

instance : Describe Unit where
  describe := fun _ => "()"

instance [Describe π] : Describe (Option π) where
  describe
    | none => "None"
    | some content => "Some(" ++ Describe.describe content ++ ")"

instance : Payload Unit where
  isEmpty := fun _ => true
  describe := fun _ => "()"

instance [Describe π] : Payload (Option π) where
  isEmpty := Option.isNone
  describe := Describe.describe

end RoundRobin
