import TemplateShare.Time.Instant

/-! # How long ago

A span of time in one unit: the largest that fits into it. A month has 30 days here, and a year
365. -/

namespace TemplateShare.Elapsed

/-- The units by name and seconds, the largest first. -/
def units : List (String × Nat) :=
  [("year", 31536000), ("month", 2592000), ("week", 604800), ("day", 86400), ("hour", 3600),
    ("minute", 60), ("second", 1)]

/-- **How long ago** something was, in seconds. -/
def ago (seconds : Nat) : String :=
  match units.find? fun (_, size) => size ≤ seconds with
  | none => "now"
  | some (unit, size) =>
    let n := seconds / size
    toString n ++ " " ++ unit ++ (if n = 1 then "" else "s") ++ " ago"

/-- The whole seconds from one moment to a later one; none where it is not later. -/
def secondsBetween (start finish : Instant) : Nat :=
  let whole := finish.seconds - start.seconds
  (if finish.nanos < start.nanos then whole - 1 else whole).toNat

/-- **How long ago** a moment was. What is still to come is now. -/
def since (moment now : Instant) : String := ago (secondsBetween moment now)

end TemplateShare.Elapsed
