import ReplDriver.Number.Double

/-!
# Time

The driver measures silence by a clock. Time passes only while output is awaited.
-/

namespace ReplDriver

/-- The time, and how sums of times are rounded. -/
structure Clock where
  now : Double
  rounding : Double.Rounding
deriving DecidableEq, Repr

namespace Clock

/-- A clock at its start. -/
def zero (rounding : Double.Rounding) : Clock := ⟨.finite 0, rounding⟩

/-- The time at which a duration from now has passed. -/
def after (c : Clock) (duration : Double) : Double := c.now.add c.rounding duration

/-- The clock when a duration has passed. -/
def pass (c : Clock) (duration : Double) : Clock := { c with now := c.after duration }

/-- How long it is until a time. -/
def remaining (c : Clock) (time : Double) : Double := time.sub c.rounding c.now

/-- By how much an idle wait lasts longer than it was meant to. -/
def overrun : Double := .finite (mkRat 1 (Nat.pow 2 20))

/-- The clock when nothing has come for a duration. -/
def idle (c : Clock) (duration : Double) : Clock := c.pass (duration.add c.rounding overrun)

end Clock

end ReplDriver
