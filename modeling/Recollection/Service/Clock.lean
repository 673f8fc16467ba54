import Recollection.Memory.Layer
/-!
# Clocks

Services take the time from a clock. A frozen clock always shows the same instant; the system clock
shows the time of day, which every call is given.
-/

set_option autoImplicit false

namespace Recollection

/-- Where the time comes from. -/
inductive Clock
  /-- Always the given instant. -/
  | frozen (instant : EpochMillis)
  /-- The time of day. -/
  | system
deriving DecidableEq, Repr

namespace Clock

/-- The instant at which the clocks of reproducible runs stand. -/
def deterministicInstant : EpochMillis := 1700000000000

/-- The clock of reproducible runs. -/
def deterministic : Clock :=
  frozen deterministicInstant

/-- What a clock shows at a time of day. -/
def read (timeOfDay : EpochMillis) : Clock → EpochMillis
  | frozen instant => instant
  | system => timeOfDay

/-- How a clock is shown. -/
def render : Clock → String
  | frozen instant => "FixedClock(" ++ toString instant.toNat ++ ")"
  | system => "SystemClock"

end Clock

end Recollection
