import BodyCheck.Filter.TimeFormat

/-!
# Surroundings

What a filter sees besides its input: a clock, an environment of named texts, and the zone of the
clocks at its place.  A run takes them as an argument, as it takes the files and the standard input,
and whoever runs a command looks them up before.  The clock stands still while a command runs, so
equal documents have equal outputs.

Which names a filter may use does not depend on its surroundings.
-/

namespace BodyCheck

namespace Filter

/-- What lies around a filter. -/
structure Surroundings where
  /-- The present time. -/
  now : Time
  /-- Texts by their names. -/
  environment : List (String × String) := []
  /-- The seconds by which the clocks of the place are ahead of those at the meridian, for a number
  of seconds since the start of 1970. -/
  ahead : Int → Int := fun _ => 0

/-- A moment as the clocks of the place tell it. -/
def Surroundings.localTime (around : Surroundings) (t : Time) : TimeFormat.LocalTime :=
  .atOffset (around.ahead t.seconds) t

end Filter

end BodyCheck
