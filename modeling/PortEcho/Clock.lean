import PortEcho.Text.Numeral

/-!
The time of day that a moment of Unix time shows, in universal time.

A leap second is given as a fraction of more than a second on the last second of a minute, and
shows as second 60.
-/

namespace PortEcho

structure TimeOfDay where
  hour : Fin 24
  minute : Fin 60
  second : Fin 61
  deriving DecidableEq, Repr

namespace TimeOfDay

def midnight : TimeOfDay := ⟨0, 0, 0⟩

/-- The first and the last second of the calendar. -/
def firstSecond : Int := -8334601228800
def lastSecond : Int := 8210266876799

/-- The time of day of a second of Unix time. -/
def ofSecond (secs : Int) : TimeOfDay :=
  let day := (secs % 86400).toNat
  ⟨Fin.ofNat 24 (day / 3600), Fin.ofNat 60 (day / 60 % 60), Fin.ofNat 61 (day % 60)⟩

def ofUnix? (secs : Int) (nanos : Nat) : Option TimeOfDay :=
  if secs < firstSecond ∨ lastSecond < secs then none
  else if nanos < 1000000000 then some (ofSecond secs)
  else if nanos < 2000000000 ∧ secs % 60 = 59 then some { ofSecond secs with second := 60 }
  else none

/-- Hours, minutes and seconds in two digits each, between colons. -/
def text (t : TimeOfDay) : String :=
  Text.twoDigits t.hour ++ ":" ++ Text.twoDigits t.minute ++ ":" ++ Text.twoDigits t.second

/-- How the parts of a time are laid out in `text`. -/
def layout : String := "%H:%M:%S"

end TimeOfDay

end PortEcho
