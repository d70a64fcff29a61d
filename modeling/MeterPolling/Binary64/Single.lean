import MeterPolling.Binary64
/-!
The binary64 number equal to a binary32 one. Nothing is rounded: every binary32 magnitude is a
whole number of units of 2^-149, and each of those has a place among the binary64 magnitudes.
-/
namespace MeterPolling.Binary64

/-- The binary32 magnitude with the given exponent field and fraction, in units of 2^-149. -/
def singleUnits (exponent fraction : Nat) : Nat :=
  if exponent = 0 then fraction else ((1 <<< 23) + fraction) <<< (exponent - 1)

/-- Reads a binary32 bit pattern: one bit of sign, eight of exponent, twenty-three of fraction. -/
def ofSingle (pattern : Nat) : Binary64 :=
  let negative := (pattern >>> 31) % 2 == 1
  let exponent := (pattern >>> 23) % (1 <<< 8)
  let fraction := pattern % (1 <<< 23)
  if exponent = 255 then
    if fraction = 0 then .infinite negative else .nan
  else ofUnits negative (singleUnits exponent fraction <<< (1074 - 149)) 1

end MeterPolling.Binary64
