import RuleFilter.Double.Decimal

set_option autoImplicit false

/-! # Decimals by one step of arithmetic

The double nearest to a decimal takes numbers of any size to find. A reader in a hurry takes the
digits to their nearest double and multiplies or divides that by a power of ten. This rounds twice
or three times instead of once, so the answer may be a neighbour of the nearest double, and a
decimal just below the largest double may be lost as if it were beyond it. -/

namespace RuleFilter

namespace Double

/-! ## Arithmetic -/

/-- The number of the opposite sign. -/
def neg : Double → Double
  | nan => nan
  | infinity negative => infinity !negative
  | finite negative m => finite (!negative) m

/-- The double nearest to the product. -/
def mul : Double → Double → Double
  | finite s a, finite t b => ofUnits (s ^^ t) (BinaryFormat.double.round (a.units * b.units) one)
  | finite s a, infinity t => if a.units = 0 then nan else infinity (s ^^ t)
  | infinity s, finite t b => if b.units = 0 then nan else infinity (s ^^ t)
  | infinity s, infinity t => infinity (s ^^ t)
  | nan, _ => nan
  | _, nan => nan

/-- The double nearest to the quotient. -/
def div : Double → Double → Double
  | finite s a, finite t b =>
    if b.units ≠ 0 then ofUnits (s ^^ t) (BinaryFormat.double.round (a.units * one) b.units)
    else if a.units ≠ 0 then infinity (s ^^ t)
    else nan
  | finite s _, infinity t => zero (s ^^ t)
  | infinity s, finite t _ => infinity (s ^^ t)
  | infinity _, infinity _ => nan
  | nan, _ => nan
  | _, nan => nan

def isZero : Double → Bool
  | finite _ m => m.units = 0
  | _ => false

/-! ## Powers of ten -/

/-- The largest power of ten that is a finite double. -/
def greatestPower : Nat := 308

/-- The double nearest to a power of ten. -/
def tenPow (k : Nat) : Double := ofNat (Nat.pow 10 k)

/-- Divides by the greatest power of ten so many times, or until nothing is left. -/
def divGreatest : Nat → Double → Double
  | 0, x => x
  | n + 1, x => if x.isZero then x else divGreatest n (x.div (tenPow greatestPower))

/-- Moves the decimal point, one power of ten at a time where the power is no double. -/
def scaled (x : Double) : Int → Double
  | .ofNat e =>
    if e ≤ greatestPower then x.mul (tenPow e)
    else if x.isZero then x
    else infinity false
  | .negSucc e => (divGreatest (e / greatestPower) x).div (tenPow (e % greatestPower + 1))

end Double

/-- A double close to the decimal, unless that comes out beyond all doubles. -/
def Decimal.scaled? (d : Decimal) : Option Double :=
  let x := (Double.ofNat d.digits).scaled d.exponent
  if x.isFinite then some (if d.negative then x.neg else x) else none

end RuleFilter
