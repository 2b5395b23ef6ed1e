import RuleFilter.Double.Basic

set_option autoImplicit false

/-! # Numbers as they are held

A number keeps the width it came in: a signed or an unsigned 64-bit integer, or a double. Two
numbers of one width compare exactly; otherwise both are widened to doubles first. Equality does not
look across widths. -/

namespace RuleFilter

/-- A number of one of three widths. -/
inductive Number where
  | signed (n : Int64)
  | unsigned (n : UInt64)
  | double (x : Double)
deriving DecidableEq

namespace Number

instance : Inhabited Number := ⟨signed 0⟩

/-- The nearest double. -/
def toDouble : Number → Double
  | signed n => .ofInt n.toInt
  | unsigned n => .ofNat n.toNat
  | double x => x

/-- The narrowest holder of an integer: signed where it fits, then unsigned, then a double. -/
def ofInt (n : Int) : Number :=
  if Int64.minValue.toInt ≤ n ∧ n ≤ Int64.maxValue.toInt then signed (.ofInt n)
  else if 0 ≤ n ∧ n < UInt64.size then unsigned (.ofNat n.toNat)
  else double (.ofInt n)

/-- The number in its narrowest holder: an unsigned integer is held signed where that fits. -/
def held : Number → Number
  | unsigned n => ofInt n.toNat
  | n => n

/-- Exact within one integer width, and otherwise by the nearest doubles; a NaN compares to
nothing. -/
def compare : Number → Number → Option Ordering
  | signed a, signed b => some (Ord.compare a.toInt b.toInt)
  | unsigned a, unsigned b => some (Ord.compare a.toNat b.toNat)
  | a, b => a.toDouble.compare b.toDouble

/-- Equality within one width; doubles by IEEE equality. -/
def beq : Number → Number → Bool
  | signed a, signed b => a == b
  | unsigned a, unsigned b => a == b
  | double x, double y => x.eq y
  | _, _ => false

instance : BEq Number := ⟨beq⟩

def lt (a b : Number) : Bool := a.compare b == some .lt

def le (a b : Number) : Bool := a.lt b || a.compare b == some .eq

end Number

end RuleFilter
