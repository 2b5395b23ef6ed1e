set_option autoImplicit false

/-! # Double-precision numbers

Measurements and reference numbers are IEEE 754 doubles. A finite double is kept as a sign and a
magnitude counted in the smallest positive double, `2⁻¹⁰⁷⁴`; the counts that occur are the natural
numbers with at most 53 significant bits below `2²⁰⁹⁸`. Every question of order is then a question
about integers (`Double.rank`), and rounding is one integer division (`BinaryFormat.round`).

The type separates the two zeros, which are written differently, and holds a single NaN. Comparison
is IEEE comparison: the zeros are equal and a NaN is comparable to nothing. -/

namespace RuleFilter

/-! ## Formats -/

/-- A binary floating-point format, described by the grid of its magnitudes counted in `2⁻¹⁰⁷⁴`. -/
structure BinaryFormat where
  /-- Number of significant bits. -/
  precision : Nat
  /-- The finest spacing is `2 ^ finest`. -/
  finest : Nat
  /-- Finite magnitudes lie below `2 ^ ceiling`. -/
  ceiling : Nat
deriving DecidableEq

namespace BinaryFormat

/-- The 64-bit format. -/
def double : BinaryFormat := ⟨53, 0, 2098⟩

/-- The 32-bit format. -/
def single : BinaryFormat := ⟨24, 925, 1202⟩

/-- Exponent of the spacing between neighbours around a magnitude. -/
def spacing (f : BinaryFormat) (units : Nat) : Nat :=
  max f.finest (units.log2 + 1 - f.precision)

/-- The magnitude lies on the format's grid and is finite. -/
def Represents (f : BinaryFormat) (units : Nat) : Prop :=
  units < Nat.pow 2 f.ceiling ∧ units % Nat.pow 2 (f.spacing units) = 0

theorem represents_zero (f : BinaryFormat) : f.Represents 0 :=
  ⟨Nat.two_pow_pos _, Nat.zero_mod _⟩

instance (f : BinaryFormat) (units : Nat) : Decidable (f.Represents units) :=
  inferInstanceAs (Decidable (_ ∧ _))

/-- The quotient rounded to the nearest natural number, a half going to the even neighbour. -/
def nearestEven (num den : Nat) : Nat :=
  let q := num / den
  let r := num % den
  if 2 * r < den then q
  else if den < 2 * r then q + 1
  else q + q % 2

/-- The magnitude of the format's unbounded grid nearest to `num / den`, a half going to the even
neighbour. -/
def round (f : BinaryFormat) (num den : Nat) : Nat :=
  let step := Nat.pow 2 (f.spacing (num / den))
  nearestEven num (den * step) * step

end BinaryFormat

/-! ## Doubles -/

/-- A finite magnitude of the 64-bit format, counted in `2⁻¹⁰⁷⁴`. -/
structure Magnitude where
  units : Nat
  represented : BinaryFormat.double.Represents units
deriving DecidableEq

/-- A 64-bit floating-point number. -/
inductive Double where
  | nan
  | infinity (negative : Bool)
  | finite (negative : Bool) (magnitude : Magnitude)
deriving DecidableEq

namespace Double

/-- Number of units in one. -/
def one : Nat := Nat.pow 2 1074

/-- The double with a given magnitude; a magnitude outside the format stands for an infinity. -/
def ofUnits (negative : Bool) (units : Nat) : Double :=
  if h : BinaryFormat.double.Represents units then .finite negative ⟨units, h⟩
  else .infinity negative

/-- Zero, with its sign. -/
def zero (negative : Bool) : Double := .finite negative ⟨0, BinaryFormat.represents_zero _⟩

instance : Inhabited Double := ⟨zero false⟩

/-- The double nearest to `num / den`, a half going to the even neighbour; a quotient that rounds
beyond the largest finite double is infinite. -/
def ofRatio (negative : Bool) (num den : Nat) : Double :=
  ofUnits negative (BinaryFormat.double.round (num * one) den)

/-- The double nearest to an integer. -/
def ofInt (n : Int) : Double := ofRatio (n < 0) n.natAbs 1

/-- The double nearest to a natural number. -/
def ofNat (n : Nat) : Double := ofRatio false n 1

/-- The 32-bit number nearest to `num / den`, as a double. -/
def ofRatioSingle (negative : Bool) (num den : Nat) : Double :=
  let units := BinaryFormat.single.round (num * one) den
  if units < Nat.pow 2 BinaryFormat.single.ceiling then ofUnits negative units
  else .infinity negative

/-- Neither an infinity nor a NaN. -/
def isFinite : Double → Bool
  | finite _ _ => true
  | _ => false

def isNaN : Double → Bool
  | nan => true
  | _ => false

/-! ## Order -/

/-- The place of a number on the integer line of units, an infinity standing beyond every finite
number; a NaN has none. -/
def rank : Double → Option Int
  | nan => none
  | infinity true => some (-(Nat.pow 2 BinaryFormat.double.ceiling : Nat))
  | infinity false => some (Nat.pow 2 BinaryFormat.double.ceiling : Nat)
  | finite true m => some (-(m.units : Int))
  | finite false m => some m.units

/-- Comparison by rank; a NaN is comparable to nothing. -/
def compare (a b : Double) : Option Ordering :=
  match a.rank, b.rank with
  | some x, some y => some (Ord.compare x y)
  | _, _ => none

/-- IEEE equality: the zeros are equal and a NaN differs from itself. -/
def eq (a b : Double) : Bool := a.compare b == some .eq

def lt (a b : Double) : Bool := a.compare b == some .lt

def le (a b : Double) : Bool := a.lt b || a.eq b

/-! ## Integral part and bit pattern -/

/-- Drops the fraction, toward zero. -/
def trunc : Double → Double
  | finite negative m => ofUnits negative (m.units / one * one)
  | x => x

/-- The IEEE 754 bit pattern; a NaN has many and is given the quiet one. -/
def bits : Double → Nat
  | nan => 0x7ff8000000000000
  | infinity negative => signBit negative + 0x7ff0000000000000
  | finite negative m =>
    if m.units < Nat.pow 2 52 then signBit negative + m.units
    else
      let e := m.units.log2 - 52
      signBit negative + (e * Nat.pow 2 52 + m.units / Nat.pow 2 e)
where
  /-- The sign's weight in the pattern. -/
  signBit (negative : Bool) : Nat := if negative then Nat.pow 2 63 else 0

end Double

end RuleFilter
