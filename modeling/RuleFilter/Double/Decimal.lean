import RuleFilter.Double.Basic

set_option autoImplicit false

/-! # Decimal text and doubles

A `Decimal` is what a numeral says: a sign, digits and a power of ten. Reading takes the nearest
double. Writing looks for the fewest digits that read back as the same double (`Double.shortest`),
and of those the nearest to it. The search tests each candidate by reading it, and ends with the
number's exact decimal expansion, so whatever it answers reads back. -/

namespace RuleFilter

/-- The number `± digits · 10 ^ exponent`. -/
structure Decimal where
  negative : Bool
  digits : Nat
  exponent : Int
deriving DecidableEq, Inhabited

namespace Decimal

/-- Powers of ten from here on are beyond every finite double. -/
def exponentLimit : Nat := 400

/-- Applies a rounding of quotients to the decimal. Extreme exponents are answered without building
the power of ten: the quotient is `1 / 0`-like above the range and zero below it. -/
def rounded (ofRatio : Bool → Nat → Nat → Double) (d : Decimal) : Double :=
  if d.digits = 0 then .zero d.negative
  else if (exponentLimit : Int) ≤ d.exponent then .infinity d.negative
  else if d.exponent ≤ -((exponentLimit + d.digits.log2 : Nat) : Int) then .zero d.negative
  else match d.exponent with
    | .ofNat e => ofRatio d.negative (d.digits * Nat.pow 10 e) 1
    | .negSucc e => ofRatio d.negative d.digits (Nat.pow 10 (e + 1))

/-- The nearest double. -/
def toDouble (d : Decimal) : Double := d.rounded Double.ofRatio

/-- The nearest 32-bit number, as a double. -/
def toSingle (d : Decimal) : Double := d.rounded Double.ofRatioSingle

end Decimal

/-! ## Numerals -/

namespace Numeral

/-- The value of a decimal digit. -/
def digitValue (c : Char) : Nat := c.toNat - '0'.toNat

/-- The number written by a row of decimal digits. -/
def ofDigits (cs : List Char) : Nat := cs.foldl (fun n c => 10 * n + digitValue c) 0

/-- The leading digits of a text, and the rest. -/
def spanDigits (cs : List Char) : List Char × List Char := cs.span Char.isDigit

/-- The decimal digits of a number. -/
def digitsOf (n : Nat) : List Char := Nat.toDigits 10 n

end Numeral

/-- The decimal with the given whole digits, fraction digits and power of ten. -/
def Decimal.ofParts (negative : Bool) (whole fraction : List Char) (power : Int) : Decimal :=
  ⟨negative, Numeral.ofDigits (whole ++ fraction), power - fraction.length⟩

/-- Reads a decimal numeral: an optional sign, digits with an optional point, an optional power of
ten. -/
def Decimal.ofText? (text : String) : Option Decimal :=
  let (negative, cs) := match text.toList with
    | '-' :: rest => (true, rest)
    | '+' :: rest => (false, rest)
    | cs => (false, cs)
  let (whole, cs) := Numeral.spanDigits cs
  let (fraction, cs) := match cs with
    | '.' :: rest => Numeral.spanDigits rest
    | cs => ([], cs)
  if whole.isEmpty && fraction.isEmpty then none
  else match cs with
    | [] => some (.ofParts negative whole fraction 0)
    | 'e' :: rest | 'E' :: rest =>
      let (down, rest) := match rest with
        | '-' :: rest => (true, rest)
        | '+' :: rest => (false, rest)
        | rest => (false, rest)
      match Numeral.spanDigits rest with
      | ([], _) => none
      | (power, []) =>
        let power : Int := Numeral.ofDigits power
        some (.ofParts negative whole fraction (if down then -power else power))
      | _ => none
    | _ => none

/-! ## The shortest decimal of a double -/

namespace Double

/-- How a tie between two shortest decimals is settled. -/
inductive Tie where
  | away
  | even
deriving DecidableEq

/-- The number of decimal digits before the point of `units · 2⁻¹⁰⁷⁴`, negative for a number below a
tenth. The binary exponent determines it up to one or two, and the powers of ten decide. -/
def pointPosition (units : Nat) : Int :=
  let estimate := ((units.log2 : Int) - 1074) * 30103 / 100000
  let below (k : Int) : Bool := match k with
    | .ofNat k => units < Nat.pow 10 k * one
    | .negSucc k => units * Nat.pow 10 (k + 1) < one
  if below estimate then estimate
  else if below (estimate + 1) then estimate + 1
  else estimate + 2

/-- The two decimals around `units` on the grid of `10 ^ exponent`: the lower neighbour's digits,
and how the remainder compares to half a step. -/
def neighbours (units : Nat) (exponent : Int) : Nat × Ordering :=
  let (num, den) := match exponent with
    | .ofNat e => (units, Nat.pow 10 e * one)
    | .negSucc e => (units * Nat.pow 10 (e + 1), one)
  (num / den, Ord.compare (2 * (num % den)) den)

/-- The decimal of a grid that reads back as the given number and is nearest to it, if there is
one. -/
def onGrid (tie : Tie) (negative : Bool) (m : Magnitude) (exponent : Int) : Option Decimal :=
  let (low, half) := neighbours m.units exponent
  let nearFirst := match half, tie with
    | .lt, _ => [low, low + 1]
    | .gt, _ => [low + 1, low]
    | .eq, .away => [low + 1, low]
    | .eq, .even => if low % 2 = 0 then [low, low + 1] else [low + 1, low]
  (nearFirst.map (Decimal.mk negative · exponent)).find? (·.toDouble = .finite negative m)

/-- The exact decimal expansion. -/
def exactDecimal (negative : Bool) (m : Magnitude) : Decimal :=
  ⟨negative, m.units * Nat.pow 5 1074, -1074⟩

/-- The decimal with the fewest digits that reads back as the number, and of those the nearest. -/
def shortest (tie : Tie) (negative : Bool) (m : Magnitude) : Decimal :=
  if m.units = 0 then ⟨negative, 0, 0⟩
  else
    let point := pointPosition m.units
    ((List.range 17).findSome? fun n => onGrid tie negative m (point - (n + 1 : Nat))).getD
      (exactDecimal negative m)

end Double

/-! ## Layouts -/

/-- How the digits of a decimal are laid out as text. A number is written positionally when its
leading digit stands for a power of ten from `leastPower` up to, not including, `endPower`;
otherwise in scientific form. A positional numeral always shows a fraction. -/
structure NumeralLayout where
  leastPower : Int
  endPower : Int
  /-- A positive power of ten is written with a sign. -/
  signedPower : Bool
  tie : Double.Tie
deriving DecidableEq

namespace NumeralLayout

/-- Digits without the zeros at the end, and how many were dropped. -/
def trimZeros (digits : List Char) : List Char × Nat :=
  let zeros := (digits.reverse.takeWhile (· = '0')).length
  (digits.take (digits.length - zeros), zeros)

/-- The text of a decimal. -/
def textOfDecimal (layout : NumeralLayout) (d : Decimal) : String :=
  let sign := if d.negative then ['-'] else []
  if d.digits = 0 then String.ofList (sign ++ ['0', '.', '0'])
  else
    let (digits, zeros) := trimZeros (Numeral.digitsOf d.digits)
    let exponent := d.exponent + zeros
    let power := exponent + digits.length - 1
    let body :=
      if layout.leastPower ≤ power ∧ power < layout.endPower then
        if 0 ≤ exponent then digits ++ List.replicate exponent.toNat '0' ++ ['.', '0']
        else if 0 ≤ power then
          digits.take (power.toNat + 1) ++ '.' :: digits.drop (power.toNat + 1)
        else ['0', '.'] ++ List.replicate (-power - 1).toNat '0' ++ digits
      else
        let mantissa := match digits with
          | first :: second :: rest => first :: '.' :: second :: rest
          | digits => digits
        let mark :=
          if power < 0 then ['e', '-'] else if layout.signedPower then ['e', '+'] else ['e']
        mantissa ++ mark ++ Numeral.digitsOf power.natAbs
    String.ofList (sign ++ body)

/-- The text of a finite double. -/
def text (layout : NumeralLayout) (negative : Bool) (m : Magnitude) : String :=
  layout.textOfDecimal (Double.shortest layout.tie negative m)

end NumeralLayout

end RuleFilter
