import ApiScribe.Number.Binary64

set_option autoImplicit false

namespace ApiScribe.Number

structure Decimal where
  digits : Nat
  exponent : Int
  deriving DecidableEq, Repr

namespace Binary64

/-- Four times the number, and four times the ends of the interval of reals that are nearest to it,
each over the common denominator. -/
structure Interval where
  low : Nat
  value : Nat
  high : Nat
  denominator : Nat
  closed : Bool

def interval (x : Binary64) : Interval :=
  let m := x.significand
  let below := if m == Nat.pow 2 52 && leastExponent < x.exponent then 1 else 2
  let scale := if x.exponent < 0 then 1 else Nat.pow 2 x.exponent.toNat
  let den := if x.exponent < 0 then Nat.pow 2 (-x.exponent).toNat else 1
  { low := (4 * m - below) * scale
    value := 4 * m * scale
    high := (4 * m + 2) * scale
    denominator := 4 * den
    closed := m % 2 == 0 }

def Interval.holds (i : Interval) (digits : Nat) (exponent : Int) : Bool :=
  let point := digits * i.denominator * (if exponent < 0 then 1 else Nat.pow 10 exponent.toNat)
  let unit := if exponent < 0 then Nat.pow 10 (-exponent).toNat else 1
  if i.closed then i.low * unit ≤ point && point ≤ i.high * unit
  else i.low * unit < point && point < i.high * unit

/-- The nearer of the two neighbours of the value on the grid of `10 ^ exponent` that lies in the
interval; of two that are equally near, the even one. -/
def Interval.onGrid? (i : Interval) (exponent : Int) : Option Nat :=
  let num := i.value * (if exponent < 0 then Nat.pow 10 (-exponent).toNat else 1)
  let den := i.denominator * (if exponent < 0 then 1 else Nat.pow 10 exponent.toNat)
  let q := num / den
  let twice := 2 * (num % den)
  let preferUp := den < twice || (den == twice && q % 2 == 1)
  let (first, second) := if preferUp then (q + 1, q) else (q, q + 1)
  if i.holds first exponent then some first
  else if i.holds second exponent then some second
  else none

def Interval.search (i : Interval) : Nat → Int → Decimal
  | 0, exponent => ⟨0, exponent⟩
  | steps + 1, exponent =>
    match i.onGrid? exponent with
    | some digits => if digits == 0 then i.search steps (exponent - 1) else ⟨digits, exponent⟩
    | none => i.search steps (exponent - 1)

def decimalSize (x : Binary64) : Int :=
  ((Nat.log2 x.significand : Int) + x.exponent) * 30103 / 100000 + 2

def dropZeros : Nat → Nat → Int → Decimal
  | 0, digits, exponent => ⟨digits, exponent⟩
  | steps + 1, digits, exponent =>
    if digits != 0 && digits % 10 == 0 then dropZeros steps (digits / 10) (exponent + 1)
    else ⟨digits, exponent⟩

/-- The shortest decimal that reads back as the absolute value of `x`. Twenty grids are enough:
seventeen digits always read back. -/
def shortest (x : Binary64) : Decimal :=
  if x.isZero then ⟨0, 0⟩
  else
    let found := x.interval.search 22 x.decimalSize
    dropZeros 22 found.digits found.exponent

end Binary64

structure DecimalLayout where
  greatestPositional : Int
  leastPositional : Int
  plus : String

def DecimalLayout.json : DecimalLayout := ⟨15, -5, "+"⟩

def DecimalLayout.yaml : DecimalLayout := ⟨15, -5, ""⟩

def zeros (n : Nat) : List Char := List.replicate n '0'

def pointed (digits : List Char) (whole : Int) : List Char :=
  if whole ≤ 0 then '0' :: '.' :: (zeros (-whole).toNat ++ digits)
  else
    let n := whole.toNat
    let fraction := digits.drop n
    digits.take n ++ zeros (n - digits.length) ++ '.' :: (if fraction.isEmpty then ['0'] else fraction)

def DecimalLayout.write (layout : DecimalLayout) (negative : Bool) (d : Decimal) : String :=
  let digits := Nat.toDigits 10 d.digits
  let lead : Int := d.exponent + digits.length - 1
  let body :=
    if layout.leastPositional ≤ lead ∧ lead ≤ layout.greatestPositional then
      String.ofList (pointed digits (lead + 1))
    else
      let significand :=
        match digits with
        | first :: rest@(_ :: _) => first :: '.' :: rest
        | _ => digits
      let sign := if lead < 0 then "-" else layout.plus
      String.ofList significand ++ "e" ++ sign ++ String.ofList (Nat.toDigits 10 lead.natAbs)
  if negative then "-" ++ body else body

def Binary64.render (layout : DecimalLayout) (x : Binary64) : String :=
  layout.write x.negative x.shortest

end ApiScribe.Number
