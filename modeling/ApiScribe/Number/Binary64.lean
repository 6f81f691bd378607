import ApiScribe.Number.Digits

set_option autoImplicit false

namespace ApiScribe.Number

/-- The number `± significand * 2 ^ exponent`. Readers make it canonical: the significand has 53
binary digits, or the exponent is the least one. -/
structure Binary64 where
  negative : Bool
  significand : Nat
  exponent : Int
  deriving DecidableEq, Repr

namespace Binary64

def leastExponent : Int := -1074
def greatestExponent : Int := 971

def zero (negative : Bool) : Binary64 := ⟨negative, 0, leastExponent⟩

def isZero (x : Binary64) : Bool := x.significand == 0

def same (x y : Binary64) : Bool :=
  (x.isZero && y.isZero) || x == y

def roundQuotient (num den : Nat) : Nat :=
  let q := num / den
  let twice := 2 * (num % den)
  if den < twice || (den == twice && q % 2 == 1) then q + 1 else q

def scaled (num den : Nat) (exponent : Int) : Nat × Nat :=
  if exponent < 0 then (num * Nat.pow 2 (-exponent).toNat, den)
  else (num, den * Nat.pow 2 exponent.toNat)

def exponentFor (num den : Nat) : Int :=
  let guess : Int := (num.log2 : Int) - (den.log2 : Int) - 52
  let (n, d) := scaled num den guess
  max leastExponent (if n / d < Nat.pow 2 52 then guess - 1 else guess)

def ofQuotient (negative : Bool) (num den : Nat) : Option Binary64 :=
  if num == 0 then some (zero negative)
  else
    let e := exponentFor num den
    let (n, d) := scaled num den e
    let m := roundQuotient n d
    let (m, e) := if m == Nat.pow 2 53 then (Nat.pow 2 52, e + 1) else (m, e)
    if greatestExponent < e then none else some ⟨negative, m, e⟩

/-- The nearest number to `± digits * 10 ^ exponent`. Decimals far outside the range are settled by
their size alone. -/
def ofDecimal (negative : Bool) (digits : Nat) (exponent : Int) : Option Binary64 :=
  if digits == 0 then some (zero negative)
  else
    let size : Int := (Nat.log2 digits : Int) * 30103 / 100000 + exponent
    if 320 < size then none
    else if size < -400 then some (zero negative)
    else if exponent < 0 then ofQuotient negative digits (Nat.pow 10 (-exponent).toNat)
    else ofQuotient negative (digits * Nat.pow 10 exponent.toNat) 1

inductive Reading where
  | finite (x : Binary64)
  | notFinite
  deriving DecidableEq, Repr

inductive ReadFault where
  | empty
  | invalid
  deriving DecidableEq, Repr

def ReadFault.message : ReadFault → String
  | .empty => "cannot parse float from empty string"
  | .invalid => "invalid float literal"

def readExponent? : List Char → Option Int
  | [] => some 0
  | c :: rest =>
    if c != 'e' && c != 'E' then none
    else
      let (negative, digits) :=
        match rest with
        | '-' :: digits => (true, digits)
        | '+' :: digits => (false, digits)
        | digits => (false, digits)
      if digits.isEmpty || !digits.all isDecimalDigit then none
      else
        let n : Int := decimalValue digits
        some (if negative then -n else n)

def readDecimal? (negative : Bool) (text : List Char) : Option Reading :=
  let whole := text.takeWhile isDecimalDigit
  let afterWhole := text.dropWhile isDecimalDigit
  let (fraction, rest) :=
    match afterWhole with
    | '.' :: more => (more.takeWhile isDecimalDigit, more.dropWhile isDecimalDigit)
    | more => ([], more)
  if whole.isEmpty && fraction.isEmpty then none
  else
    match readExponent? rest with
    | none => none
    | some e =>
      match ofDecimal negative (decimalValue (whole ++ fraction)) (e - fraction.length) with
      | none => some .notFinite
      | some x => some (.finite x)

def read (text : List Char) : Except ReadFault Reading :=
  if text.isEmpty then .error .empty
  else
    let (negative, body) :=
      match text with
      | '-' :: rest => (true, rest)
      | '+' :: rest => (false, rest)
      | rest => (false, rest)
    if ["inf", "infinity", "nan"].contains (String.ofList (body.map Char.toLower)) then
      .ok .notFinite
    else
      match readDecimal? negative body with
      | some reading => .ok reading
      | none => .error .invalid

end Binary64

end ApiScribe.Number
