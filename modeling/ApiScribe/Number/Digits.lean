set_option autoImplicit false

namespace ApiScribe.Number

def digitValue? (c : Char) : Option Nat :=
  if '0' ≤ c ∧ c ≤ '9' then some (c.toNat - '0'.toNat)
  else if 'a' ≤ c ∧ c ≤ 'z' then some (c.toNat - 'a'.toNat + 10)
  else if 'A' ≤ c ∧ c ≤ 'Z' then some (c.toNat - 'A'.toNat + 10)
  else none

def digitOf? (base : Nat) (c : Char) : Option Nat :=
  (digitValue? c).filter (· < base)

def isDecimalDigit (c : Char) : Bool :=
  '0' ≤ c && c ≤ '9'

def decimalValue (digits : List Char) : Nat :=
  digits.foldl (fun n c => 10 * n + (c.toNat - '0'.toNat)) 0

inductive IntegerFault where
  | empty
  | invalidDigit
  | tooLarge
  | tooSmall
  deriving DecidableEq, Repr

def IntegerFault.message : IntegerFault → String
  | .empty => "cannot parse integer from empty string"
  | .invalidDigit => "invalid digit found in string"
  | .tooLarge => "number too large to fit in target type"
  | .tooSmall => "number too small to fit in target type"

structure IntegerRange where
  least : Int
  greatest : Int

def IntegerRange.signed (bits : Nat) : IntegerRange :=
  ⟨-(Nat.pow 2 (bits - 1)), Nat.pow 2 (bits - 1) - 1⟩
def IntegerRange.unsigned (bits : Nat) : IntegerRange := ⟨0, Nat.pow 2 bits - 1⟩

def readUp (base : Nat) (greatest n : Int) : List Char → Except IntegerFault Int
  | [] => .ok n
  | c :: rest =>
    match digitOf? base c with
    | none => .error .invalidDigit
    | some d =>
      let next := base * n + d
      if greatest < next then .error .tooLarge else readUp base greatest next rest

def readDown (base : Nat) (least n : Int) : List Char → Except IntegerFault Int
  | [] => .ok n
  | c :: rest =>
    match digitOf? base c with
    | none => .error .invalidDigit
    | some d =>
      let next := base * n - d
      if next < least then .error .tooSmall else readDown base least next rest

/-- Reads an integer: an optional sign, of which `-` only where the range has negative numbers, and
at least one digit. -/
def readInteger (range : IntegerRange) (base : Nat) (text : List Char) :
    Except IntegerFault Int :=
  match text with
  | [] => .error .empty
  | ['+'] | ['-'] => .error .invalidDigit
  | '+' :: digits => readUp base range.greatest 0 digits
  | '-' :: digits =>
    if range.least < 0 then readDown base range.least 0 digits else .error .invalidDigit
  | digits => readUp base range.greatest 0 digits

end ApiScribe.Number
