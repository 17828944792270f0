/-!
Binary floating-point numbers of 64 bits, as exact values: a finite number is a significand times a
power of two. Results that need rounding go to the nearest number, a half to the even significand.
-/
namespace ChartLint.Number

/-- Quotient rounded to the nearest integer, a half to the even one. -/
def roundHalfEven (num den : Nat) : Nat :=
  let quotient := num / den
  let twice := 2 * (num % den)
  if twice < den then quotient
  else if den < twice then quotient + 1
  else quotient + quotient % 2

inductive Binary64 where
  | nan
  | infinite (negative : Bool)
  /-- The number `±significand * 2 ^ exponent`. -/
  | finite (negative : Bool) (significand : Nat) (exponent : Int)

namespace Binary64

/-- Exponent of the smallest positive number. -/
def leastExponent : Int := -1074

/-- Exponent of the largest finite number. -/
def greatestExponent : Int := 971

/-- Significands are below this. -/
def significandBound : Nat := Nat.pow 2 53

def zero (negative : Bool) : Binary64 := .finite negative 0 leastExponent

/-- `num / (den * 2 ^ exponent)` as a fraction. -/
def scaledDown (num den : Nat) (exponent : Int) : Nat × Nat :=
  if 0 ≤ exponent then (num, den * Nat.pow 2 exponent.toNat)
  else (num * Nat.pow 2 (-exponent).toNat, den)

/-- The exponent at which the significand of a positive fraction fills its 53 bits, or the least. -/
def exponentOf (num den : Nat) : Int :=
  let guess : Int := (Nat.log2 num : Int) - Nat.log2 den - 52
  let (n, d) := scaledDown num den guess
  max leastExponent (if n < d * Nat.pow 2 52 then guess - 1 else guess)

/-- The number nearest to a fraction. -/
def ofRatio (negative : Bool) (num den : Nat) : Binary64 :=
  if num = 0 then zero negative
  else
    let exponent := exponentOf num den
    let (n, d) := scaledDown num den exponent
    let significand := roundHalfEven n d
    let (significand, exponent) :=
      if significand = significandBound then (significand / 2, exponent + 1)
      else (significand, exponent)
    if greatestExponent < exponent then .infinite negative
    else .finite negative significand exponent

def ofNat (n : Nat) : Binary64 := ofRatio false n 1

/-- The size of a finite number as a fraction. -/
def ratio (significand : Nat) (exponent : Int) : Nat × Nat :=
  if 0 ≤ exponent then (significand * Nat.pow 2 exponent.toNat, 1)
  else (significand, Nat.pow 2 (-exponent).toNat)

def neg : Binary64 → Binary64
  | nan => nan
  | infinite negative => infinite !negative
  | finite negative significand exponent => finite (!negative) significand exponent

def isZero : Binary64 → Bool
  | finite _ significand _ => significand == 0
  | _ => false

def isInfinite : Binary64 → Bool
  | infinite _ => true
  | _ => false

def mul : Binary64 → Binary64 → Binary64
  | finite s m e, finite s' m' e' =>
    let (n, d) := ratio m e
    let (n', d') := ratio m' e'
    ofRatio (s != s') (n * n') (d * d')
  | nan, _ | _, nan => nan
  | infinite s, finite s' m _ | finite s' m _, infinite s =>
    if m = 0 then nan else infinite (s != s')
  | infinite s, infinite s' => infinite (s != s')

def div : Binary64 → Binary64 → Binary64
  | finite s m e, finite s' m' e' =>
    if m' = 0 then (if m = 0 then nan else infinite (s != s'))
    else
      let (n, d) := ratio m e
      let (n', d') := ratio m' e'
      ofRatio (s != s') (n * d') (d * n')
  | nan, _ | _, nan => nan
  | infinite s, finite s' _ _ => infinite (s != s')
  | finite s _ _, infinite s' => zero (s != s')
  | infinite _, infinite _ => nan

/-- The order of two numbers; a number that is not one is in no order. -/
def order? : Binary64 → Binary64 → Option Ordering
  | nan, _ | _, nan => none
  | infinite s, infinite s' => some (compare s' s)
  | infinite s, finite .. => some (if s then .lt else .gt)
  | finite .., infinite s => some (if s then .gt else .lt)
  | finite s m e, finite s' m' e' =>
    let (n, d) := ratio m e
    let (n', d') := ratio m' e'
    let signed (negative : Bool) (n : Nat) : Int := if negative then -n else n
    some (compare (signed s (n * d')) (signed s' (n' * d)))

def less (a b : Binary64) : Bool := order? a b == some .lt

def atMost (a b : Binary64) : Bool := order? a b == some .lt || order? a b == some .eq

/-- Numeric equality: the two zeros are equal. -/
instance : BEq Binary64 := ⟨fun a b => order? a b == some .eq⟩

end Binary64

end ChartLint.Number
