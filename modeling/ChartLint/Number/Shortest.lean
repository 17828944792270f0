import ChartLint.Number.Decimal

/-!
Shortest decimals: the fewest digits that read back as a given floating-point number, and of those the
nearest to it.
-/
namespace ChartLint.Number

/-- Digits `d` and an exponent `e` for the decimal `d * 10 ^ e`. -/
structure Decimal where
  digits : Nat
  exponent : Int

/-- The reals that round to a positive finite number, in quarters of its last place. -/
structure Interval where
  low : Nat
  value : Nat
  high : Nat
  /-- Whether the ends round to the number too. -/
  closed : Bool

def Interval.ofSignificand (significand : Nat) (exponent : Int) : Interval where
  low := 4 * significand -
    if significand = Nat.pow 2 52 ∧ Binary64.leastExponent < exponent then 1 else 2
  value := 4 * significand
  high := 4 * significand + 2
  closed := significand % 2 = 0

/-- The decimals next to a value `value * num / den` on the grid of a given exponent that lie in the
interval, nearer ones first. -/
def Interval.onGrid (interval : Interval) (num den : Nat) (exponent : Int) : List Decimal :=
  let (n, d) :=
    if 0 ≤ exponent then (num, den * Nat.pow 10 exponent.toNat)
    else (num * Nat.pow 10 (-exponent).toNat, den)
  let below := interval.value * n / d
  let inside (digits : Nat) : Bool :=
    if interval.closed then interval.low * n ≤ digits * d && digits * d ≤ interval.high * n
    else interval.low * n < digits * d && digits * d < interval.high * n
  let candidates :=
    if 2 * (interval.value * n % d) ≤ d then [below, below + 1] else [below + 1, below]
  (candidates.filter inside).map fun digits => ⟨digits, exponent⟩

/-- The decimal `digits * 10 ^ exponent` without zeros at the end of its digits. -/
def Decimal.reduce (digits : Nat) (exponent : Int) : Decimal :=
  if digits ≠ 0 ∧ digits % 10 = 0 then Decimal.reduce (digits / 10) (exponent + 1)
  else ⟨digits, exponent⟩
termination_by digits
decreasing_by omega

/-- The shortest decimal of a positive finite number. -/
def shortest (significand : Nat) (exponent : Int) : Decimal :=
  let interval := Interval.ofSignificand significand exponent
  let (n, d) := Binary64.ratio 1 (exponent - 2)
  let whole := interval.value * n / d
  let places : Int :=
    if 0 < whole then digitCount whole
    else 1 - (digitCount (d / (interval.value * n)) : Int)
  let found := (List.range 18).findSome? fun count : Nat =>
    (interval.onGrid n d (places - count)).find? fun decimal => 0 < decimal.digits
  match found with
  | some decimal => .reduce decimal.digits decimal.exponent
  | none => ⟨significand, exponent⟩

def sign (negative : Bool) : String := if negative then "-" else ""

/-- A decimal in positional notation. -/
def Decimal.positional (decimal : Decimal) : String :=
  let digits := toString decimal.digits
  if 0 ≤ decimal.exponent then digits ++ String.ofList (List.replicate decimal.exponent.toNat '0')
  else
    let places := (-decimal.exponent).toNat
    let padded := String.ofList (List.replicate (places + 1 - digits.length) '0') ++ digits
    let whole := padded.toList.take (padded.length - places)
    let fraction := padded.toList.drop (padded.length - places)
    String.ofList whole ++ "." ++ String.ofList fraction

/-- Fewest digits, always in positional notation. -/
def Binary64.plain : Binary64 → String
  | nan => "NaN"
  | infinite negative => sign negative ++ "inf"
  | finite negative significand exponent =>
    if significand = 0 then sign negative ++ "0"
    else sign negative ++ (shortest significand exponent).positional

/-- Fewest digits with at least one place after the point, and with an exponent when more than sixteen
places would stand before the point or more than five zeros at the front. -/
def Binary64.scientific : Binary64 → String
  | nan => "NaN"
  | infinite negative => sign negative ++ "inf"
  | finite negative significand exponent =>
    if significand = 0 then sign negative ++ "0.0"
    else
      let decimal := shortest significand exponent
      let digits := toString decimal.digits
      let places := decimal.exponent + digits.length
      let body :=
        if 0 ≤ decimal.exponent ∧ places ≤ 16 then decimal.positional ++ ".0"
        else if -5 < places ∧ places ≤ 16 then decimal.positional
        else
          let mantissa :=
            if digits.length = 1 then digits
            else String.ofList (digits.toList.take 1) ++ "." ++ String.ofList (digits.toList.drop 1)
          s!"{mantissa}e{places - 1}"
      sign negative ++ body

end ChartLint.Number
