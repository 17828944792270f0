import ChartLint.Json.Fault
import ChartLint.Number.Decimal

/-!
Numbers of JSON text. Integers of 64 bits stay integers. Any other number is read as an integer
significand of at most 64 bits, whose further digits are dropped, and a power of ten, and becomes a
floating-point number by one conversion and one multiplication or division.
-/
namespace ChartLint.Json

open Number (Binary64)

inductive Numeral where
  | natural (n : Nat)
  /-- The integer `-n`. -/
  | negative (n : Nat)
  | real (x : Binary64)

namespace Numeral

def toBinary64 : Numeral → Binary64
  | natural n => .ofNat n
  | negative n => (Binary64.ofNat n).neg
  | real x => x

/-- Largest significand. -/
def significandLimit : Nat := Nat.pow 2 64 - 1

/-- Largest exponent that is written out. -/
def exponentLimit : Nat := Nat.pow 2 31 - 1

/-- Reads further digits of a significand, and counts those dropped from the first that no longer
fits. -/
def takeWhole (significand dropped : Nat) : List Char → Nat × Nat
  | [] => (significand, dropped)
  | c :: rest =>
    let next := 10 * significand + Text.digitsValue [c]
    if 0 < dropped ∨ significandLimit < next then takeWhole significand (dropped + 1) rest
    else takeWhole next dropped rest

/-- Reads digits after the point up to the first that no longer fits, and counts them. -/
def takeFraction (significand taken : Nat) : List Char → Nat × Nat
  | [] => (significand, taken)
  | c :: rest =>
    let next := 10 * significand + Text.digitsValue [c]
    if significandLimit < next then (significand, taken) else takeFraction next (taken + 1) rest

/-- Divides by a power of ten, in steps that each fit a floating-point number. -/
def scaleDown (x : Binary64) (places : Nat) : Binary64 :=
  if places ≤ 308 then x.div (Number.ofDecimal false 1 places)
  else if x.isZero then x
  else scaleDown (x.div (Number.ofDecimal false 1 308)) (places - 308)
termination_by places

/-- `significand * 10 ^ exponent`, unless it is out of range. -/
def scaled? (significand : Nat) (exponent : Int) : Option Binary64 :=
  let x := Binary64.ofNat significand
  if exponent < 0 then some (scaleDown x (-exponent).toNat)
  else if exponent ≤ 308 then
    let product := x.mul (Number.ofDecimal false 1 exponent)
    if product.isInfinite then none else some product
  else if x.isZero then some x
  else none

/-- Number of digits of an exponent up to the one with which it exceeds its limit, if it does. -/
def excess? (value count : Nat) : List Char → Option Nat
  | [] => none
  | c :: rest =>
    let next := 10 * value + Text.digitsValue [c]
    if exponentLimit < next then some (count + 1) else excess? next (count + 1) rest

/-- A signed real number. -/
def signed (minus : Bool) (x : Binary64) : Numeral := .real (if minus then x.neg else x)

/-- Reads an exponent after its mark, at an offset, and finishes the number. The count is that of the
characters read. -/
def readExponent (minus : Bool) (significand : Nat) (shift : Int) (offset : Nat)
    (text : List Char) : Except Fault (Numeral × Nat) :=
  let (signSize, down, rest) :=
    match text with
    | '+' :: rest => (1, false, rest)
    | '-' :: rest => (1, true, rest)
    | rest => (0, false, rest)
  let digits := rest.takeWhile Char.isDigit
  let offset := offset + signSize
  if digits.isEmpty then
    if rest.isEmpty then .error ⟨.endInValue, offset⟩ else .error ⟨.invalidNumber, offset + 1⟩
  else
    let count := signSize + digits.length
    match excess? 0 0 digits with
    | some used =>
      if significand ≠ 0 ∧ ¬down then .error ⟨.numberOutOfRange, offset + used⟩
      else .ok (signed minus (.zero false), count)
    | none =>
      let exponent : Int := Text.digitsValue digits
      match scaled? significand (shift + if down then -exponent else exponent) with
      | some x => .ok (signed minus x, count)
      | none => .error ⟨.numberOutOfRange, offset + digits.length⟩

/-- Finishes a number after its significand: an exponent, or its end. -/
def readEnd (minus : Bool) (significand : Nat) (shift : Int) (offset : Nat) (text : List Char) :
    Except Fault (Numeral × Nat) :=
  match text with
  | 'e' :: rest | 'E' :: rest =>
    (readExponent minus significand shift (offset + 1) rest).map fun (n, count) => (n, count + 1)
  | _ =>
    match scaled? significand shift with
    | some x => .ok (signed minus x, 0)
    | none => .error ⟨.numberOutOfRange, offset⟩

/-- Reads what follows the integer digits of a number: a fraction, an exponent, or its end. -/
def readRest (minus : Bool) (significand dropped : Nat) (offset : Nat) (text : List Char) :
    Except Fault (Numeral × Nat) :=
  match text with
  | '.' :: rest =>
    let digits := rest.takeWhile Char.isDigit
    let after := rest.dropWhile Char.isDigit
    let offset := offset + 1
    if digits.isEmpty then
      if rest.isEmpty then .error ⟨.endInValue, offset⟩ else .error ⟨.invalidNumber, offset + 1⟩
    else
      let (significand, taken) := takeFraction significand 0 digits
      let shift : Int := (dropped : Int) - taken
      (readEnd minus significand shift (offset + digits.length) after).map fun (n, count) =>
        (n, 1 + digits.length + count)
  | 'e' :: _ | 'E' :: _ => readEnd minus significand dropped offset text
  | _ =>
    if 0 < dropped then readEnd minus significand dropped offset text
    else if ¬minus then .ok (.natural significand, 0)
    else if 0 < significand ∧ significand ≤ Nat.pow 2 63 then .ok (.negative significand, 0)
    else .ok (signed true (.ofNat significand), 0)

/-- Reads a number without its sign at an offset. -/
def readUnsigned (minus : Bool) (offset : Nat) (text : List Char) : Except Fault (Numeral × Nat) :=
  match text with
  | [] => .error ⟨.endInValue, offset⟩
  | '0' :: rest =>
    if rest.head?.any Char.isDigit then .error ⟨.invalidNumber, offset + 2⟩
    else (readRest minus 0 0 (offset + 1) rest).map fun (n, count) => (n, count + 1)
  | c :: _ =>
    if ¬c.isDigit then .error ⟨.invalidNumber, offset + 1⟩
    else
      let digits := text.takeWhile Char.isDigit
      let (significand, dropped) := takeWhole 0 0 digits
      (readRest minus significand dropped (offset + digits.length)
        (text.dropWhile Char.isDigit)).map fun (n, count) => (n, digits.length + count)

/-- Reads a number that starts a text at an offset, and counts its characters. -/
def read (offset : Nat) : List Char → Except Fault (Numeral × Nat)
  | '-' :: rest => (readUnsigned true (offset + 1) rest).map fun (n, count) => (n, count + 1)
  | text => readUnsigned false offset text

end Numeral

end ChartLint.Json
