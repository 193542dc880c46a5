import Mathlib.Data.Int.Basic

/-! Numbers of a parsed JSON text. A finite double is kept as its shortest
decimal, which is what the language prints; no arithmetic is done on them here. -/
namespace CourierPlatform.Js

/-- The value `mantissa * 10 ^ exponent`, in its only representation. -/
structure Number where
  mantissa : Int
  exponent : Int
  canonical : if mantissa = 0 then exponent = 0 else mantissa % 10 ≠ 0
deriving DecidableEq

namespace Number

def zero : Number := ⟨0, 0, by simp⟩

private def stripFuel : Nat → Int → Int → Number
  | 0, _, _ => zero
  | fuel + 1, mantissa, exponent =>
    if hzero : mantissa = 0 then zero
    else if hten : mantissa % 10 = 0 then stripFuel fuel (mantissa / 10) (exponent + 1)
    else ⟨mantissa, exponent, by rw [if_neg hzero]; exact hten⟩

def ofDecimal (mantissa exponent : Int) : Number :=
  stripFuel (mantissa.natAbs + 1) mantissa exponent

instance (n : Nat) : OfNat Number n := ⟨ofDecimal n 0⟩

private def zeros (n : Nat) : String := String.ofList (List.replicate n '0')

/-- `Number::toString` in base ten: positional between 10^-7 and 10^21, exponential outside. -/
def toString (value : Number) : String :=
  let sign := if value.mantissa < 0 then "-" else ""
  let digits := ToString.toString value.mantissa.natAbs
  let k : Int := digits.length
  let n : Int := k + value.exponent
  sign ++
    if value.mantissa = 0 then "0"
    else if k ≤ n ∧ n ≤ 21 then digits ++ zeros (n - k).toNat
    else if 0 < n ∧ n ≤ 21 then
      String.ofList (digits.toList.take n.toNat) ++ "." ++
        String.ofList (digits.toList.drop n.toNat)
    else if -6 < n ∧ n ≤ 0 then "0." ++ zeros (-n).toNat ++ digits
    else
      let point := if k = 1 then digits
        else String.ofList (digits.toList.take 1) ++ "." ++ String.ofList (digits.toList.drop 1)
      point ++ "e" ++ (if n - 1 < 0 then "-" else "+") ++ ToString.toString (n - 1).natAbs

def truthy (value : Number) : Bool := value.mantissa ≠ 0

end Number
end CourierPlatform.Js
