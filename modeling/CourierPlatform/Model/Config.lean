import CourierPlatform.Model.Registry

/-! The bounds of two loops as `config.courier` reads them from the environment. A number is an integer,
or `NaN`, which is `none`. -/
namespace CourierPlatform
open Js

namespace JsText

def signedDigits (js : JsText) (text : String) : Bool × List Char :=
  match text.toList.dropWhile js.isSpace with
  | '-' :: rest => (true, rest.takeWhile Char.isDigit)
  | '+' :: rest => (false, rest.takeWhile Char.isDigit)
  | rest => (false, rest.takeWhile Char.isDigit)

/-- `parseInt(text, 10)`: what follows the digits is ignored. -/
def parseInt (js : JsText) (text : String) : Option Int :=
  let (negative, digits) := js.signedDigits text
  let magnitude := digits.foldl (fun value digit => 10 * value + (digit.toNat - '0'.toNat)) 0
  if digits = [] then none else some (if negative then -magnitude else magnitude)

example : JsText.ascii.parseInt " -12px" = some (-12) := by decide

end JsText

namespace CourierConfig

variable (js : JsText) (env : String → Option String)

def retryAttempts : Option Int := js.parseInt (orDefault (env "COURIER_RETRY_ATTEMPTS") "3")

def bulkConcurrencyLimit : Option Int := js.parseInt (orDefault (env "BULK_CONCURRENCY_LIMIT") "10")

end CourierConfig

end CourierPlatform
