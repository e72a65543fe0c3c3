import TableLexer.Json.Basic

/-!
# Taking values out of JSON

A record is read from an object or from an array.  The object has each field of the record
exactly once, in any order, and may have others, which are ignored; the array has exactly
the values of the fields, in the record's order.  A named constant is read from its name or
from an object whose only field is that name with the value `null`.
-/

namespace TableLexer
namespace Json

/-- The natural number that the value writes without sign, fraction or exponent. -/
def toNat? : Json → Option Nat
  | number literal =>
    if literal.toList.all Char.isDigit then some (Nat.ofDigitChars 10 literal.toList 0)
    else none
  | _ => none

/-- The natural number that the value writes, if it is not above the largest one
allowed. -/
def toNatUpTo? (largest : Nat) (v : Json) : Option Nat :=
  match v.toNat? with
  | some n => if n ≤ largest then some n else none
  | none => none

/-- The text that the value holds. -/
def toText? : Json → Option String
  | string text => text
  | _ => none

/-- The elements of an array. -/
def toElements? : Json → Option (List Json)
  | array elements => some elements
  | _ => none

/-- The name of a constant. -/
def toName? : Json → Option String
  | string text => text
  | object [(key, null)] => key
  | _ => none

/-- The one value of a field: it may be absent, but not be there twice. -/
def field? (key : String) (fields : List (Option String × Json)) : Option (Option Json) :=
  match fields.filter fun f => f.1 == some key with
  | [] => some none
  | [(_, v)] => some (some v)
  | _ => none

/--
The values of a record with the given field names, in their order; a field that an object
does not have gives no value.  Every field of the object has to have a text for its name.
-/
def toRecord? (keys : List String) : Json → Option (List (Option Json))
  | object fields =>
    if fields.all fun f => f.1.isSome then
      keys.mapM fun key => field? key fields
    else
      none
  | array elements =>
    if elements.length = keys.length then some (elements.map some) else none
  | _ => none

end Json
end TableLexer
