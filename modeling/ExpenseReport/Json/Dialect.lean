import ExpenseReport.Dialect.Records
import ExpenseReport.Json.Reader

/-!
# Records in JSON

Ids are whole number literals, decimals are strings or number literals, the latter also wrapped in
an object, and a record may be an array of its members, from which those at the end may be missing.
-/

namespace ExpenseReport.Json

namespace Value

/-- The text of a string. -/
def asText? : Value → Option String
  | string text => text
  | _ => none

/-- The text of a string, or none for null. -/
def asOptionalText? : Value → Option (Option String)
  | null => some none
  | value => value.asText?.map some

/-- A number without sign, point and exponent, if it is an id. -/
def asId? : Value → Option Id
  | number literal => do
    let n ← Text.value? literal
    if n < UInt32.size then some (UInt32.ofNat n) else none
  | _ => none

/-- A decimal, as a literal, as a string, or as a string that an object declares to be a literal. -/
def asDecimal? : Value → Option Decimal
  | number literal => Decimal.read? literal
  | object [(name, value)] =>
    if name = some Dialect.literalField then value.asText?.bind Decimal.ofText? else none
  | value => value.asText?.bind Decimal.ofText?

/-- An alternative by its name, which may also be the only member of an object, with nothing
under it. -/
def asChoice? : Value → Option String
  | object [(name, null)] => name
  | value => value.asText?

def asList? : Value → Option (List Value)
  | array items => some items
  | _ => none

/-- The members of an object, or the items of an array under the names in order. -/
def asMembers? (names : List String) : Value → Option (List (String × Value))
  | object members => members.mapM fun (name, value) => name.map (·, value)
  | array items => if items.length ≤ names.length then some (names.zip items) else none
  | _ => none

end Value

def dialect : Dialect Value where
  text? := Value.asText?
  optionalText? := Value.asOptionalText?
  id? := Value.asId?
  decimal? := Value.asDecimal?
  choice? := Value.asChoice?
  list? := Value.asList?
  members? := Value.asMembers?

/-- Reads a text as something that one value stands for. -/
def decode? {α : Type} (read : Value → Option α) (text : String) : Option α :=
  (ofText? text).bind read

end ExpenseReport.Json
