import FeatureScript.Text.Literal

/-!
# FeatureScript.Step.Reading

Reading a value from a captured text.

Integers are written in decimal, with an optional sign; a minus sign is refused by the types
without negative numbers. The digits are taken from left to right, and the first thing that is wrong
counts: a character that is no digit, or a value that has left the range of the type.
-/

namespace FeatureScript

/-- Why a text is no value of a type. -/
inductive ReadError where
  | noDigits
  | badDigit
  | tooLarge
  | tooSmall
  | notBoolean
  | noCharacter
  | manyCharacters
  deriving DecidableEq, Repr

def ReadError.message : ReadError → String
  | .noDigits => "cannot parse integer from empty string"
  | .badDigit => "invalid digit found in string"
  | .tooLarge => "number too large to fit in target type"
  | .tooSmall => "number too small to fit in target type"
  | .notBoolean => "provided string was not `true` or `false`"
  | .noCharacter => "cannot parse char from empty string"
  | .manyCharacters => "too many characters in string"

/-- A range of integers of fixed width. -/
structure IntegerType where
  least : Int
  greatest : Int

namespace IntegerType

def unsigned (bits : Nat) : IntegerType := ⟨0, Int.ofNat (Nat.pow 2 bits) - 1⟩

def signed (bits : Nat) : IntegerType :=
  ⟨-Int.ofNat (Nat.pow 2 (bits - 1)), Int.ofNat (Nat.pow 2 (bits - 1)) - 1⟩

/-- Digits after a value that has been read; `negative` digits are taken away. -/
def readDigits (type : IntegerType) (negative : Bool) : Int → List Char → Except ReadError Int
  | value, [] => .ok value
  | value, c :: rest =>
    if c.isDigit then
      let digit := Int.ofNat (c.toNat - '0'.toNat)
      let next := if negative then value * 10 - digit else value * 10 + digit
      if next < type.least then .error .tooSmall
      else if type.greatest < next then .error .tooLarge
      else type.readDigits negative next rest
    else .error .badDigit

def read (type : IntegerType) (s : String) : Except ReadError Int :=
  match s.toList with
  | [] => .error .noDigits
  | ['+'] | ['-'] => .error .badDigit
  | '+' :: rest => type.readDigits false 0 rest
  | '-' :: rest => if type.least < 0 then type.readDigits true 0 rest else .error .badDigit
  | cs => type.readDigits false 0 cs

end IntegerType

/-- The types of captured values. -/
inductive ValueType where
  | integer (type : IntegerType)
  | boolean
  | character
  | string

/-- The value that a text denotes, as it is written out again. -/
def ValueType.read : ValueType → String → Except ReadError String
  | .integer type, s => (type.read s).map fun n => Text.literal n
  | .boolean, s => if s = "true" ∨ s = "false" then .ok s else .error .notBoolean
  | .character, s =>
    match s.toList with
    | [] => .error .noCharacter
    | [_] => .ok s
    | _ => .error .manyCharacters
  | .string, s => .ok s

end FeatureScript
