/-!
# FeatureScript.Report.Json

JSON values and their text, on one line (`compact`) or indented by two spaces (`pretty`). Fields
keep their order. In strings, quotes, backslashes and control characters are escaped, and nothing
else.
-/

namespace FeatureScript

/-- JSON values of the kinds that occur in reports. -/
inductive Json where
  | number (n : Nat)
  | string (s : String)
  | array (items : List Json)
  | object (fields : List (String × Json))
  deriving Repr, Inhabited

namespace Json

/-- A control character by its code point, which has two hexadecimal digits. -/
def controlEscape (c : Char) : List Char :=
  ['\\', 'u', '0', '0', Nat.digitChar (c.toNat / 16), Nat.digitChar (c.toNat % 16)]

/-- One character inside a string. -/
def escapeChar (c : Char) : List Char :=
  if c = '"' then ['\\', '"']
  else if c = '\\' then ['\\', '\\']
  else if c = '\x08' then ['\\', 'b']
  else if c = '\x0c' then ['\\', 'f']
  else if c = '\n' then ['\\', 'n']
  else if c = '\r' then ['\\', 'r']
  else if c = '\t' then ['\\', 't']
  else if c.toNat < 32 then controlEscape c
  else [c]

def quote (s : String) : List Char := '"' :: (s.toList.flatMap escapeChar ++ ['"'])

def numeral (n : Nat) : List Char := Nat.toDigits 10 n

mutual

/-- The text of a value on one line. -/
def compact : Json → List Char
  | number n => numeral n
  | string s => quote s
  | array items => '[' :: (compactItems items ++ [']'])
  | object fields => '\x7b' :: (compactFields fields ++ ['\x7d'])

def compactItems : List Json → List Char
  | [] => []
  | [v] => v.compact
  | v :: w :: rest => v.compact ++ ',' :: compactItems (w :: rest)

def compactFields : List (String × Json) → List Char
  | [] => []
  | [(key, v)] => quote key ++ ':' :: v.compact
  | (key, v) :: f :: rest => quote key ++ ':' :: (v.compact ++ ',' :: compactFields (f :: rest))

end

/-- The end of a line and the indentation of the next one. -/
def newline (depth : Nat) : List Char := '\n' :: List.replicate (2 * depth) ' '

mutual

/-- The text of a value with each item and each field on a line of its own, `depth` levels deep. -/
def pretty (depth : Nat) : Json → List Char
  | number n => numeral n
  | string s => quote s
  | array [] => ['[', ']']
  | array (v :: rest) =>
    '[' :: (newline (depth + 1) ++ prettyItems depth (v :: rest) ++ newline depth ++ [']'])
  | object [] => ['\x7b', '\x7d']
  | object (f :: rest) =>
    '\x7b' :: (newline (depth + 1) ++ prettyFields depth (f :: rest) ++ newline depth ++ ['\x7d'])

def prettyItems (depth : Nat) : List Json → List Char
  | [] => []
  | [v] => v.pretty (depth + 1)
  | v :: w :: rest =>
    v.pretty (depth + 1) ++ ',' :: (newline (depth + 1) ++ prettyItems depth (w :: rest))

def prettyFields (depth : Nat) : List (String × Json) → List Char
  | [] => []
  | [(key, v)] => quote key ++ ':' :: ' ' :: v.pretty (depth + 1)
  | (key, v) :: f :: rest =>
    quote key ++ ':' :: ' ' :: (v.pretty (depth + 1) ++
      ',' :: (newline (depth + 1) ++ prettyFields depth (f :: rest)))

end

end Json
end FeatureScript
