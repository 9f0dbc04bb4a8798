import FeatureScript.Report.Json

/-!
# FeatureScript.Proofs.Json.Grammar

The grammar of JSON texts, for the values that there are: natural numbers, strings, arrays and
objects. Each relation is between a text and what it stands for. A text may have white space around
its tokens, and a string may have any of its characters escaped, those beyond U+FFFF as a surrogate
pair.
-/

namespace FeatureScript
namespace Json

/-! ## Strings -/

/-- The value of a hexadecimal digit. -/
def hexDigit? (c : Char) : Option Nat :=
  if c.isDigit then some (c.toNat - 48)
  else if 'a' ≤ c ∧ c ≤ 'f' then some (c.toNat - 87)
  else if 'A' ≤ c ∧ c ≤ 'F' then some (c.toNat - 55)
  else none

/-- The value of four hexadecimal digits. -/
def codeUnit? (a b c d : Char) : Option Nat :=
  match hexDigit? a, hexDigit? b, hexDigit? c, hexDigit? d with
  | some a, some b, some c, some d => some (((a * 16 + b) * 16 + c) * 16 + d)
  | _, _, _, _ => none

/-- The code units that open a surrogate pair. -/
def isHigh (n : Nat) : Bool := decide (0xD800 ≤ n ∧ n < 0xDC00)

/-- The code units that close a surrogate pair. -/
def isLow (n : Nat) : Bool := decide (0xDC00 ≤ n ∧ n < 0xE000)

/-- The code point of a surrogate pair. -/
def ofPair (high low : Nat) : Nat := 0x10000 + (high - 0xD800) * 0x400 + (low - 0xDC00)

/-- The letters behind a backslash that stand for a character. -/
def escapes : List (Char × Char) :=
  [('"', '"'), ('\\', '\\'), ('/', '/'), ('b', '\x08'), ('f', '\x0c'), ('n', '\n'), ('r', '\r'),
    ('t', '\t')]

/-- The characters that stand for themselves in a string. -/
def isPlain (c : Char) : Bool := decide (32 ≤ c.toNat) && c != '"' && c != '\\'

/-- A text of one character inside a string. -/
inductive CharText : List Char → Char → Prop
  | plain {c : Char} (h : isPlain c) : CharText [c] c
  | escape {letter c : Char} (h : escapes.lookup letter = some c) : CharText ['\\', letter] c
  | unit {a b c d : Char} {n : Nat} (hn : codeUnit? a b c d = some n) (high : !isHigh n)
      (low : !isLow n) : CharText ['\\', 'u', a, b, c, d] (Char.ofNat n)
  | pair {a b c d a' b' c' d' : Char} {n m : Nat} (hn : codeUnit? a b c d = some n)
      (hm : codeUnit? a' b' c' d' = some m) (high : isHigh n) (low : isLow m) :
      CharText ['\\', 'u', a, b, c, d, '\\', 'u', a', b', c', d'] (Char.ofNat (ofPair n m))

/-- A text of the characters of a string. -/
inductive CharsText : List Char → List Char → Prop
  | nil : CharsText [] []
  | cons {cs ds : List Char} {c : Char} {s : List Char} (head : CharText cs c)
      (tail : CharsText ds s) : CharsText (cs ++ ds) (c :: s)

/-- A text of a string: its characters between quotes. -/
inductive StringText : List Char → String → Prop
  | quoted {cs : List Char} {s : String} (h : CharsText cs s.toList) :
      StringText ('"' :: (cs ++ ['"'])) s

/-! ## Numbers -/

/-- A text of a number: decimal digits, without zeros in front. -/
structure Numeral (cs : List Char) (n : Nat) : Prop where
  nonempty : cs ≠ []
  digits : ∀ c ∈ cs, c.isDigit
  no_leading_zero : cs.head? = some '0' → cs = ['0']
  value : Nat.ofDigitChars 10 cs 0 = n

/-! ## Values -/

def isBlank (c : Char) : Bool := c = ' ' || c = '\t' || c = '\n' || c = '\r'

/-- White space between tokens. -/
def Blank (cs : List Char) : Prop := ∀ c ∈ cs, isBlank c

section

variable {α : Type}

/-- A text with white space around it. -/
inductive Padded (item : List Char → α → Prop) : List Char → α → Prop
  | padded {w cs w' : List Char} {a : α} (before : Blank w) (h : item cs a) (after : Blank w') :
      Padded item (w ++ (cs ++ w')) a

/-- A text of some items, at least one, with commas between them. -/
inductive ListText (item : List Char → α → Prop) : List Char → List α → Prop
  | one {cs : List Char} {a : α} (h : item cs a) : ListText item cs [a]
  | cons {cs ds : List Char} {a : α} {as : List α} (head : item cs a)
      (tail : ListText item ds as) : ListText item (cs ++ ',' :: ds) (a :: as)

/-- A text of a field: its key, a colon and its value. -/
inductive FieldText (value : List Char → α → Prop) : List Char → String × α → Prop
  | field {ks cs : List Char} {key : String} {a : α} (hkey : Padded StringText ks key)
      (h : Padded value cs a) : FieldText value (ks ++ ':' :: cs) (key, a)

end

/-- A text of a value. -/
inductive ValueText : List Char → Json → Prop
  | number {cs : List Char} {n : Nat} (h : Numeral cs n) : ValueText cs (.number n)
  | string {cs : List Char} {s : String} (h : StringText cs s) : ValueText cs (.string s)
  | emptyArray {w : List Char} (h : Blank w) : ValueText ('[' :: (w ++ [']'])) (.array [])
  | array {cs : List Char} {vs : List Json} (h : ListText (Padded ValueText) cs vs) :
      ValueText ('[' :: (cs ++ [']'])) (.array vs)
  | emptyObject {w : List Char} (h : Blank w) :
      ValueText ('\x7b' :: (w ++ ['\x7d'])) (.object [])
  | object {cs : List Char} {fields : List (String × Json)}
      (h : ListText (FieldText ValueText) cs fields) :
      ValueText ('\x7b' :: (cs ++ ['\x7d'])) (.object fields)

end Json
end FeatureScript
