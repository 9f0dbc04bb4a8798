import FeatureScript.Unicode.Visible

/-!
# FeatureScript.Text.Literal

The text of a value as it is shown in messages: numbers and booleans plainly, strings in double
quotes with escapes, lists in brackets, records with named fields.

A character stands for itself in quotes when it is visible. The others become a two-character
escape (`\\`, `\"`, `\n`, `\r`, `\t`, `\0`) or their code point in hexadecimal (`\u{…}`).
-/

namespace FeatureScript
namespace Text

open Unicode

universe u

/-- Lower-case hexadecimal digits without leading zeros. -/
def hexDigits (n : Nat) : List Char := Nat.toDigits 16 n

/-- One character inside double quotes. -/
def escapeChar (c : Char) : List Char :=
  if c = '\x00' then ['\\', '0']
  else if c = '\t' then ['\\', 't']
  else if c = '\r' then ['\\', 'r']
  else if c = '\n' then ['\\', 'n']
  else if c = '\\' then ['\\', '\\']
  else if c = '"' then ['\\', '"']
  else if isVisible c then [c]
  else '\\' :: 'u' :: '\x7b' :: (hexDigits c.toNat ++ ['\x7d'])

/-- A string in double quotes. -/
def quote (s : String) : String := String.ofList ('"' :: (s.toList.flatMap escapeChar ++ ['"']))

/-- Types whose values have a text in messages. -/
class Literal (α : Type u) where
  literal : α → String

export Literal (literal)

instance : Literal String := ⟨quote⟩

instance : Literal Nat := ⟨fun n => toString n⟩

instance : Literal Int := ⟨fun n => toString n⟩

instance : Literal Bool := ⟨fun b => if b then "true" else "false"⟩

instance {α : Type} [Literal α] : Literal (List α) :=
  ⟨fun xs => "[" ++ ", ".intercalate (xs.map literal) ++ "]"⟩

instance {α : Type} [Literal α] : Literal (Option α) :=
  ⟨fun
    | some x => "Some(" ++ literal x ++ ")"
    | none => "None"⟩

/-- A record with its fields in order. -/
def recordText (name : String) (fields : List (String × String)) : String :=
  name ++ " \x7b " ++ ", ".intercalate (fields.map fun f => f.1 ++ ": " ++ f.2) ++ " \x7d"

/-- A record of which only some fields are shown. -/
def partialRecordText (name : String) (fields : List (String × String)) : String :=
  name ++ " \x7b " ++ ", ".intercalate (fields.map fun f => f.1 ++ ": " ++ f.2) ++ ", .. \x7d"

/-- A set, its elements in the order given. -/
def setText (elements : List String) : String :=
  "\x7b" ++ ", ".intercalate elements ++ "\x7d"

end Text
end FeatureScript
