import FeatureScript.Proofs.Json.Grammar

/-!
# FeatureScript.Proofs.Json.Layout

Both layouts of a value are texts of the value: the one on one line (`compact_text`) and the
indented one (`pretty_text`). They differ in white space between tokens only.
-/

namespace FeatureScript
namespace Json

/-! ## Numbers -/

/-- The digits of a number that is not zero begin with another digit. -/
theorem head?_toDigits {n : Nat} (hn : 0 < n) : (Nat.toDigits 10 n).head? ≠ some '0' := by
  have hdigit : ∀ n < 10, 0 < n → [n.digitChar].head? ≠ some '0' := by decide
  induction n using Nat.strongRecOn with
  | ind n ih =>
    rcases Nat.lt_or_ge n 10 with hlt | hge
    · rw [Nat.toDigits_of_lt_base hlt]
      exact hdigit n hlt hn
    · have hhead := ih (n / 10) (by omega) (by omega)
      rw [Nat.toDigits_of_base_le (by decide) hge]
      cases hdigits : Nat.toDigits 10 (n / 10) with
      | nil => exact absurd hdigits Nat.toDigits_ne_nil
      | cons c t => rwa [hdigits] at hhead

theorem numeral_text (n : Nat) : Numeral (numeral n) n where
  nonempty := Nat.toDigits_ne_nil
  digits _ := Nat.isDigit_of_mem_toDigits (by decide) (by decide)
  no_leading_zero h := by
    rcases Nat.eq_zero_or_pos n with rfl | hn
    · rfl
    · exact absurd h (head?_toDigits hn)
  value := Nat.ofDigitChars_ten_toDigits

/-! ## Strings -/

theorem controlEscape_text {c : Char} (h : c.toNat < 32) : CharText (controlEscape c) c := by
  have hunit : ∀ n < 32,
      codeUnit? '0' '0' (Nat.digitChar (n / 16)) (Nat.digitChar (n % 16)) = some n ∧
        !isHigh n ∧ !isLow n := by decide
  obtain ⟨hn, hhigh, hlow⟩ := hunit c.toNat h
  have htext := CharText.unit hn hhigh hlow
  rwa [Char.ofNat_toNat] at htext

theorem escapeChar_text (c : Char) : CharText (escapeChar c) c := by
  by_cases hletter : c ∈ ['"', '\\', '\x08', '\x0c', '\n', '\r', '\t']
  · simp only [List.mem_cons, List.not_mem_nil, or_false] at hletter
    rcases hletter with rfl | rfl | rfl | rfl | rfl | rfl | rfl <;> exact .escape rfl
  · simp only [List.mem_cons, List.not_mem_nil, or_false, not_or] at hletter
    obtain ⟨hquote, hslash, hb, hf, hn, hr, ht⟩ := hletter
    rw [escapeChar, if_neg hquote, if_neg hslash, if_neg hb, if_neg hf, if_neg hn, if_neg hr,
      if_neg ht]
    split
    next hcontrol => exact controlEscape_text hcontrol
    next hplain =>
      exact .plain (by simp [isPlain, hquote, hslash, Nat.le_of_not_lt hplain])

theorem escapeAll_text (s : List Char) : CharsText (s.flatMap escapeChar) s := by
  induction s with
  | nil => exact .nil
  | cons c s ih => exact .cons (escapeChar_text c) ih

theorem quote_text (s : String) : StringText (quote s) s := .quoted (escapeAll_text s.toList)

/-! ## White space -/

theorem Blank.nil : Blank [] := fun _ h => nomatch h

theorem Blank.space : Blank [' '] := fun c h => by rw [List.mem_singleton.mp h]; rfl

theorem Blank.newline (depth : Nat) : Blank (newline depth) := by
  intro c h
  rcases List.mem_cons.mp h with rfl | h
  · rfl
  · rw [List.eq_of_mem_replicate h]
    rfl

theorem Padded.bare {α : Type} {item : List Char → α → Prop} {cs : List Char} {a : α}
    (h : item cs a) : Padded item cs a := by
  have hpadded := Padded.padded Blank.nil h Blank.nil
  rwa [List.nil_append, List.append_nil] at hpadded

/-! ## One line -/

mutual

theorem compact_text : ∀ v : Json, ValueText v.compact v
  | number n => .number (numeral_text n)
  | string s => .string (quote_text s)
  | array [] => .emptyArray Blank.nil
  | array (v :: rest) => .array (compactItems_text (v :: rest) (List.cons_ne_nil _ _))
  | object [] => .emptyObject Blank.nil
  | object (f :: rest) => .object (compactFields_text (f :: rest) (List.cons_ne_nil _ _))

theorem compactItems_text : ∀ items : List Json, items ≠ [] →
    ListText (Padded ValueText) (compactItems items) items
  | [], h => absurd rfl h
  | [v], _ => .one (.bare (compact_text v))
  | v :: w :: rest, _ =>
    .cons (.bare (compact_text v)) (compactItems_text (w :: rest) (List.cons_ne_nil _ _))

theorem compactFields_text : ∀ fields : List (String × Json), fields ≠ [] →
    ListText (FieldText ValueText) (compactFields fields) fields
  | [], h => absurd rfl h
  | [(key, v)], _ => .one (.field (.bare (quote_text key)) (.bare (compact_text v)))
  | (key, v) :: f :: rest, _ => by
    have hfield := FieldText.field (.bare (quote_text key)) (.bare (compact_text v))
    have hfields := ListText.cons hfield
      (compactFields_text (f :: rest) (List.cons_ne_nil _ _))
    simpa [compactFields] using hfields

end

/-! ## Indented lines -/

/-- White space around an item is white space inside its text. -/
def Pads {α : Type} (item : List Char → α → Prop) : Prop :=
  ∀ {w cs w' : List Char} {a : α}, Blank w → item cs a → Blank w' → item (w ++ (cs ++ w')) a

theorem Blank.append {w w' : List Char} (hw : Blank w) (hw' : Blank w') : Blank (w ++ w') :=
  fun c h => (List.mem_append.mp h).elim (hw c) (hw' c)

section

variable {α : Type} {item : List Char → α → Prop}

theorem Padded.pads : Pads (Padded item) := by
  intro w cs w' a hw h hw'
  obtain @⟨u, cs, u', _, hu, h, hu'⟩ := h
  have hpadded := Padded.padded (hw.append hu) h (hu'.append hw')
  simpa only [List.append_assoc] using hpadded

theorem FieldText.pads : Pads (FieldText item) := by
  intro w cs w' f hw h hw'
  obtain @⟨ks, cs, key, a, hkey, h⟩ := h
  have hfield := FieldText.field (Padded.pads hw hkey Blank.nil) (Padded.pads Blank.nil h hw')
  simpa only [List.append_assoc, List.cons_append, List.nil_append, List.append_nil] using hfield

theorem ListText.pads (hitem : Pads item) : Pads (ListText item) := by
  intro w cs w' as hw h hw'
  induction h generalizing w with
  | one h => exact .one (hitem hw h hw')
  | cons head tail ih =>
    have hlist := ListText.cons (hitem hw head Blank.nil) (ih Blank.nil)
    simpa only [List.append_assoc, List.cons_append, List.nil_append, List.append_nil] using hlist

end

mutual

theorem pretty_text : ∀ (depth : Nat) (v : Json), ValueText (v.pretty depth) v
  | _, number n => .number (numeral_text n)
  | _, string s => .string (quote_text s)
  | _, array [] => .emptyArray Blank.nil
  | depth, array (v :: rest) => by
    have hitems := (prettyItems_text depth (v :: rest) (List.cons_ne_nil _ _))
    have harray := ValueText.array
      (ListText.pads Padded.pads (.newline (depth + 1)) hitems (.newline depth))
    simpa only [pretty, List.append_assoc] using harray
  | _, object [] => .emptyObject Blank.nil
  | depth, object (f :: rest) => by
    have hfields := (prettyFields_text depth (f :: rest) (List.cons_ne_nil _ _))
    have hobject := ValueText.object
      (ListText.pads FieldText.pads (.newline (depth + 1)) hfields (.newline depth))
    simpa only [pretty, List.append_assoc] using hobject

theorem prettyItems_text : ∀ (depth : Nat) (items : List Json), items ≠ [] →
    ListText (Padded ValueText) (prettyItems depth items) items
  | _, [], h => absurd rfl h
  | depth, [v], _ => .one (.bare (pretty_text (depth + 1) v))
  | depth, v :: w :: rest, _ => by
    have hrest := prettyItems_text depth (w :: rest) (List.cons_ne_nil _ _)
    have hitems := ListText.cons (.bare (pretty_text (depth + 1) v))
      (ListText.pads Padded.pads (.newline (depth + 1)) hrest Blank.nil)
    simpa only [prettyItems, List.append_nil] using hitems

theorem prettyFields_text : ∀ (depth : Nat) (fields : List (String × Json)), fields ≠ [] →
    ListText (FieldText ValueText) (prettyFields depth fields) fields
  | _, [], h => absurd rfl h
  | depth, [(key, v)], _ => by
    have hvalue := Padded.padded Blank.space (pretty_text (depth + 1) v) Blank.nil
    have hfield := FieldText.field (.bare (quote_text key)) hvalue
    simpa [prettyFields] using ListText.one hfield
  | depth, (key, v) :: f :: rest, _ => by
    have hvalue := Padded.padded Blank.space (pretty_text (depth + 1) v) Blank.nil
    have hfield := FieldText.field (.bare (quote_text key)) hvalue
    have hrest := prettyFields_text depth (f :: rest) (List.cons_ne_nil _ _)
    have hfields := ListText.cons hfield
      (ListText.pads FieldText.pads (.newline (depth + 1)) hrest Blank.nil)
    simpa [prettyFields] using hfields

end

end Json
end FeatureScript
