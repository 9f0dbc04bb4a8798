import FeatureScript.Proofs.Json.Grammar
import Mathlib.Data.List.TakeWhile

/-!
# FeatureScript.Proofs.Json.Reader

Reading JSON texts.

A reader takes an item off the front of a text. It is `Sound` if what it takes is a text of the
item, and `Complete` if it takes any text of an item, up to a length, that is followed by what may
follow one. Each construct of the grammar keeps both, so `parse` accepts the texts of the grammar
and no others (`parse_iff`). In particular a text stands for one value at most.
-/

namespace FeatureScript
namespace Json

/-- Takes an item off the front of a text. -/
abbrev Reads (α : Type) := List Char → Option (α × List Char)

/-! ## The reader -/

def readChar : Reads Char
  | '\\' :: 'u' :: a :: b :: c :: d :: rest =>
    match codeUnit? a b c d with
    | none => none
    | some n =>
      if isHigh n then
        match rest with
        | '\\' :: 'u' :: a :: b :: c :: d :: rest =>
          match codeUnit? a b c d with
          | none => none
          | some m => if isLow m then some (Char.ofNat (ofPair n m), rest) else none
        | _ => none
      else if isLow n then none
      else some (Char.ofNat n, rest)
  | '\\' :: letter :: rest => (escapes.lookup letter).map fun c => (c, rest)
  | c :: rest => if isPlain c then some (c, rest) else none
  | [] => none

/-- Reads the characters of a string and the quote behind them. -/
def readChars : Nat → Reads (List Char)
  | 0, _ => none
  | fuel + 1, cs =>
    match cs with
    | '"' :: rest => some ([], rest)
    | _ =>
      match readChar cs with
      | none => none
      | some (c, rest) => (readChars fuel rest).map fun (s, rest) => (c :: s, rest)

def readString (fuel : Nat) : Reads String
  | '"' :: rest => (readChars fuel rest).map fun (s, rest) => (String.ofList s, rest)
  | _ => none

def readNumeral : Reads Nat := fun cs =>
  let digits := cs.takeWhile Char.isDigit
  if digits = [] ∨ (digits.head? = some '0' ∧ digits ≠ ['0']) then none
  else some (Nat.ofDigitChars 10 digits 0, cs.dropWhile Char.isDigit)

def skipBlanks (cs : List Char) : List Char := cs.dropWhile isBlank

section

variable {α : Type}

/-- Reads an item with white space around it. -/
def readPadded (item : Reads α) : Reads α := fun cs =>
  (item (skipBlanks cs)).map fun (a, rest) => (a, skipBlanks rest)

/-- Reads items with commas between them, and what closes them. -/
def readList (item : Reads α) (close : Char) : Nat → Reads (List α)
  | 0, _ => none
  | fuel + 1, cs =>
    match item cs with
    | some (a, c :: rest) =>
      if c = ',' then (readList item close fuel rest).map fun (as, rest) => (a :: as, rest)
      else if c = close then some ([a], rest)
      else none
    | _ => none

def readField (fuel : Nat) (value : Reads α) : Reads (String × α) := fun cs =>
  match readPadded (readString fuel) cs with
  | some (key, ':' :: rest) => (readPadded value rest).map fun (a, rest) => ((key, a), rest)
  | _ => none

end

def readValue : Nat → Reads Json
  | 0, _ => none
  | fuel + 1, cs =>
    match cs with
    | '[' :: rest =>
      match skipBlanks rest with
      | ']' :: rest => some (.array [], rest)
      | _ =>
        (readList (readPadded (readValue fuel)) ']' fuel rest).map fun (vs, rest) =>
          (.array vs, rest)
    | '\x7b' :: rest =>
      match skipBlanks rest with
      | '\x7d' :: rest => some (.object [], rest)
      | _ =>
        (readList (readField fuel (readValue fuel)) '\x7d' fuel rest).map fun (fs, rest) =>
          (.object fs, rest)
    | '"' :: rest => (readString fuel ('"' :: rest)).map fun (s, rest) => (.string s, rest)
    | _ => (readNumeral cs).map fun (n, rest) => (.number n, rest)

/-- The value of a text. -/
def parse (text : String) : Option Json :=
  match readPadded (readValue (text.length + 1)) text.toList with
  | some (v, []) => some v
  | _ => none

/-! ## What is read is a text of it -/

section

variable {α : Type}

/-- What is taken off the front is a text of the item. -/
structure Sound (read : Reads α) (item : List Char → α → Prop) : Prop where
  taken : ∀ {cs a rest}, read cs = some (a, rest) → ∃ front, cs = front ++ rest ∧ item front a

theorem skipBlanks_split (cs : List Char) : ∃ w, Blank w ∧ cs = w ++ skipBlanks cs :=
  ⟨cs.takeWhile isBlank, fun _ => List.mem_takeWhile_imp, List.takeWhile_append_dropWhile.symm⟩

end

theorem readChar_sound : Sound readChar CharText := by
  refine ⟨@fun cs c rest h => ?_⟩
  unfold readChar at h
  split at h
  next a b c d after =>
    split at h
    next => cases h
    next n hn =>
      split at h
      next hhigh =>
        split at h
        next =>
          split at h
          next => cases h
          next m hm =>
            split at h
            next hlow =>
              have hpair := CharText.pair hn hm hhigh hlow
              injection h with h
              injection h with hc hrest
              subst hc hrest
              exact ⟨_, rfl, hpair⟩
            next => cases h
        next => cases h
      next hhigh =>
        split at h
        next => cases h
        next hlow =>
          have hunit := CharText.unit hn (by simpa using hhigh) (by simpa using hlow)
          cases h
          exact ⟨_, rfl, hunit⟩
  next letter after _ =>
    obtain ⟨c', hc, ⟨⟩⟩ := Option.map_eq_some_iff.mp h
    exact ⟨_, rfl, .escape hc⟩
  next =>
    split at h
    next hplain =>
      cases h
      exact ⟨_, rfl, .plain hplain⟩
    next => cases h
  next => cases h

theorem readChars_sound {fuel : Nat} {cs s rest : List Char}
    (h : readChars fuel cs = some (s, rest)) :
    ∃ front, cs = front ++ '"' :: rest ∧ CharsText front s := by
  induction fuel generalizing cs s with
  | zero => cases h
  | succ fuel ih =>
    unfold readChars at h
    split at h
    next => cases h; exact ⟨[], rfl, .nil⟩
    next =>
      split at h
      next => cases h
      next c after hc =>
        obtain ⟨⟨s', rest'⟩, htail, ⟨⟩⟩ := Option.map_eq_some_iff.mp h
        obtain ⟨front, rfl, hhead⟩ := readChar_sound.taken hc
        obtain ⟨back, rfl, htext⟩ := ih htail
        exact ⟨front ++ back, by rw [List.append_assoc], .cons hhead htext⟩

theorem readString_sound (fuel : Nat) : Sound (readString fuel) StringText := by
  refine ⟨@fun cs s rest h => ?_⟩
  unfold readString at h
  split at h
  next cs =>
    obtain ⟨⟨s', rest'⟩, hchars, ⟨⟩⟩ := Option.map_eq_some_iff.mp h
    obtain ⟨front, rfl, htext⟩ := readChars_sound hchars
    refine ⟨'"' :: (front ++ ['"']), by simp, .quoted ?_⟩
    rwa [String.toList_ofList]
  next => cases h

theorem readNumeral_sound : Sound readNumeral Numeral := by
  refine ⟨@fun cs n rest h => ?_⟩
  rw [readNumeral] at h
  split at h
  next => cases h
  next hdigits =>
    cases h
    rw [not_or, not_and_not_right] at hdigits
    exact ⟨cs.takeWhile Char.isDigit, List.takeWhile_append_dropWhile.symm, hdigits.1,
      fun _ => List.mem_takeWhile_imp, hdigits.2, rfl⟩

section

variable {α : Type} {read : Reads α} {item : List Char → α → Prop}

theorem Sound.padded (h : Sound read item) : Sound (readPadded read) (Padded item) := by
  refine ⟨@fun cs a rest hread => ?_⟩
  obtain ⟨⟨a', after⟩, hitem, ⟨⟩⟩ := Option.map_eq_some_iff.mp hread
  obtain ⟨w, hw, hcs⟩ := skipBlanks_split cs
  obtain ⟨front, hfront, htext⟩ := h.taken hitem
  obtain ⟨w', hw', hafter⟩ := skipBlanks_split after
  refine ⟨_, ?_, .padded hw htext hw'⟩
  calc cs = w ++ (front ++ (w' ++ skipBlanks after)) := by rw [← hafter, ← hfront, ← hcs]
    _ = _ := by simp only [List.append_assoc]

theorem Sound.list (h : Sound read item) {close : Char} {fuel : Nat} {cs : List Char} {as : List α}
    {rest : List Char} (hread : readList read close fuel cs = some (as, rest)) :
    ∃ front, cs = front ++ close :: rest ∧ ListText item front as := by
  induction fuel generalizing cs as with
  | zero => cases hread
  | succ fuel ih =>
    rw [readList] at hread
    split at hread
    next a c after hitem =>
      obtain ⟨front, rfl, hhead⟩ := h.taken hitem
      split at hread
      next hc =>
        obtain ⟨⟨as', rest'⟩, hread, ⟨⟩⟩ := Option.map_eq_some_iff.mp hread
        obtain ⟨back, rfl, htail⟩ := ih hread
        exact ⟨front ++ ',' :: back, by simp [hc], .cons hhead htail⟩
      next =>
        split at hread
        next hclose => cases hread; exact ⟨front, by rw [hclose], .one hhead⟩
        next => cases hread
    next => cases hread

theorem Sound.field (h : Sound read item) (fuel : Nat) :
    Sound (readField fuel read) (FieldText item) := by
  refine ⟨@fun cs f rest hread => ?_⟩
  rw [readField] at hread
  split at hread
  next key after hkey =>
    obtain ⟨⟨a, rest'⟩, hvalue, ⟨⟩⟩ := Option.map_eq_some_iff.mp hread
    obtain ⟨ks, rfl, hkeyText⟩ := (readString_sound fuel).padded.taken hkey
    obtain ⟨front, rfl, htext⟩ := h.padded.taken hvalue
    exact ⟨ks ++ ':' :: front, by simp, .field hkeyText htext⟩
  next => cases hread

end

theorem readValue_sound (fuel : Nat) : Sound (readValue fuel) ValueText := by
  induction fuel with
  | zero => exact ⟨fun h => by cases h⟩
  | succ fuel ih =>
    refine ⟨@fun cs v rest h => ?_⟩
    unfold readValue at h
    split at h
    next body =>
      obtain ⟨w, hw, hbody⟩ := skipBlanks_split body
      split at h
      next after hafter =>
        cases h
        exact ⟨'[' :: (w ++ [']']), by rw [hbody, hafter]; simp, .emptyArray hw⟩
      next =>
        obtain ⟨⟨vs, rest'⟩, hread, ⟨⟩⟩ := Option.map_eq_some_iff.mp h
        obtain ⟨front, rfl, htext⟩ := ih.padded.list hread
        exact ⟨'[' :: (front ++ [']']), by simp, .array htext⟩
    next body =>
      obtain ⟨w, hw, hbody⟩ := skipBlanks_split body
      split at h
      next after hafter =>
        cases h
        exact ⟨'\x7b' :: (w ++ ['\x7d']), by rw [hbody, hafter]; simp, .emptyObject hw⟩
      next =>
        obtain ⟨⟨fs, rest'⟩, hread, ⟨⟩⟩ := Option.map_eq_some_iff.mp h
        obtain ⟨front, rfl, htext⟩ := (ih.field fuel).list hread
        exact ⟨'\x7b' :: (front ++ ['\x7d']), by simp, .object htext⟩
    next body =>
      obtain ⟨⟨s, rest'⟩, hread, ⟨⟩⟩ := Option.map_eq_some_iff.mp h
      obtain ⟨front, hfront, htext⟩ := (readString_sound fuel).taken hread
      exact ⟨front, hfront, .string htext⟩
    next =>
      obtain ⟨⟨n, rest'⟩, hread, ⟨⟩⟩ := Option.map_eq_some_iff.mp h
      obtain ⟨front, rfl, htext⟩ := readNumeral_sound.taken hread
      exact ⟨front, rfl, .number htext⟩

/-! ## Any text of an item is read -/

/-- What may follow a value. -/
def NoDigit (rest : List Char) : Prop := ∀ c ∈ rest.head?, c.isDigit = false

/-- What may follow a value with white space around it. -/
def Ends (rest : List Char) : Prop := ∀ c ∈ rest.head?, c.isDigit = false ∧ isBlank c = false

/-- How a value or a key begins: with no white space, and with nothing that closes a list. -/
def Opens (cs : List Char) : Prop :=
  ∃ c t, cs = c :: t ∧ isBlank c = false ∧ c ≠ ']' ∧ c ≠ '\x7d'

section

variable {α : Type}

/-- Any text of an item, up to a length, is taken off the front of a text. -/
structure Complete (size : Nat) (follow : List Char → Prop) (read : Reads α)
    (item : List Char → α → Prop) : Prop where
  takes : ∀ {cs a rest}, item cs a → cs.length ≤ size → follow rest →
    read (cs ++ rest) = some (a, rest)

end

theorem skipBlanks_append {w : List Char} (hw : Blank w) (cs : List Char) :
    skipBlanks (w ++ cs) = skipBlanks cs := List.dropWhile_append_of_pos hw

theorem Opens.skipBlanks_append {cs : List Char} (h : Opens cs) (rest : List Char) :
    skipBlanks (cs ++ rest) = cs ++ rest := by
  obtain ⟨c, t, rfl, hc, -⟩ := h
  simp [skipBlanks, hc]

theorem Ends.skipBlanks {rest : List Char} (h : Ends rest) : skipBlanks rest = rest := by
  cases rest with
  | nil => rfl
  | cons c t => simp [Json.skipBlanks, (h c rfl).2]

theorem isDigit_of_isBlank {c : Char} (h : isBlank c = true) : c.isDigit = false := by
  simp only [isBlank, Bool.or_eq_true, decide_eq_true_eq] at h
  rcases h with ((rfl | rfl) | rfl) | rfl <;> rfl

/-- White space in front of what may follow a value with it may follow a value without. -/
theorem Ends.noDigit {w rest : List Char} (hw : Blank w) (h : Ends rest) : NoDigit (w ++ rest) := by
  cases w with
  | nil => exact fun c hc => (h c hc).1
  | cons b w =>
    rintro c ⟨⟩
    exact isDigit_of_isBlank (hw b List.mem_cons_self)

theorem CharText.readChar {cs : List Char} {c : Char} (h : CharText cs c) (rest : List Char) :
    readChar (cs ++ rest) = some (c, rest) := by
  cases h with
  | plain h =>
    have hc : c ≠ '\\' := by rintro rfl; revert h; decide
    simp [Json.readChar, h, hc]
  | escape h =>
    rename_i letter
    have hu : letter ≠ 'u' := by rintro rfl; cases h
    simp [Json.readChar, h, hu]
  | unit hn high low => simp_all [Json.readChar]
  | pair hn hm high low => simp_all [Json.readChar]

theorem CharText.ne_quote {cs : List Char} {c : Char} (h : CharText cs c) :
    ∃ b t, cs = b :: t ∧ b ≠ '"' := by
  cases h with
  | plain h => exact ⟨_, _, rfl, by rintro rfl; revert h; decide⟩
  | _ => exact ⟨_, _, rfl, by decide⟩

theorem CharsText.readChars {cs s : List Char} (h : CharsText cs s) {fuel : Nat}
    (hfuel : cs.length < fuel) (rest : List Char) :
    readChars fuel (cs ++ '"' :: rest) = some (s, rest) := by
  induction h generalizing fuel with
  | nil =>
    obtain _ | fuel := fuel
    · cases hfuel
    · rfl
  | @cons cs ds c s head tail ih =>
    obtain _ | fuel := fuel
    · cases hfuel
    obtain ⟨b, t, rfl, hb⟩ := head.ne_quote
    have hc := head.readChar (ds ++ '"' :: rest)
    have htail := @ih fuel (by simp at hfuel; omega)
    rw [List.append_assoc]
    unfold Json.readChars
    split
    next heq => cases heq; exact absurd rfl hb
    next => simp only [hc, htail, Option.map_some]

theorem readString_complete (fuel : Nat) (follow : List Char → Prop) :
    Complete (fuel + 1) follow (readString fuel) StringText := by
  refine ⟨@fun cs s rest h hsize _ => ?_⟩
  obtain @⟨inner, _, hchars⟩ := h
  have hfuel : inner.length < fuel := by simp at hsize; omega
  simp [readString, hchars.readChars hfuel]

theorem readNumeral_complete (size : Nat) : Complete size NoDigit readNumeral Numeral := by
  refine ⟨@fun cs n rest h _ hrest => ?_⟩
  have hrest' : rest.takeWhile Char.isDigit = [] ∧ rest.dropWhile Char.isDigit = rest := by
    cases rest with
    | nil => exact ⟨rfl, rfl⟩
    | cons c t => simp [hrest c rfl]
  have hdigits := h.digits
  rw [readNumeral, List.takeWhile_append_of_pos h.digits, List.dropWhile_append_of_pos h.digits,
    hrest'.1, hrest'.2, List.append_nil]
  simp [h.nonempty, h.value]
  exact h.no_leading_zero

section

variable {α : Type} {read : Reads α} {item : List Char → α → Prop} {size : Nat}

theorem Complete.padded (h : Complete size NoDigit read item)
    (hopens : ∀ {cs a}, item cs a → Opens cs) :
    Complete size Ends (readPadded read) (Padded item) := by
  refine ⟨@fun cs a rest htext hsize hrest => ?_⟩
  obtain @⟨w, cs, w', _, hw, htext, hw'⟩ := htext
  have hitem := h.takes htext (by simp at hsize; omega) (hrest.noDigit hw')
  rw [readPadded, List.append_assoc, skipBlanks_append hw, List.append_assoc,
    (hopens htext).skipBlanks_append, hitem]
  simp [skipBlanks_append hw', hrest.skipBlanks]

theorem Padded.opens (hopens : ∀ {cs a}, item cs a → Opens cs) {cs : List Char} {a : α}
    (h : Padded item cs a) (rest : List Char) : Opens (skipBlanks (cs ++ rest)) := by
  obtain @⟨w, cs, w', _, hw, h, -⟩ := h
  obtain ⟨c, t, hcs, hc⟩ := hopens h
  rw [List.append_assoc, skipBlanks_append hw, List.append_assoc, (hopens h).skipBlanks_append, hcs]
  exact ⟨c, _, rfl, hc⟩

theorem StringText.opens {cs : List Char} {s : String} (h : StringText cs s) : Opens cs := by
  cases h
  exact ⟨'"', _, rfl, by decide⟩

theorem FieldText.opens {cs : List Char} {f : String × α} (h : FieldText item cs f)
    (rest : List Char) : Opens (skipBlanks (cs ++ rest)) := by
  obtain ⟨hkey, -⟩ := h
  rw [List.append_assoc]
  exact hkey.opens StringText.opens _

theorem ListText.opens (hopens : ∀ {cs a}, item cs a → ∀ rest, Opens (skipBlanks (cs ++ rest)))
    {cs : List Char} {as : List α} (h : ListText item cs as) (rest : List Char) :
    Opens (skipBlanks (cs ++ rest)) := by
  cases h with
  | one h => exact hopens h rest
  | cons head tail => rw [List.append_assoc]; exact hopens head _

theorem Complete.list (h : Complete size Ends read item) {close : Char}
    (hclose : close.isDigit = false ∧ isBlank close = false) (hcomma : close ≠ ',')
    {cs : List Char} {as : List α} (htext : ListText item cs as) (hsize : cs.length ≤ size)
    {fuel : Nat} (hfuel : cs.length < fuel) (rest : List Char) :
    readList read close fuel (cs ++ close :: rest) = some (as, rest) := by
  induction htext generalizing fuel with
  | @one cs a hitem =>
    obtain _ | fuel := fuel
    · cases hfuel
    have hread : read (cs ++ close :: rest) = some (a, close :: rest) :=
      h.takes hitem hsize (by rintro c ⟨⟩; exact hclose)
    simp [readList, hread, hcomma]
  | @cons cs ds a as head tail ih =>
    obtain _ | fuel := fuel
    · cases hfuel
    rw [List.length_append, List.length_cons] at hsize hfuel
    have hread : read (cs ++ ',' :: (ds ++ close :: rest)) =
        some (a, ',' :: (ds ++ close :: rest)) :=
      h.takes head (by omega) (by rintro c ⟨⟩; decide)
    have htail := @ih (by omega) fuel (by omega)
    rw [List.append_assoc, List.cons_append]
    simp [readList, hread, htail]

theorem Complete.field (h : Complete size NoDigit read item)
    (hopens : ∀ {cs a}, item cs a → Opens cs) {fuel : Nat} (hfuel : size ≤ fuel + 1) :
    Complete size Ends (readField fuel read) (FieldText item) := by
  refine ⟨@fun cs f rest htext hsize hrest => ?_⟩
  obtain @⟨ks, cs, key, a, hkey, hvalue⟩ := htext
  rw [List.length_append, List.length_cons] at hsize
  have hkeyRead : readPadded (readString fuel) (ks ++ ':' :: (cs ++ rest)) =
      some (key, ':' :: (cs ++ rest)) :=
    ((readString_complete fuel NoDigit).padded StringText.opens).takes hkey (by omega)
      (by rintro c ⟨⟩; decide)
  have hvalueRead := (h.padded hopens).takes hvalue (by omega) hrest
  rw [readField, List.append_assoc, List.cons_append, hkeyRead]
  simp [hvalueRead]

end

theorem Numeral.head {cs : List Char} {n : Nat} (h : Numeral cs n) :
    ∃ c t, cs = c :: t ∧ c.isDigit = true := by
  cases cs with
  | nil => exact absurd rfl h.nonempty
  | cons c t => exact ⟨c, t, rfl, h.digits c List.mem_cons_self⟩

theorem ValueText.opens {cs : List Char} {v : Json} (h : ValueText cs v) : Opens cs := by
  cases h with
  | number h =>
    obtain ⟨c, t, rfl, hc⟩ := h.head
    have hblank : isBlank c = false :=
      Bool.eq_false_iff.mpr fun h => by simp [isDigit_of_isBlank h] at hc
    refine ⟨c, t, rfl, hblank, ?_, ?_⟩ <;> (rintro rfl; cases hc)
  | string h => exact h.opens
  | _ => exact ⟨_, _, rfl, by decide⟩

theorem readValue_complete (fuel : Nat) : Complete fuel NoDigit (readValue fuel) ValueText := by
  -- Each list or object takes two brackets, so what is inside it is shorter than the fuel.
  induction fuel with
  | zero =>
    refine ⟨@fun cs v rest h hsize _ => ?_⟩
    obtain ⟨c, t, rfl, -⟩ := h.opens
    cases hsize
  | succ fuel ih =>
    refine ⟨@fun cs v rest h hsize hrest => ?_⟩
    cases h with
    | number h =>
      have hread := (readNumeral_complete _).takes h le_rfl hrest
      obtain ⟨c, t, rfl, hc⟩ := h.head
      unfold readValue
      split
      next heq => cases heq; cases hc
      next heq => cases heq; cases hc
      next heq => cases heq; cases hc
      next => rw [hread]; rfl
    | string h =>
      have hread := (readString_complete fuel NoDigit).takes h hsize hrest
      obtain @⟨inner, _, -⟩ := h
      rw [List.cons_append] at hread ⊢
      simp only [readValue, hread, Option.map_some]
    | @emptyArray w hw =>
      have hskip : skipBlanks (w ++ [']'] ++ rest) = ']' :: rest := by
        rw [List.append_assoc, skipBlanks_append hw]
        rfl
      rw [List.cons_append]
      simp only [readValue, hskip]
    | @array body vs h =>
      have hbody : '[' :: (body ++ [']']) ++ rest = '[' :: (body ++ ']' :: rest) := by simp
      have hsize : body.length < fuel := by simp at hsize; omega
      have hread : readList (readPadded (readValue fuel)) ']' fuel (body ++ ']' :: rest) =
          some (vs, rest) :=
        (ih.padded ValueText.opens).list (by decide) (by decide) h hsize.le hsize rest
      obtain ⟨c, t, hskip, -, hc, -⟩ := h.opens (Padded.opens ValueText.opens) (']' :: rest)
      rw [hbody]
      simp only [readValue, hskip]
      split
      next heq => cases heq; exact absurd rfl hc
      next => rw [hread]; rfl
    | @emptyObject w hw =>
      have hskip : skipBlanks (w ++ ['\x7d'] ++ rest) = '\x7d' :: rest := by
        rw [List.append_assoc, skipBlanks_append hw]
        rfl
      rw [List.cons_append]
      simp only [readValue, hskip]
    | @object body fields h =>
      have hbody : '\x7b' :: (body ++ ['\x7d']) ++ rest = '\x7b' :: (body ++ '\x7d' :: rest) := by
        simp
      have hsize : body.length < fuel := by simp at hsize; omega
      have hread :
          readList (readField fuel (readValue fuel)) '\x7d' fuel (body ++ '\x7d' :: rest) =
            some (fields, rest) :=
        (ih.field ValueText.opens fuel.le_succ).list (by decide) (by decide) h hsize.le hsize rest
      obtain ⟨c, t, hskip, -, -, hc⟩ := h.opens FieldText.opens ('\x7d' :: rest)
      rw [hbody]
      simp only [readValue, hskip]
      split
      next heq => cases heq; exact absurd rfl hc
      next => rw [hread]; rfl

/-! ## Whole texts -/

/-- What is read of a whole text is the value that the text stands for. -/
theorem parse_iff {text : String} {v : Json} :
    parse text = some v ↔ Padded ValueText text.toList v := by
  constructor
  · intro h
    rw [parse] at h
    split at h
    next heq =>
      cases h
      obtain ⟨front, hfront, htext⟩ := (readValue_sound _).padded.taken heq
      rwa [hfront, List.append_nil]
    next => cases h
  · intro h
    have hread : readPadded (readValue (text.length + 1)) (text.toList ++ []) = some (v, []) :=
      ((readValue_complete _).padded ValueText.opens).takes h text.length.le_succ
        (by rintro c ⟨⟩)
    rw [List.append_nil] at hread
    rw [parse, hread]

/-- A text stands for one value at most. -/
theorem Padded.unique {text : String} {v w : Json} (hv : Padded ValueText text.toList v)
    (hw : Padded ValueText text.toList w) : v = w :=
  Option.some.inj ((parse_iff.mpr hv).symm.trans (parse_iff.mpr hw))

end Json
end FeatureScript
