import FeatureScript.Unicode.Ranges

/-!
# FeatureScript.Unicode.Blank

White space: the 25 code points with the `White_Space` property. Core's class is a part of it
(`isBlank_of_isWhitespace`).
-/

namespace FeatureScript
namespace Unicode

/-- Code points with the `White_Space` property. -/
def blankRanges : Ranges := [
  (0x9, 0xD), (0x20, 0x20), (0x85, 0x85), (0xA0, 0xA0), (0x1680, 0x1680), (0x2000, 0x200A),
  (0x2028, 0x2029), (0x202F, 0x202F), (0x205F, 0x205F), (0x3000, 0x3000)]

/-- White space, in the sense of the `White_Space` property. -/
def isBlank (c : Char) : Bool := blankRanges.has c.toNat

theorem isBlank_of_isWhitespace {c : Char} (h : c.isWhitespace = true) : isBlank c = true := by
  simp only [Char.isWhitespace, Bool.or_eq_true, decide_eq_true_eq] at h
  rcases h with ((h | h) | h) | h <;> subst h <;> decide

end Unicode
end FeatureScript
