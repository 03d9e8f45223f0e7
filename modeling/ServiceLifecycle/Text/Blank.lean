/-!
# Blank text

A text is blank when it consists of Unicode white space only. The ranges are
those of the property `White_Space`.
-/

namespace ServiceLifecycle.Text

/-- The code points with the property `White_Space`, as ranges with both ends included. -/
def whiteSpaceRanges : List (Nat × Nat) :=
  [(0x09, 0x0D), (0x20, 0x20), (0x85, 0x85), (0xA0, 0xA0), (0x1680, 0x1680),
   (0x2000, 0x200A), (0x2028, 0x2029), (0x202F, 0x202F), (0x205F, 0x205F),
   (0x3000, 0x3000)]

/-- Whether a character is white space. -/
def isWhiteSpace (c : Char) : Bool :=
  whiteSpaceRanges.any fun r => r.1 ≤ c.toNat && c.toNat ≤ r.2

/-- Whether a text holds nothing but white space. The empty text is blank. -/
def isBlank (s : String) : Bool := s.toList.all isWhiteSpace

/-- The characters that the core library takes for white space are among them. -/
theorem isWhiteSpace_of_core {c : Char} (h : c.isWhitespace = true) : isWhiteSpace c = true := by
  simp only [Char.isWhitespace, Bool.or_eq_true, decide_eq_true_eq] at h
  rcases h with ((rfl | rfl) | rfl) | rfl <;> decide

example : isBlank "" ∧ isBlank "\u2028 \u00a0\t" ∧ ¬ isBlank "\u200b" ∧ ¬ isBlank " a" := by
  decide

end ServiceLifecycle.Text
