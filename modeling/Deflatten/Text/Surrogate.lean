/-!
# Surrogates in text

A text is a row of characters, and a surrogate that stands alone is none. Where text may hold one it is kept as a
character that no text uses: U+DD800 to U+DDFFF stand for U+D800 to U+DFFF, and every other character for itself.
`codePoint` says what a character stands for and `charOf` which one stands for a code point.
-/

namespace Deflatten.Surrogate

/-- Whether a code point is a surrogate. -/
def isSurrogate (c : Nat) : Bool := 0xd800 ≤ c && c < 0xe000

/-- How far above a surrogate the character lies that stands for it. -/
def offset : Nat := 0xd0000

/-- The character that stands for a code point. -/
def charOf (c : Nat) : Char := Char.ofNat (if isSurrogate c then c + offset else c)

/-- The code point that a character stands for. -/
def codePoint (c : Char) : Nat := if isSurrogate (c.toNat - offset) then c.toNat - offset else c.toNat

/-- Whether a character stands for a surrogate. -/
def isHeld (c : Char) : Bool := isSurrogate (codePoint c)

/-- The text of code points. -/
def text (codePoints : List Nat) : String := String.ofList (codePoints.map charOf)

/-- The code points of a text. -/
def codePoints (s : String) : List Nat := s.toList.map codePoint

/-- Whether a text comes before another by code points. -/
def precedes (s t : String) : Bool := (codePoints s).lex (codePoints t) Nat.blt

theorem isSurrogate_iff {c : Nat} : isSurrogate c = true ↔ 0xd800 ≤ c ∧ c < 0xe000 := by
  simp [isSurrogate]

theorem isSurrogate_toNat (c : Char) : isSurrogate c.toNat = false := by
  have h : c.toNat.isValidChar := c.valid
  simp only [Nat.isValidChar] at h
  rw [Bool.eq_false_iff, Ne, isSurrogate_iff]
  omega

@[simp] theorem codePoint_charOf {c : Nat} (h : isSurrogate c = true) : codePoint (charOf c) = c := by
  have hc := isSurrogate_iff.1 h
  have hv : (c + offset).isValidChar := by simp only [Nat.isValidChar, offset]; omega
  have hn : (charOf c).toNat = c + offset := by rw [charOf, if_pos h, Char.ofNat, dif_pos hv]; rfl
  simp [codePoint, hn, h]

@[simp] theorem charOf_codePoint (c : Char) : charOf (codePoint c) = c := by
  rw [codePoint]
  split
  · next h =>
    have hc := isSurrogate_iff.1 h
    have ho : c.toNat - offset + offset = c.toNat := by omega
    simp [charOf, h, ho, Char.ofNat_toNat]
  · simp [charOf, isSurrogate_toNat, Char.ofNat_toNat]

/-- A text is told by its code points. -/
@[simp] theorem text_codePoints (s : String) : text (codePoints s) = s := by
  simp [text, codePoints, Function.comp_def]

end Deflatten.Surrogate
