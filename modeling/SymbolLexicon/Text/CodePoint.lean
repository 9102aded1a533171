/-
# SymbolLexicon.Text.CodePoint — text as a sequence of code points, surrogates included.

Names and descriptors found in class files are sequences of code points that need not form valid
Unicode: a surrogate may stand alone, and a high surrogate followed by a low one stays TWO code
points. Equality is equality of the sequences; nothing is ever normalized. `Text` is therefore a
list of `CodePoint`s and not a `String`.

Texts are ordered lexicographically by code point value, which makes them usable as keys of an
ordered index.
-/

namespace SymbolLexicon

/-! ## Code points -/

/-- A number below `0x110000`. The surrogates `0xD800` to `0xDFFF` count as code points. -/
structure CodePoint where
  value : Nat
  isValid : value < 0x110000
deriving DecidableEq

namespace CodePoint

@[ext] theorem ext {a b : CodePoint} (h : a.value = b.value) : a = b := by
  cases a
  cases b
  cases h
  rfl

/-- Every character is a code point. -/
def ofChar (c : Char) : CodePoint where
  value := c.toNat
  isValid := by
    have h := c.valid
    simp only [UInt32.isValidChar, Nat.isValidChar] at h
    simp only [Char.toNat]
    omega

instance : Coe Char CodePoint := ⟨ofChar⟩

theorem ofChar_inj {a b : Char} : ofChar a = ofChar b ↔ a = b := by
  constructor
  · intro h
    exact Char.ext (UInt32.toNat_inj.mp (congrArg CodePoint.value h))
  · intro h
    rw [h]

/-- The number read as a code point, if it is small enough to be one. -/
def ofNat? (n : Nat) : Option CodePoint :=
  if h : n < 0x110000 then some ⟨n, h⟩ else none

/-- The code points `0xD800` to `0xDFFF` are no characters. -/
def isSurrogate (c : CodePoint) : Bool := 0xD800 ≤ c.value && c.value ≤ 0xDFFF

/-- Code points are ordered by value. -/
instance : Ord CodePoint := ⟨compareOn CodePoint.value⟩

instance : Std.TransOrd CodePoint :=
  inferInstanceAs (Std.TransCmp (compareOn CodePoint.value))

instance : Std.LawfulEqOrd CodePoint where
  eq_of_compare h := CodePoint.ext (Std.LawfulEqOrd.eq_of_compare h)

end CodePoint

/-! ## Texts -/

/-- A class name, a member name or a descriptor, as it stands in a class file. -/
abbrev Text := List CodePoint

/-- The code points of a string, in order. -/
def Text.ofString (s : String) : Text := s.toList.map CodePoint.ofChar

instance : Coe String Text := ⟨Text.ofString⟩

end SymbolLexicon
