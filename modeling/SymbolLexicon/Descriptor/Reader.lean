/-
# SymbolLexicon.Descriptor.Reader — reading a descriptor, and saying why a text is none.

The reader goes once from left to right. Reading a field type counts ALL leading `[` first, so
that too many dimensions are noticed even where the text ends right after them; a class name ends
at the first delimiter, which must be `;`.

A text that is no descriptor is refused with the reason AND with the class names that were
complete before the fault, because whoever replaces class names sees each one as soon as its `;`
is read. The names that are seen before a text is accepted or refused are `asked`.
-/
import SymbolLexicon.Descriptor.Basic

namespace SymbolLexicon

/-! ## Reasons -/

/-- What can be wrong inside a field type. -/
inductive Fault where
  /-- The text ends where more is needed. -/
  | truncated
  /-- There are more than `maxDimensions` leading `[`. -/
  | tooManyDimensions (count : Nat)
  /-- No type starts with this code point. -/
  | unexpected (found : CodePoint)
  /-- A `.` or `[` stands in a class name, after this part of it. -/
  | unexpectedInName (found : CodePoint) (name : Text)
  /-- Nothing stands between `L` and `;`. -/
  | emptyName
deriving DecidableEq

/-- Why a text is no descriptor. -/
inductive Malformed where
  /-- The field type in this place cannot be read. -/
  | inside (place : Place) (fault : Fault)
  /-- A descriptor ends, but the text goes on. -/
  | trailing (rest : Text)
deriving DecidableEq

/-- The reason, with the class names that were complete before it arose. -/
structure Refusal where
  asked : List (Place × Text)
  reason : Malformed
deriving DecidableEq

/-! ## Changing what is answered -/

section Answers

variable {ε α β : Type} {x : Except ε α} {f : α → β}

/-- What is answered after the change was answered before it and then changed. -/
theorem map_eq_ok_iff {b : β} : x.map f = .ok b ↔ ∃ a, x = .ok a ∧ f a = b := by
  cases x <;> simp [Except.map]

/-- What fails after the change failed before it, in the same way. -/
theorem map_eq_error_iff {e : ε} : x.map f = .error e ↔ x = .error e := by
  cases x <;> simp [Except.map]

end Answers

/-! ## Field types -/

/-- The rest of the text after the given character, if it starts with that. -/
def Text.after? (c : Char) : Text → Option Text
  | [] => none
  | x :: rest => if x = c then some rest else none

/-- Read a class name up to its `;`. -/
def readClassName (s : Text) : Except Fault (Text × Text) :=
  let name := s.takeWhile fun c => !c.isDelimiter
  match s.dropWhile fun c => !c.isDelimiter with
  | [] => .error .truncated
  | c :: rest =>
    if c ≠ CodePoint.ofChar ';' then .error (.unexpectedInName c name)
    else if name = [] then .error .emptyName
    else .ok (name, rest)

/-- Read a base type or a class name between `L` and `;`. -/
def ElementType.read : Text → Except Fault (ElementType × Text)
  | [] => .error .truncated
  | c :: rest =>
    match BaseType.ofLetter? c with
    | some b => .ok (.base b, rest)
    | none =>
      if c = CodePoint.ofChar 'L' then
        (readClassName rest).map fun (name, rest) => (.object name, rest)
      else .error (.unexpected c)

/-- Read a field type at the start of the text, and return it with the rest. -/
def FieldType.read (s : Text) : Except Fault (FieldType × Text) :=
  let dimensions := (s.takeWhile fun c => c = CodePoint.ofChar '[').length
  if maxDimensions < dimensions then .error (.tooManyDimensions dimensions)
  else
    (ElementType.read (s.dropWhile fun c => c = CodePoint.ofChar '[')).map
      fun (element, rest) => (⟨dimensions, element⟩, rest)

private theorem length_dropWhile_le (p : CodePoint → Bool) (s : Text) :
    (s.dropWhile p).length ≤ s.length :=
  (List.dropWhile_suffix p).length_le

theorem length_of_readClassName {s name rest : Text} (h : readClassName s = .ok (name, rest)) :
    rest.length < s.length := by
  have hle := length_dropWhile_le (fun c => !c.isDelimiter) s
  unfold readClassName at h
  cases hd : s.dropWhile (fun c => !c.isDelimiter) with
  | nil => simp [hd] at h
  | cons c r =>
    have hr : r = rest := by
      simp only [hd] at h
      split at h
      · cases h
      · grind
    rw [hd] at hle
    subst hr
    exact hle

theorem ElementType.length_of_read {s rest : Text} {e : ElementType}
    (h : ElementType.read s = .ok (e, rest)) : rest.length < s.length := by
  cases s with
  | nil => cases h
  | cons c r =>
    simp only [ElementType.read] at h
    split at h
    · cases h
      exact Nat.lt_succ_self _
    · split at h
      · obtain ⟨⟨name, rest'⟩, hn, hpair⟩ := map_eq_ok_iff.mp h
        obtain ⟨-, rfl⟩ := Prod.mk.inj hpair
        exact Nat.lt_succ_of_lt (length_of_readClassName hn)
      · cases h

/-- A field type is never empty, so reading one leaves less than there was. -/
theorem FieldType.length_of_read {s rest : Text} {t : FieldType}
    (h : FieldType.read s = .ok (t, rest)) : rest.length < s.length := by
  simp only [FieldType.read] at h
  split at h
  · cases h
  · obtain ⟨⟨e, rest'⟩, he, hpair⟩ := map_eq_ok_iff.mp h
    obtain ⟨-, rfl⟩ := Prod.mk.inj hpair
    exact Nat.lt_of_lt_of_le (ElementType.length_of_read he) (length_dropWhile_le _ _)

/-! ## Whole descriptors -/

/-- Read field types up to the closing `)`. The types that were read come first, then the rest
behind the `)`, or the fault of the type that cannot be read. -/
def readParameters (s : Text) : List FieldType × Except Fault Text :=
  match s.after? ')' with
  | some rest => ([], .ok rest)
  | none =>
    match h : FieldType.read s with
    | .error fault => ([], .error fault)
    | .ok (t, rest) =>
      have := FieldType.length_of_read h
      let (ts, outcome) := readParameters rest
      (t :: ts, outcome)
termination_by s.length

/-- Read a result: `V` for none, else a field type. -/
def readResult (s : Text) : Except Fault (Option FieldType × Text) :=
  match s.after? 'V' with
  | some rest => .ok (none, rest)
  | none => (FieldType.read s).map fun (t, rest) => (some t, rest)

namespace Descriptor

/-- Nothing may follow a descriptor. -/
def closing (d : Descriptor) (rest : Text) : Except Refusal Descriptor :=
  if rest = [] then .ok d else .error ⟨d.names, .trailing rest⟩

/-- Read a method descriptor behind its `(`. -/
def readMethod (s : Text) : Except Refusal Descriptor :=
  match readParameters s with
  | (ps, .error fault) => .error ⟨namesAt .parameter ps, .inside .parameter fault⟩
  | (ps, .ok s) =>
    match readResult s with
    | .error fault => .error ⟨namesAt .parameter ps, .inside .result fault⟩
    | .ok (r, rest) => closing (.method ps r) rest

/-- Read a field descriptor. -/
def readField (s : Text) : Except Refusal Descriptor :=
  match FieldType.read s with
  | .error fault => .error ⟨[], .inside .field fault⟩
  | .ok (t, rest) => closing (.field t) rest

/-- Read a descriptor. It is a method descriptor exactly if it starts with `(`. -/
def read (s : Text) : Except Refusal Descriptor :=
  match s.after? '(' with
  | some inner => readMethod inner
  | none => readField s

/-- The class names that are complete before the text is accepted or refused, each with its place,
left to right. -/
def asked (s : Text) : List (Place × Text) :=
  match read s with
  | .ok d => d.names
  | .error refusal => refusal.asked

end Descriptor

end SymbolLexicon
