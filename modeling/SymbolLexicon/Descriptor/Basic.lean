/-
# SymbolLexicon.Descriptor.Basic — field and method descriptors as data, and their text.

A descriptor says what a field holds, or what a method takes and returns:

    Descriptor  =  FieldType  |  "(" FieldType* ")" ( FieldType | "V" )
    FieldType   =  "["* Element
    Element     =  one of "BCDFIJSZ"  |  "L" class name ";"

The types below are the parsed form and `text` is the printer. The types are WIDER than the
grammar: they allow any number of dimensions and any text as a class name, so that class names can
be replaced by arbitrary ones. `WellFormed` singles out what the grammar allows: at most 255
dimensions, and class names that are not empty and hold none of `;`, `.` and `[`.
-/
import SymbolLexicon.Text.CodePoint

namespace SymbolLexicon

/-! ## Kinds and places -/

/-- Members of a class are fields and methods, and each kind has descriptors of its own. -/
inductive MemberKind where
  | field
  | method
deriving DecidableEq

/-- The word for the kind in messages. -/
def MemberKind.word : MemberKind → String
  | .field => "Field"
  | .method => "Method"

/-- A field type stands in a parameter list, as a result, or alone as a field descriptor. -/
inductive Place where
  | parameter
  | result
  | field
deriving DecidableEq

/-! ## Class names -/

/-- The code points that never belong to a class name inside a descriptor. -/
def CodePoint.isDelimiter (c : CodePoint) : Bool := c = ';' || c = '.' || c = '['

/-- A text that can stand between `L` and `;`. -/
def IsClassName (name : Text) : Prop := name ≠ [] ∧ ∀ c ∈ name, c.isDelimiter = false

instance (name : Text) : Decidable (IsClassName name) :=
  inferInstanceAs (Decidable (_ ∧ _))

/-! ## Types -/

/-- The types that have a letter of their own. -/
inductive BaseType where
  | byte
  | char
  | double
  | float
  | int
  | long
  | short
  | boolean
deriving DecidableEq

/-- The letter of a base type. -/
def BaseType.letter : BaseType → Char
  | .byte => 'B'
  | .char => 'C'
  | .double => 'D'
  | .float => 'F'
  | .int => 'I'
  | .long => 'J'
  | .short => 'S'
  | .boolean => 'Z'

/-- The base types, in the order of their letters. -/
def BaseType.all : List BaseType :=
  [.byte, .char, .double, .float, .int, .long, .short, .boolean]

/-- The base type with the given letter. -/
def BaseType.ofLetter? (c : CodePoint) : Option BaseType :=
  BaseType.all.find? fun b => c = b.letter

/-- What an array holds in the end, or a type that is no array. -/
inductive ElementType where
  | base (type : BaseType)
  | object (name : Text)
deriving DecidableEq

/-- An element type below `dimensions` levels of arrays. -/
structure FieldType where
  dimensions : Nat
  element : ElementType
deriving DecidableEq

/-- A field's type, or a method's parameter types and result. A method without a result type is
void. -/
inductive Descriptor where
  | field (type : FieldType)
  | method (parameters : List FieldType) (result : Option FieldType)
deriving DecidableEq

/-! ## Text -/

/-- The letter of a base type, or the class name between `L` and `;`. -/
def ElementType.text : ElementType → Text
  | .base b => [CodePoint.ofChar b.letter]
  | .object name => CodePoint.ofChar 'L' :: name ++ [CodePoint.ofChar ';']

/-- One `[` for each dimension, then the element type. -/
def FieldType.text (t : FieldType) : Text :=
  List.replicate t.dimensions (CodePoint.ofChar '[') ++ t.element.text

/-- The type of a result, or `V` when there is none. -/
def resultText : Option FieldType → Text
  | none => [CodePoint.ofChar 'V']
  | some t => t.text

/-- The descriptor as it stands in a class file. -/
def Descriptor.text : Descriptor → Text
  | .field t => t.text
  | .method ps r =>
    CodePoint.ofChar '(' :: ps.flatMap FieldType.text ++ CodePoint.ofChar ')' :: resultText r

/-- The kind of the members that have such a descriptor. -/
def Descriptor.kind : Descriptor → MemberKind
  | .field _ => .field
  | .method _ _ => .method

/-! ## What the grammar allows -/

/-- A class name must be one; a base type needs nothing. -/
def ElementType.WellFormed : ElementType → Prop
  | .base _ => True
  | .object name => IsClassName name

/-- The largest number of dimensions of an array. -/
def maxDimensions : Nat := 255

/-- At most `maxDimensions` dimensions over a well-formed element. -/
def FieldType.WellFormed (t : FieldType) : Prop :=
  t.dimensions ≤ maxDimensions ∧ t.element.WellFormed

/-- Every field type in the descriptor is well-formed. -/
def Descriptor.WellFormed : Descriptor → Prop
  | .field t => t.WellFormed
  | .method ps r => (∀ t ∈ ps, t.WellFormed) ∧ ∀ t ∈ r, t.WellFormed

instance : (e : ElementType) → Decidable e.WellFormed
  | .base _ => inferInstanceAs (Decidable True)
  | .object name => inferInstanceAs (Decidable (IsClassName name))

instance (t : FieldType) : Decidable t.WellFormed :=
  inferInstanceAs (Decidable (_ ∧ _))

instance : (d : Descriptor) → Decidable d.WellFormed
  | .field t => inferInstanceAs (Decidable t.WellFormed)
  | .method _ _ => inferInstanceAs (Decidable (_ ∧ _))

/-- A text that the grammar allows. -/
def IsDescriptor (s : Text) : Prop := ∃ d : Descriptor, d.WellFormed ∧ d.text = s

/-! ## Class names in a descriptor -/

/-- The class name in a field type, if it has one. -/
def FieldType.className? (t : FieldType) : Option Text :=
  match t.element with
  | .base _ => none
  | .object name => some name

/-- The class names of several field types, left to right, each with the place of those types. -/
def namesAt (place : Place) (ts : List FieldType) : List (Place × Text) :=
  (ts.filterMap FieldType.className?).map fun name => (place, name)

/-- Without their place, these are the class names of the field types one after the other. -/
theorem map_snd_namesAt (place : Place) (ts : List FieldType) :
    (namesAt place ts).map Prod.snd = ts.filterMap FieldType.className? := by
  simp [namesAt, Function.comp_def]

/-- The class names in a descriptor, left to right, each with its place. -/
def Descriptor.names : Descriptor → List (Place × Text)
  | .field t => namesAt .field [t]
  | .method ps r => namesAt .parameter ps ++ namesAt .result r.toList

/-- The class names in a descriptor, left to right, one for each occurrence. -/
def Descriptor.classNames (d : Descriptor) : List Text := d.names.map Prod.snd

/-! ## Replacing class names -/

/-- The field type with its class name replaced. -/
def FieldType.mapName (f : Text → Text) (t : FieldType) : FieldType :=
  match t.element with
  | .base _ => t
  | .object name => ⟨t.dimensions, .object (f name)⟩

/-- The descriptor with every class name replaced, and nothing else changed. -/
def Descriptor.mapNames (f : Text → Text) : Descriptor → Descriptor
  | .field t => .field (t.mapName f)
  | .method ps r => .method (ps.map (FieldType.mapName f)) (r.map (FieldType.mapName f))

/-- The field type with its class name replaced by the outcome of an action. -/
def FieldType.mapNameM {m : Type → Type} [Monad m] (f : Text → m Text) (t : FieldType) :
    m FieldType :=
  match t.element with
  | .base _ => pure t
  | .object name => do return ⟨t.dimensions, .object (← f name)⟩

/-- The descriptor with every class name replaced by the outcome of an action that is told the place
of the name. The actions run from left to right, once for each occurrence. -/
def Descriptor.mapNamesM {m : Type → Type} [Monad m] (f : Place → Text → m Text) :
    Descriptor → m Descriptor
  | .field t => do return .field (← t.mapNameM (f .field))
  | .method ps r => do
    let ps ← ps.mapM (FieldType.mapNameM (f .parameter))
    match r with
    | none => return .method ps none
    | some t => return .method ps (some (← t.mapNameM (f .result)))

/-- The class name of the result is the answer. -/
theorem FieldType.className?_mapName (f : Text → Text) (t : FieldType) :
    (t.mapName f).className? = t.className?.map f := by
  obtain ⟨n, e⟩ := t
  cases e <;> rfl

/-- Replacing class names keeps the kind. -/
theorem Descriptor.kind_mapNames (f : Text → Text) (d : Descriptor) :
    (d.mapNames f).kind = d.kind := by
  cases d <;> rfl

/-- The class names of the result are the answers, in order. -/
theorem Descriptor.classNames_mapNames (f : Text → Text) (d : Descriptor) :
    (d.mapNames f).classNames = d.classNames.map f := by
  have hlist : ∀ ts : List FieldType,
      (ts.map (FieldType.mapName f)).filterMap FieldType.className? =
        (ts.filterMap FieldType.className?).map f := by
    intro ts
    rw [List.filterMap_map, List.map_filterMap]
    exact congrArg (fun g => List.filterMap g ts) (funext (FieldType.className?_mapName f))
  cases d with
  | field t =>
    simp only [classNames, names, mapNames, map_snd_namesAt]
    exact hlist [t]
  | method ps r =>
    have hresult : (r.map (FieldType.mapName f)).toList = r.toList.map (FieldType.mapName f) := by
      cases r <;> rfl
    simp only [classNames, names, mapNames, List.map_append, map_snd_namesAt, hresult, hlist]

end SymbolLexicon
