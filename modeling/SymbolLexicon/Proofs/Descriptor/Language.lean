/-
# SymbolLexicon.Proofs.Descriptor.Language — descriptors as a language of texts.

The parsed form with its printer says what a descriptor is by way of data. The rules of this module
say it of texts alone, and collect the class names from left to right:

    Descriptor  →  FieldType  |  "(" FieldTypes ")" "V"  |  "(" FieldTypes ")" FieldType
    FieldTypes  →  ε  |  FieldType FieldTypes
    FieldType   →  "["ⁿ letter  |  "["ⁿ "L" name ";"          where n ≤ 255

`Grammar.derives_iff` says that both describe the same texts, kinds and class names. Hence `check`
and `classNamesOf` accept exactly what the rules derive.
-/
import SymbolLexicon.Proofs.Descriptor.Substitution

namespace SymbolLexicon

namespace Grammar

/-! ## Rules -/

/-- The letters of the base types. -/
def letters : List Char := ['B', 'C', 'D', 'F', 'I', 'J', 'S', 'Z']

/-- The text is a field type with these class names, which are one or none. -/
inductive DerivesType : Text → List Text → Prop
  | letter {n : Nat} {c : Char} : n ≤ 255 → c ∈ letters →
      DerivesType (List.replicate n (CodePoint.ofChar '[') ++ [CodePoint.ofChar c]) []
  | name {n : Nat} {x : Text} : n ≤ 255 → x ≠ [] →
      (∀ c ∈ x, c ≠ CodePoint.ofChar ';' ∧ c ≠ CodePoint.ofChar '.' ∧ c ≠ CodePoint.ofChar '[') →
      DerivesType (List.replicate n (CodePoint.ofChar '[') ++
        (CodePoint.ofChar 'L' :: x ++ [CodePoint.ofChar ';'])) [x]

/-- The text is a row of field types with these class names. -/
inductive DerivesTypes : Text → List Text → Prop
  | nil : DerivesTypes [] []
  | cons {s t : Text} {xs ys : List Text} : DerivesType s xs → DerivesTypes t ys →
      DerivesTypes (s ++ t) (xs ++ ys)

/-- The text is a descriptor of the kind with these class names. -/
inductive Derives : MemberKind → Text → List Text → Prop
  | field {s : Text} {xs : List Text} : DerivesType s xs → Derives .field s xs
  | void {s : Text} {xs : List Text} : DerivesTypes s xs →
      Derives .method
        (CodePoint.ofChar '(' :: s ++ [CodePoint.ofChar ')', CodePoint.ofChar 'V']) xs
  | result {s t : Text} {xs ys : List Text} : DerivesTypes s xs → DerivesType t ys →
      Derives .method (CodePoint.ofChar '(' :: s ++ CodePoint.ofChar ')' :: t) (xs ++ ys)

/-! ## Rules and data -/

theorem mem_letters_iff {c : Char} : c ∈ letters ↔ ∃ b : BaseType, b.letter = c := by
  have hletters : letters = BaseType.all.map BaseType.letter := rfl
  have hall : ∀ b : BaseType, b ∈ BaseType.all := by
    intro b
    cases b <;> decide
  simp only [hletters, List.mem_map, hall, true_and]

theorem derivesType_iff {s : Text} {xs : List Text} :
    DerivesType s xs ↔
      ∃ t : FieldType, t.WellFormed ∧ t.text = s ∧ t.className?.toList = xs := by
  refine ⟨?_, ?_⟩
  · intro h
    cases h with
    | @letter n c hn hc =>
      obtain ⟨b, rfl⟩ := mem_letters_iff.mp hc
      exact ⟨⟨n, .base b⟩, ⟨hn, trivial⟩, rfl, rfl⟩
    | @name n x hn hne hplain =>
      refine ⟨⟨n, .object x⟩, ⟨hn, hne, ?_⟩, rfl, rfl⟩
      intro c hc
      exact CodePoint.isDelimiter_eq_false_iff.mpr (hplain c hc)
  · rintro ⟨⟨n, e⟩, ⟨hn, he⟩, rfl, rfl⟩
    cases e with
    | base b => exact .letter hn (mem_letters_iff.mpr ⟨b, rfl⟩)
    | object x =>
      obtain ⟨hne, hplain⟩ := he
      refine .name hn hne ?_
      intro c hc
      exact CodePoint.isDelimiter_eq_false_iff.mp (hplain c hc)

theorem derivesTypes_iff {s : Text} {xs : List Text} :
    DerivesTypes s xs ↔
      ∃ ts : List FieldType, (∀ t ∈ ts, t.WellFormed) ∧ ts.flatMap FieldType.text = s ∧
        ts.filterMap FieldType.className? = xs := by
  simp only [List.filterMap_eq_flatMap_toList]
  refine ⟨?_, ?_⟩
  · intro h
    induction h with
    | nil => exact ⟨[], by simp, rfl, rfl⟩
    | cons h _ ih =>
      obtain ⟨t, ht, rfl, rfl⟩ := derivesType_iff.mp h
      obtain ⟨ts, hts, rfl, rfl⟩ := ih
      refine ⟨t :: ts, ?_, List.flatMap_cons, List.flatMap_cons⟩
      intro u hu
      rcases List.mem_cons.mp hu with rfl | hu
      · exact ht
      · exact hts u hu
  · rintro ⟨ts, hts, rfl, rfl⟩
    induction ts with
    | nil => exact .nil
    | cons t ts ih =>
      have hhead : DerivesType t.text t.className?.toList :=
        derivesType_iff.mpr ⟨t, hts t List.mem_cons_self, rfl, rfl⟩
      have htail := ih fun u hu => hts u (List.mem_cons_of_mem _ hu)
      rw [List.flatMap_cons, List.flatMap_cons]
      exact .cons hhead htail

/-- The rules derive exactly the texts of well-formed descriptors, with their kind and class
names. -/
theorem derives_iff {kind : MemberKind} {s : Text} {xs : List Text} :
    Derives kind s xs ↔
      ∃ d : Descriptor, d.WellFormed ∧ d.text = s ∧ d.kind = kind ∧ d.classNames = xs := by
  -- the class names of a descriptor are those of its parameters and then that of its result
  have hfield : ∀ t, (Descriptor.field t).classNames = t.className?.toList := by
    simp [Descriptor.classNames_eq_filterMap, Descriptor.fieldTypes,
      List.filterMap_eq_flatMap_toList]
  have hvoid : ∀ ps, (Descriptor.method ps none).classNames =
      ps.filterMap FieldType.className? := by
    simp [Descriptor.classNames_eq_filterMap, Descriptor.fieldTypes]
  have hresult : ∀ ps t, (Descriptor.method ps (some t)).classNames =
      ps.filterMap FieldType.className? ++ t.className?.toList := by
    simp [Descriptor.classNames_eq_filterMap, Descriptor.fieldTypes,
      List.filterMap_eq_flatMap_toList]
  refine ⟨?_, ?_⟩
  · intro h
    cases h with
    | field h =>
      obtain ⟨t, ht, rfl, rfl⟩ := derivesType_iff.mp h
      exact ⟨.field t, ht, rfl, rfl, hfield t⟩
    | void h =>
      obtain ⟨ps, hps, rfl, rfl⟩ := derivesTypes_iff.mp h
      exact ⟨.method ps none, ⟨hps, by simp⟩, rfl, rfl, hvoid ps⟩
    | result h h' =>
      obtain ⟨ps, hps, rfl, rfl⟩ := derivesTypes_iff.mp h
      obtain ⟨t, ht, rfl, rfl⟩ := derivesType_iff.mp h'
      exact ⟨.method ps (some t), ⟨hps, by simpa using ht⟩, rfl, rfl, hresult ps t⟩
  · rintro ⟨d, hd, rfl, rfl, rfl⟩
    cases d with
    | field t =>
      rw [hfield]
      exact .field (derivesType_iff.mpr ⟨t, hd, rfl, rfl⟩)
    | method ps r =>
      have hps := derivesTypes_iff.mpr ⟨ps, hd.1, rfl, rfl⟩
      cases r with
      | none =>
        rw [hvoid]
        exact .void hps
      | some t =>
        rw [hresult]
        exact .result hps (derivesType_iff.mpr ⟨t, hd.2 t rfl, rfl, rfl⟩)

end Grammar

namespace Descriptor

theorem check_eq_ok_iff_derives {s : Text} {kind : MemberKind} :
    check s = .ok kind ↔ ∃ xs, Grammar.Derives kind s xs := by
  simp only [check_eq_ok_iff, Grammar.derives_iff]
  refine ⟨?_, ?_⟩
  · rintro ⟨d, hd, htext, hkind⟩
    exact ⟨d.classNames, d, hd, htext, hkind, rfl⟩
  · rintro ⟨_, d, hd, htext, hkind, -⟩
    exact ⟨d, hd, htext, hkind⟩

theorem classNamesOf_eq_ok_iff_derives {s : Text} {xs : List Text} :
    classNamesOf s = .ok xs ↔ ∃ kind, Grammar.Derives kind s xs := by
  simp only [Grammar.derives_iff]
  refine ⟨?_, ?_⟩
  · intro h
    unfold classNamesOf at h
    split at h
    · rename_i d hread
      obtain ⟨hd, htext⟩ := read_eq_ok_iff.mp hread
      exact ⟨d.kind, d, hd, htext, rfl, Except.ok.inj h⟩
    · cases h
  · rintro ⟨_, d, hd, rfl, -, rfl⟩
    exact classNamesOf_text hd

/-- Both requests read the whole text, and a text that is no descriptor is refused for the same
reason by both. -/
theorem classNamesOf_eq_error_iff {s : Text} {e : Error} :
    classNamesOf s = .error e ↔ check s = .error e := by
  unfold classNamesOf check
  cases read s <;> simp

/-- **The check accepts exactly the texts that the rules derive**, and answers the kind of the rule.
The class names of a text are listed exactly if it is accepted, as the rules collect them; every
other text is refused by both. -/
theorem check_accepts_grammar (s : Text) :
    (check s = .ok .field ↔ ∃ xs, Grammar.DerivesType s xs) ∧
    (check s = .ok .method ↔
      (∃ ps xs, Grammar.DerivesTypes ps xs ∧
        s = CodePoint.ofChar '(' :: ps ++ [CodePoint.ofChar ')', CodePoint.ofChar 'V']) ∨
      ∃ ps xs r ys, Grammar.DerivesTypes ps xs ∧ Grammar.DerivesType r ys ∧
        s = CodePoint.ofChar '(' :: ps ++ CodePoint.ofChar ')' :: r) ∧
    ((¬ ∃ kind xs, Grammar.Derives kind s xs) ↔ ∃ e, check s = .error e) ∧
    (∀ xs, classNamesOf s = .ok xs ↔ ∃ kind, Grammar.Derives kind s xs) ∧
    ∀ e, classNamesOf s = .error e ↔ check s = .error e := by
  refine ⟨?_, ?_, ?_, fun _ => classNamesOf_eq_ok_iff_derives, fun _ => classNamesOf_eq_error_iff⟩
  · rw [check_eq_ok_iff_derives]
    refine ⟨?_, ?_⟩
    · rintro ⟨xs, h⟩
      cases h with
      | field h => exact ⟨xs, h⟩
    · rintro ⟨xs, h⟩
      exact ⟨xs, .field h⟩
  · rw [check_eq_ok_iff_derives]
    refine ⟨?_, ?_⟩
    · rintro ⟨xs, h⟩
      cases h with
      | void hps => exact .inl ⟨_, _, hps, rfl⟩
      | result hps hr => exact .inr ⟨_, _, _, _, hps, hr, rfl⟩
    · rintro (⟨ps, xs, hps, rfl⟩ | ⟨ps, xs, r, ys, hps, hr, rfl⟩)
      · exact ⟨xs, .void hps⟩
      · exact ⟨xs ++ ys, .result hps hr⟩
  · simp only [← check_eq_ok_iff_derives]
    cases check s <;> simp

end Descriptor

end SymbolLexicon
