/-
# SymbolLexicon.Proofs.Descriptor.Grammar — the reader accepts exactly what the printer writes.

Each reader is paired with the printer of the same data. A reader answers `(x, rest)` exactly when
`x` is well-formed and the text is `x.text ++ rest`. This is soundness and completeness in one, and
since a reader is a function it also says that a text has only one reading.

The rest is arbitrary throughout. Completeness therefore needs that a field type is recognised by
its first letter alone: it starts neither with `)`, which ends the parameters, nor with `V`, which
is the void result, nor with `(`, which opens a method descriptor.
-/
import SymbolLexicon.Descriptor.Rename
import Mathlib.Data.List.TakeWhile

namespace SymbolLexicon

/-! ## Delimiters and letters -/

theorem CodePoint.isDelimiter_eq_false_iff {c : CodePoint} :
    c.isDelimiter = false ↔
      c ≠ CodePoint.ofChar ';' ∧ c ≠ CodePoint.ofChar '.' ∧ c ≠ CodePoint.ofChar '[' := by
  simp [CodePoint.isDelimiter, and_assoc]

/-- Different characters are different code points. -/
theorem CodePoint.ofChar_ne {a b : Char} (h : a ≠ b) :
    CodePoint.ofChar a ≠ CodePoint.ofChar b := fun heq => h (CodePoint.ofChar_inj.mp heq)

/-- The letter of a base type is read back as that type. -/
theorem BaseType.ofLetter?_letter (b : BaseType) :
    BaseType.ofLetter? (CodePoint.ofChar b.letter) = some b := by
  cases b <;> rfl

/-- Only the letter of a base type is read as that type. -/
theorem BaseType.eq_letter_of_ofLetter? {c : CodePoint} {b : BaseType}
    (h : BaseType.ofLetter? c = some b) : c = CodePoint.ofChar b.letter := by
  have hfound := List.find?_some h
  simpa using hfound

/-- `L` opens a class name and is no base type. -/
theorem BaseType.ofLetter?_L : BaseType.ofLetter? (CodePoint.ofChar 'L') = none := rfl

/-! ## Class names -/

/-- A class name is read up to its `;`, whatever follows. -/
theorem readClassName_append {name rest : Text} (h : IsClassName name) :
    readClassName (name ++ CodePoint.ofChar ';' :: rest) = .ok (name, rest) := by
  obtain ⟨hne, hplain⟩ := h
  have hp : ∀ c ∈ name, (!c.isDelimiter) = true := by
    intro c hc
    rw [hplain c hc]
    rfl
  have hend : (!(CodePoint.ofChar ';').isDelimiter) = false := rfl
  unfold readClassName
  rw [List.takeWhile_append_of_pos hp, List.dropWhile_append_of_pos hp,
    List.takeWhile_cons, List.dropWhile_cons, hend]
  simp [hne]

theorem readClassName_eq_ok_iff {s name rest : Text} :
    readClassName s = .ok (name, rest) ↔
      IsClassName name ∧ s = name ++ CodePoint.ofChar ';' :: rest := by
  refine ⟨?_, ?_⟩
  · intro h
    have hsplit : s.takeWhile (fun c => !c.isDelimiter) ++
        s.dropWhile (fun c => !c.isDelimiter) = s := List.takeWhile_append_dropWhile
    unfold readClassName at h
    -- the name stands before the first delimiter, which has to be `;`
    cases hd : s.dropWhile (fun c => !c.isDelimiter) with
    | nil => simp [hd] at h
    | cons c r =>
      simp only [hd] at h
      split at h
      · cases h
      · rename_i hsemi
        split at h
        · cases h
        · rename_i hne
          obtain ⟨rfl, rfl⟩ := Prod.mk.inj (Except.ok.inj h)
          refine ⟨⟨hne, ?_⟩, ?_⟩
          · intro x hx
            simpa using List.mem_takeWhile_imp hx
          · rw [← Decidable.not_not.mp hsemi, ← hd, hsplit]
  · rintro ⟨hname, rfl⟩
    exact readClassName_append hname

/-! ## Element types -/

theorem ElementType.read_append {e : ElementType} (h : e.WellFormed) (rest : Text) :
    ElementType.read (e.text ++ rest) = .ok (e, rest) := by
  cases e with
  | base b =>
    show ElementType.read (CodePoint.ofChar b.letter :: rest) = _
    simp only [ElementType.read, BaseType.ofLetter?_letter]
  | object name =>
    have htext : (ElementType.object name).text ++ rest =
        CodePoint.ofChar 'L' :: (name ++ CodePoint.ofChar ';' :: rest) := by
      simp [ElementType.text]
    rw [htext]
    simp [ElementType.read, BaseType.ofLetter?_L, readClassName_append h, Except.map]

theorem ElementType.read_eq_ok_iff {s rest : Text} {e : ElementType} :
    ElementType.read s = .ok (e, rest) ↔ e.WellFormed ∧ s = e.text ++ rest := by
  refine ⟨?_, ?_⟩
  · intro h
    cases s with
    | nil => cases h
    | cons c r =>
      simp only [ElementType.read] at h
      split at h
      · rename_i b hb
        obtain ⟨rfl, rfl⟩ := Prod.mk.inj (Except.ok.inj h)
        refine ⟨trivial, ?_⟩
        rw [BaseType.eq_letter_of_ofLetter? hb]
        rfl
      · split at h
        · rename_i hL
          obtain ⟨⟨name, rest'⟩, hn, hpair⟩ := map_eq_ok_iff.mp h
          obtain ⟨rfl, rfl⟩ := Prod.mk.inj hpair
          obtain ⟨hname, hr⟩ := readClassName_eq_ok_iff.mp hn
          refine ⟨hname, ?_⟩
          rw [hL, hr]
          simp [ElementType.text]
        · cases h
  · rintro ⟨he, rfl⟩
    exact ElementType.read_append he rest

/-! ## Field types -/

/-- The characters that a field type can start with. -/
def FieldType.openers : List Char := '[' :: 'L' :: BaseType.all.map BaseType.letter

/-- An element type starts with a letter, never with `[`. -/
theorem ElementType.text_eq_cons (e : ElementType) :
    ∃ c ∈ FieldType.openers, c ≠ '[' ∧ ∃ rest, e.text = CodePoint.ofChar c :: rest := by
  cases e with
  | base b => exact ⟨b.letter, by cases b <;> decide, by cases b <;> decide, [], rfl⟩
  | object name => exact ⟨'L', by decide, by decide, _, rfl⟩

theorem FieldType.text_eq_cons (t : FieldType) :
    ∃ c ∈ FieldType.openers, ∃ rest, t.text = CodePoint.ofChar c :: rest := by
  obtain ⟨n, e⟩ := t
  cases n with
  | zero =>
    obtain ⟨c, hc, -, rest, hrest⟩ := e.text_eq_cons
    exact ⟨c, hc, rest, by simp [FieldType.text, hrest]⟩
  | succ n => exact ⟨'[', by decide, _, rfl⟩

/-- A character that opens no field type is not the start of one. -/
theorem FieldType.after?_text_append {c : Char} (h : c ∉ FieldType.openers) (t : FieldType)
    (rest : Text) : Text.after? c (t.text ++ rest) = none := by
  obtain ⟨d, hd, tail, htail⟩ := t.text_eq_cons
  have hne : CodePoint.ofChar d ≠ CodePoint.ofChar c :=
    CodePoint.ofChar_ne fun heq => h (heq ▸ hd)
  rw [htail, List.cons_append]
  simp [Text.after?, hne]

/-- An element type does not start with `[`, whatever follows. -/
theorem ElementType.head?_text_append (e : ElementType) (rest : Text) :
    (e.text ++ rest).head? ≠ some (CodePoint.ofChar '[') := by
  obtain ⟨c, -, hc, tail, htail⟩ := e.text_eq_cons
  rw [htail]
  simpa using CodePoint.ofChar_ne hc

/-- Every text starts with some number of `[`, behind which there is none. -/
theorem Text.exists_replicate_append (s : Text) :
    ∃ n u, s = List.replicate n (CodePoint.ofChar '[') ++ u ∧
      u.head? ≠ some (CodePoint.ofChar '[') := by
  induction s with
  | nil => exact ⟨0, [], rfl, by simp⟩
  | cons c s ih =>
    by_cases hc : c = CodePoint.ofChar '['
    · obtain ⟨n, u, rfl, hu⟩ := ih
      refine ⟨n + 1, u, ?_, hu⟩
      rw [hc, List.replicate_succ, List.cons_append]
    · exact ⟨0, c :: s, rfl, by simpa using hc⟩

/-- Where the `[` of a text are known, a field type is read by reading its element. -/
theorem FieldType.read_replicate_append (n : Nat) {s : Text}
    (hs : s.head? ≠ some (CodePoint.ofChar '[')) :
    FieldType.read (List.replicate n (CodePoint.ofChar '[') ++ s) =
      if maxDimensions < n then .error (.tooManyDimensions n)
      else (ElementType.read s).map fun p => (⟨n, p.1⟩, p.2) := by
  have hrep : ∀ c ∈ List.replicate n (CodePoint.ofChar '['),
      decide (c = CodePoint.ofChar '[') = true := by
    intro c hc
    simpa using List.eq_of_mem_replicate hc
  have hnone : s.takeWhile (fun c => c = CodePoint.ofChar '[') = [] ∧
      s.dropWhile (fun c => c = CodePoint.ofChar '[') = s := by
    cases s <;> simp_all
  unfold FieldType.read
  rw [List.takeWhile_append_of_pos hrep, List.dropWhile_append_of_pos hrep, hnone.1, hnone.2,
    List.append_nil, List.length_replicate]

theorem FieldType.read_append {t : FieldType} (h : t.WellFormed) (rest : Text) :
    FieldType.read (t.text ++ rest) = .ok (t, rest) := by
  rw [FieldType.text, List.append_assoc,
    FieldType.read_replicate_append _ (t.element.head?_text_append rest),
    if_neg (Nat.not_lt.mpr h.1), ElementType.read_append h.2]
  rfl

theorem FieldType.read_eq_ok_iff {s rest : Text} {t : FieldType} :
    FieldType.read s = .ok (t, rest) ↔ t.WellFormed ∧ s = t.text ++ rest := by
  refine ⟨?_, ?_⟩
  · intro h
    obtain ⟨n, u, rfl, hu⟩ := s.exists_replicate_append
    rw [FieldType.read_replicate_append n hu] at h
    split at h
    · cases h
    · rename_i hle
      obtain ⟨⟨e, rest'⟩, he, hpair⟩ := map_eq_ok_iff.mp h
      obtain ⟨rfl, rfl⟩ := Prod.mk.inj hpair
      obtain ⟨hwf, helem⟩ := ElementType.read_eq_ok_iff.mp he
      refine ⟨⟨Nat.not_lt.mp hle, hwf⟩, ?_⟩
      rw [FieldType.text, List.append_assoc, helem]
  · rintro ⟨ht, rfl⟩
    exact FieldType.read_append ht rest

/-! ## Parameters and results -/

theorem Text.after?_eq_some_iff {c : Char} {s rest : Text} :
    s.after? c = some rest ↔ s = CodePoint.ofChar c :: rest := by
  cases s with
  | nil => simp [Text.after?]
  | cons x r =>
    simp only [Text.after?]
    split <;> simp_all

/-- The parameters end at once at a `)`. -/
theorem readParameters_close (rest : Text) :
    readParameters (CodePoint.ofChar ')' :: rest) = ([], .ok rest) := by
  rw [readParameters]
  simp [Text.after?]

/-- Field types at the start of a text are read as parameters, whatever follows. -/
theorem readParameters_append {ts : List FieldType} (h : ∀ t ∈ ts, t.WellFormed) (rest : Text) :
    readParameters (ts.flatMap FieldType.text ++ rest) =
      (ts ++ (readParameters rest).1, (readParameters rest).2) := by
  induction ts with
  | nil => rfl
  | cons t ts ih =>
    have hread := FieldType.read_append (h t List.mem_cons_self)
      (ts.flatMap FieldType.text ++ rest)
    have hopen := FieldType.after?_text_append (c := ')') (by decide) t
      (ts.flatMap FieldType.text ++ rest)
    rw [List.flatMap_cons, List.append_assoc, readParameters]
    -- the parameter is neither the end nor refused, which leaves the recursive call
    split
    · rename_i hclose
      rw [hopen] at hclose
      cases hclose
    · split
      · rename_i herr
        rw [hread] at herr
        cases herr
      · rename_i hok
        rw [hread] at hok
        obtain ⟨rfl, rfl⟩ := Prod.mk.inj (Except.ok.inj hok)
        rw [ih fun t ht => h t (List.mem_cons_of_mem _ ht)]
        rfl

/-- Whether or not the closing `)` is reached, the parameters that were read are well-formed and
stand at the start of the text. -/
theorem readParameters_sound (s : Text) :
    (∀ t ∈ (readParameters s).1, t.WellFormed) ∧
      ∀ rest, (readParameters s).2 = .ok rest →
        s = (readParameters s).1.flatMap FieldType.text ++ CodePoint.ofChar ')' :: rest := by
  -- the reader stops at `)`, stops at a refusal, or goes on after one more field type
  fun_induction readParameters s with
  | case1 s rest hclose =>
    refine ⟨by simp, ?_⟩
    intro rest' hrest
    obtain rfl := Except.ok.inj hrest
    simpa using Text.after?_eq_some_iff.mp hclose
  | case2 s hclose fault herr =>
    refine ⟨by simp, ?_⟩
    intro rest hrest
    cases hrest
  | case3 s hclose t rest hread _ ts outcome hts ih =>
    rw [hts] at ih
    obtain ⟨ht, hs⟩ := FieldType.read_eq_ok_iff.mp hread
    refine ⟨?_, ?_⟩
    · intro u hu
      rcases List.mem_cons.mp hu with rfl | hu
      · exact ht
      · exact ih.1 u hu
    · intro rest' hrest
      rw [hs, ih.2 rest' hrest]
      simp

theorem readParameters_eq_ok_iff {s rest : Text} {ts : List FieldType} :
    readParameters s = (ts, .ok rest) ↔
      (∀ t ∈ ts, t.WellFormed) ∧ s = ts.flatMap FieldType.text ++ CodePoint.ofChar ')' :: rest := by
  refine ⟨?_, ?_⟩
  · intro h
    obtain ⟨hwf, hs⟩ := readParameters_sound s
    rw [h] at hwf hs
    exact ⟨hwf, hs rest rfl⟩
  · rintro ⟨hwf, rfl⟩
    rw [readParameters_append hwf, readParameters_close, List.append_nil]

theorem readResult_eq_ok_iff {s rest : Text} {r : Option FieldType} :
    readResult s = .ok (r, rest) ↔ (∀ t ∈ r, t.WellFormed) ∧ s = resultText r ++ rest := by
  cases r with
  | none =>
    have hvoid : s = resultText none ++ rest ↔ s.after? 'V' = some rest := by
      rw [Text.after?_eq_some_iff]
      rfl
    rw [hvoid]
    unfold readResult
    split
    · rename_i hsome
      simp [hsome]
    · rename_i hnone
      simp [hnone, map_eq_ok_iff]
  | some t =>
    refine ⟨?_, ?_⟩
    · intro h
      unfold readResult at h
      split at h
      · cases h
      · obtain ⟨⟨u, rest'⟩, hr, hpair⟩ := map_eq_ok_iff.mp h
        obtain ⟨hu, rfl⟩ := Prod.mk.inj hpair
        obtain rfl := Option.some.inj hu
        obtain ⟨ht, hs⟩ := FieldType.read_eq_ok_iff.mp hr
        refine ⟨?_, hs⟩
        intro v hv
        obtain rfl := Option.some.inj hv
        exact ht
    · rintro ⟨ht, rfl⟩
      have hopen := FieldType.after?_text_append (c := 'V') (by decide) t rest
      simp [readResult, resultText, hopen, FieldType.read_append (ht t rfl), Except.map]

/-! ## Whole descriptors -/

namespace Descriptor

theorem closing_eq_ok_iff {d e : Descriptor} {rest : Text} :
    closing d rest = .ok e ↔ rest = [] ∧ d = e := by
  unfold closing
  split <;> simp_all

theorem readMethod_eq_ok_iff {s : Text} {d : Descriptor} :
    readMethod s = .ok d ↔
      d.WellFormed ∧ d.text = CodePoint.ofChar '(' :: s ∧ d.kind = .method := by
  refine ⟨?_, ?_⟩
  · intro h
    unfold readMethod at h
    split at h
    · cases h
    · rename_i ps s' hps
      split at h
      · cases h
      · rename_i r rest hr
        obtain ⟨rfl, rfl⟩ := closing_eq_ok_iff.mp h
        obtain ⟨hpsWf, rfl⟩ := readParameters_eq_ok_iff.mp hps
        obtain ⟨hrWf, rfl⟩ := readResult_eq_ok_iff.mp hr
        refine ⟨⟨hpsWf, hrWf⟩, ?_, rfl⟩
        simp [text]
  · rintro ⟨hwf, htext, hkind⟩
    cases d with
    | field t => cases hkind
    | method ps r =>
      have hs : s = ps.flatMap FieldType.text ++ CodePoint.ofChar ')' :: resultText r := by
        simpa [text] using htext.symm
      have hps := readParameters_eq_ok_iff.mpr ⟨hwf.1, hs⟩
      have hr : readResult (resultText r) = .ok (r, []) :=
        readResult_eq_ok_iff.mpr ⟨hwf.2, by simp⟩
      simp [readMethod, hps, hr, closing]

theorem readField_eq_ok_iff {s : Text} {d : Descriptor} :
    readField s = .ok d ↔ d.WellFormed ∧ d.text = s ∧ d.kind = .field := by
  refine ⟨?_, ?_⟩
  · intro h
    unfold readField at h
    split at h
    · cases h
    · rename_i t rest ht
      obtain ⟨rfl, rfl⟩ := closing_eq_ok_iff.mp h
      obtain ⟨hwf, rfl⟩ := FieldType.read_eq_ok_iff.mp ht
      exact ⟨hwf, by simp [text], rfl⟩
  · rintro ⟨hwf, rfl, hkind⟩
    cases d with
    | field t =>
      have ht : FieldType.read t.text = .ok (t, []) :=
        FieldType.read_eq_ok_iff.mpr ⟨hwf, by simp⟩
      simp [readField, text, ht, closing]
    | method ps r => cases hkind

/-- **A text is read as a descriptor exactly when it is the text of that descriptor** and the
descriptor is well-formed. -/
theorem read_eq_ok_iff {s : Text} {d : Descriptor} :
    read s = .ok d ↔ d.WellFormed ∧ d.text = s := by
  unfold read
  split
  · rename_i inner hopen
    obtain rfl := Text.after?_eq_some_iff.mp hopen
    rw [readMethod_eq_ok_iff]
    refine ⟨?_, ?_⟩
    · rintro ⟨hwf, htext, -⟩
      exact ⟨hwf, htext⟩
    · rintro ⟨hwf, htext⟩
      refine ⟨hwf, htext, ?_⟩
      cases d with
      | method ps r => rfl
      | field t =>
        -- a field type starts with no `(`
        have hnone := FieldType.after?_text_append (c := '(') (by decide) t []
        rw [List.append_nil, show t.text = CodePoint.ofChar '(' :: inner from htext, hopen] at hnone
        cases hnone
  · rename_i hopen
    rw [readField_eq_ok_iff]
    refine ⟨?_, ?_⟩
    · rintro ⟨hwf, htext, -⟩
      exact ⟨hwf, htext⟩
    · rintro ⟨hwf, rfl⟩
      refine ⟨hwf, rfl, ?_⟩
      cases d with
      | field t => rfl
      | method ps r => simp [text, Text.after?] at hopen

/-- A well-formed descriptor is read back from its text. -/
theorem read_text {d : Descriptor} (h : d.WellFormed) : read d.text = .ok d :=
  read_eq_ok_iff.mpr ⟨h, rfl⟩

/-- Well-formed descriptors of one text are equal. -/
theorem text_inj {d e : Descriptor} (hd : d.WellFormed) (he : e.WellFormed) :
    d.text = e.text ↔ d = e := by
  refine ⟨?_, ?_⟩
  · intro h
    have hread := read_text hd
    rw [h, read_text he] at hread
    exact (Except.ok.inj hread).symm
  · exact congrArg text

theorem check_text {d : Descriptor} (h : d.WellFormed) : check d.text = .ok d.kind := by
  simp [check, read_text h]

theorem classNamesOf_text {d : Descriptor} (h : d.WellFormed) :
    classNamesOf d.text = .ok d.classNames := by
  simp [classNamesOf, read_text h]

/-- The check answers a kind exactly for the descriptors of that kind. -/
theorem check_eq_ok_iff {s : Text} {kind : MemberKind} :
    check s = .ok kind ↔ ∃ d : Descriptor, d.WellFormed ∧ d.text = s ∧ d.kind = kind := by
  refine ⟨?_, ?_⟩
  · intro h
    unfold check at h
    split at h
    · rename_i d hread
      obtain ⟨hwf, htext⟩ := read_eq_ok_iff.mp hread
      exact ⟨d, hwf, htext, Except.ok.inj h⟩
    · cases h
  · rintro ⟨d, hwf, rfl, rfl⟩
    exact check_text hwf

end Descriptor

/-- A text is a descriptor exactly when it can be read as one. -/
theorem isDescriptor_iff_read {s : Text} : IsDescriptor s ↔ ∃ d, Descriptor.read s = .ok d := by
  simp only [IsDescriptor, Descriptor.read_eq_ok_iff]

end SymbolLexicon
