/-
# SymbolLexicon.Proofs.Descriptor.Refusals — what a refusal says of the text.

A text that is no descriptor is refused as truncated exactly if more text makes a descriptor of it,
and as trailing exactly if a descriptor stands at its start; both at once are impossible, since no
descriptor is the start of another. In all remaining cases the fault is one that no further text can
mend. The context says how far reading got.

For truncation each reader is taken by itself, from class names up to whole descriptors: it reports
truncation exactly on the texts that can be completed to what it reads. What makes this exact is
that the reader looks at the dimensions before the end of the text, and that a field type is read
off the start of a text as soon as it is complete (`FieldType.read_of_start`).
-/
import SymbolLexicon.Proofs.Descriptor.Reading

namespace SymbolLexicon

/-- The text is no end by itself: some more text, and not none, completes it to one with the
property. -/
def Completable (P : Text → Prop) (s : Text) : Prop := ∃ rest : Text, rest ≠ [] ∧ P (s ++ rest)

/-! ## Truncated field types -/

/-- A class name is truncated exactly before its `;`. -/
theorem readClassName_eq_truncated_iff {s : Text} :
    readClassName s = .error .truncated ↔
      Completable (fun u => ∃ name, IsClassName name ∧ name ++ [CodePoint.ofChar ';'] = u) s := by
  -- both sides say that no delimiter occurs
  have hplain : readClassName s = .error .truncated ↔ ∀ c ∈ s, c.isDelimiter = false := by
    unfold readClassName
    cases hd : s.dropWhile (fun c => !c.isDelimiter) with
    | nil => simpa [List.dropWhile_eq_nil_iff] using hd
    | cons c rest =>
      have hc : ¬ ∀ c ∈ s, c.isDelimiter = false := by
        intro hall
        have hnil : s.dropWhile (fun c => !c.isDelimiter) = [] := by
          simpa [List.dropWhile_eq_nil_iff] using hall
        rw [hnil] at hd
        cases hd
      simp only [hc, iff_false]
      split
      · simp
      · split <;> simp
  rw [hplain]
  constructor
  · intro hall
    refine ⟨[CodePoint.ofChar 'a', CodePoint.ofChar ';'], by simp, s ++ [CodePoint.ofChar 'a'],
      ⟨by simp, ?_⟩, by simp⟩
    intro c hc
    rcases List.mem_append.mp hc with hc | hc
    · exact hall c hc
    · rw [List.mem_singleton.mp hc]
      rfl
  · rintro ⟨rest, hrest, name, ⟨-, hname⟩, h⟩
    have hstart : s <+: name ++ [CodePoint.ofChar ';'] := ⟨rest, h.symm⟩
    rcases List.prefix_concat_iff.mp hstart with heq | hstart
    · rw [heq] at h
      exact absurd (List.self_eq_append_right.mp h) hrest
    · intro c hc
      exact hname c (hstart.subset hc)

theorem ElementType.read_eq_truncated_iff {s : Text} :
    ElementType.read s = .error .truncated ↔
      Completable (fun u => ∃ e : ElementType, e.WellFormed ∧ e.text = u) s := by
  cases s with
  | nil =>
    refine iff_of_true rfl ⟨[CodePoint.ofChar 'I'], by simp, .base .int, trivial, rfl⟩
  | cons c s =>
    constructor
    · intro h
      simp only [ElementType.read] at h
      split at h
      · cases h
      · split at h
        · rename_i hL
          obtain ⟨rest, hrest, name, hname, hs⟩ :=
            readClassName_eq_truncated_iff.mp (map_eq_error_iff.mp h)
          refine ⟨rest, hrest, .object name, hname, ?_⟩
          rw [hL, List.cons_append, ← hs]
          rfl
        · cases h
    · rintro ⟨rest, hrest, e, he, h⟩
      cases e with
      | base b =>
        -- a letter leaves nothing to complete
        have htail : [] = s ++ rest := (List.cons.inj h).2
        exact absurd (List.append_eq_nil_iff.mp htail.symm).2 hrest
      | object name =>
        obtain ⟨rfl, hs⟩ := List.cons.inj h
        have hname : readClassName s = .error .truncated :=
          readClassName_eq_truncated_iff.mpr ⟨rest, hrest, name, he, hs⟩
        simp only [ElementType.read, BaseType.ofLetter?_L, if_true, hname]
        rfl

theorem FieldType.read_eq_truncated_iff {s : Text} :
    FieldType.read s = .error .truncated ↔
      Completable (fun u => ∃ t : FieldType, t.WellFormed ∧ t.text = u) s := by
  obtain ⟨n, u, rfl, hu⟩ := s.exists_replicate_append
  rw [read_replicate_append n hu]
  constructor
  · intro h
    split at h
    · cases h
    · rename_i hle
      obtain ⟨rest, hrest, e, he, htext⟩ :=
        ElementType.read_eq_truncated_iff.mp (map_eq_error_iff.mp h)
      refine ⟨rest, hrest, ⟨n, e⟩, ⟨Nat.not_lt.mp hle, he⟩, ?_⟩
      rw [FieldType.text, htext, List.append_assoc]
  · rintro ⟨rest, hrest, t, ht, h⟩
    have hread := read_append ht []
    rw [List.append_nil, h, List.append_assoc] at hread
    cases u with
    | nil =>
      -- only `[` stand in the text, and those that follow count as well
      obtain ⟨m, v, rfl, hv⟩ := rest.exists_replicate_append
      rw [List.nil_append, ← List.append_assoc, List.replicate_append_replicate,
        read_replicate_append _ hv] at hread
      split at hread
      · cases hread
      · rename_i hle
        rw [if_neg (by omega)]
        rfl
    | cons c u =>
      have hhead : (c :: u ++ rest).head? ≠ some (CodePoint.ofChar '[') := by simpa using hu
      rw [read_replicate_append n hhead] at hread
      split at hread
      · cases hread
      · rename_i hle
        obtain ⟨⟨e, rest'⟩, he, hpair⟩ := map_eq_ok_iff.mp hread
        obtain ⟨rfl, rfl⟩ := Prod.mk.inj hpair
        obtain ⟨hwf, htext⟩ := ElementType.read_eq_ok_iff.mp he
        have helement : ElementType.read (c :: u) = .error .truncated :=
          ElementType.read_eq_truncated_iff.mpr ⟨rest, hrest, e, hwf, by simpa using htext.symm⟩
        rw [if_neg hle, helement]
        rfl

/-- Where a text goes on to start with a field type, it starts with that already, or it is
truncated. -/
theorem FieldType.read_of_start {t : FieldType} (ht : t.WellFormed) {s rest rest' : Text}
    (h : s ++ rest = t.text ++ rest') :
    (∃ u, FieldType.read s = .ok (t, u)) ∨ FieldType.read s = .error .truncated := by
  rcases List.append_eq_append_iff.mp h with ⟨u, htext, -⟩ | ⟨u, rfl, -⟩
  · by_cases hu : u = []
    · refine .inl ⟨[], ?_⟩
      rw [FieldType.read_eq_ok_iff, htext, hu]
      exact ⟨ht, by simp⟩
    · exact .inr (read_eq_truncated_iff.mpr ⟨u, hu, t, ht, htext⟩)
  · exact .inl ⟨u, FieldType.read_append ht u⟩

/-- A field type that cannot be read, though a field type stands there once the text goes on, is
truncated. -/
theorem FieldType.fault_eq_truncated {t : FieldType} (ht : t.WellFormed) {s rest rest' : Text}
    (h : s ++ rest = t.text ++ rest') {fault : Fault} (hread : FieldType.read s = .error fault) :
    fault = .truncated := by
  rcases read_of_start ht h with ⟨u, hok⟩ | herror
  · rw [hok] at hread
    cases hread
  · rw [herror] at hread
    exact (Except.error.inj hread).symm

/-- The same where a character stands that opens no field type, since only the empty text can go on
with it. -/
theorem FieldType.fault_eq_truncated_of_after? {c : Char} {s rest rest' : Text}
    (hs : s.after? c = none) (h : s ++ rest = CodePoint.ofChar c :: rest') {fault : Fault}
    (hread : FieldType.read s = .error fault) : fault = .truncated := by
  cases s with
  | nil => exact (Except.error.inj hread).symm
  | cons x s =>
    obtain ⟨rfl, -⟩ := List.cons.inj h
    simp [Text.after?] at hs

/-! ## Starts of descriptors -/

/-- No descriptor is the start of another. -/
theorem IsDescriptor.rest_eq_nil {p rest : Text} (hp : IsDescriptor p)
    (h : IsDescriptor (p ++ rest)) : rest = [] := by
  obtain ⟨d, hd, rfl⟩ := hp
  obtain ⟨e, he⟩ := isDescriptor_iff_read.mp h
  rw [Descriptor.read_append hd] at he
  exact (Descriptor.closing_eq_ok_iff.mp he).1

/-- At most one start of a text is a descriptor. -/
theorem IsDescriptor.start_unique {p p' rest rest' : Text} (hp : IsDescriptor p)
    (hp' : IsDescriptor p') (h : p ++ rest = p' ++ rest') : p = p' ∧ rest = rest' := by
  rcases List.append_eq_append_iff.mp h with ⟨u, rfl, hrest⟩ | ⟨u, rfl, hrest⟩
  · obtain rfl := hp.rest_eq_nil hp'
    exact ⟨by simp, by simpa using hrest⟩
  · obtain rfl := hp'.rest_eq_nil hp
    exact ⟨by simp, by simpa using hrest.symm⟩

namespace Descriptor

/-- A text is refused for what follows a descriptor exactly if a descriptor stands at its start and
something follows. -/
theorem read_eq_trailing_iff {s rest : Text} :
    (∃ asked, read s = .error ⟨asked, .trailing rest⟩) ↔
      rest ≠ [] ∧ ∃ p, IsDescriptor p ∧ s = p ++ rest := by
  constructor
  · rintro ⟨asked, h⟩
    cases reading_iff.mpr h with
    | @trailing d _ hd hrest => exact ⟨hrest, d.text, ⟨d, hd, rfl⟩, rfl⟩
  · rintro ⟨hrest, _, ⟨d, hd, rfl⟩, rfl⟩
    exact ⟨d.names, reading_iff.mp (.trailing hd hrest)⟩

/-- The text of a method descriptor, opened up at its parentheses. -/
theorem method_text_eq (ps : List FieldType) (r : Option FieldType) :
    (method ps r).text = CodePoint.ofChar '(' ::
      (ps.flatMap FieldType.text ++ CodePoint.ofChar ')' :: resultText r) := by
  simp [text]

/-- A field descriptor opens no parameters. -/
theorem field_text_ne {t : FieldType} {rest : Text} :
    (field t).text ≠ CodePoint.ofChar '(' :: rest := by
  intro h
  have hopen := t.after?_text_append (c := '(') (by decide) []
  rw [List.append_nil, show t.text = _ from h, Text.after?_eq_some_iff.mpr rfl] at hopen
  cases hopen

/-- The field type at which reading a completable text stops is truncated. -/
theorem Reading.fault_eq_truncated {s : Text} {asked : List (Place × Text)} {place : Place}
    {fault : Fault} (h : Reading s (.error ⟨asked, .inside place fault⟩))
    (hs : Completable IsDescriptor s) : fault = .truncated := by
  obtain ⟨rest, -, d, hd, htext⟩ := hs
  cases h with
  | field hopen hread =>
    cases d with
    | field t =>
      have hstart : s ++ rest = t.text ++ [] := by rw [List.append_nil, ← htext, text]
      exact FieldType.fault_eq_truncated hd hstart hread
    | method ps r =>
      rw [method_text_eq] at htext
      exact FieldType.fault_eq_truncated_of_after? hopen htext.symm hread
  | @parameter ts u _ hts hopen hread =>
    cases d with
    | field t =>
      rw [List.cons_append, List.cons_append] at htext
      exact absurd htext field_text_ne
    | method ps r =>
      rw [method_text_eq, List.cons_append, List.cons_append, List.append_assoc] at htext
      -- behind the parameters that were read come those that are missing, then the end
      have hps := readParameters_append hts (u ++ rest)
      rw [← (List.cons.inj htext).2, readParameters_eq_ok_iff.mpr ⟨hd.1, rfl⟩] at hps
      cases hmore : readParameters (u ++ rest) with
      | mk more outcome =>
        rw [hmore] at hps
        obtain ⟨-, rfl⟩ := Prod.mk.inj hps
        obtain ⟨hwf, hu⟩ := readParameters_eq_ok_iff.mp hmore
        cases more with
        | nil => exact FieldType.fault_eq_truncated_of_after? hopen hu hread
        | cons t more =>
          rw [List.flatMap_cons, List.append_assoc] at hu
          exact FieldType.fault_eq_truncated (hwf t List.mem_cons_self) hu hread
  | @result ts u _ hts hvoid hread =>
    cases d with
    | field t =>
      rw [List.cons_append, List.cons_append] at htext
      exact absurd htext field_text_ne
    | method ps r =>
      rw [method_text_eq, List.cons_append, List.cons_append, List.append_assoc] at htext
      have hps := readParameters_eq_ok_iff.mpr ⟨hts, (List.cons.inj htext).2⟩
      rw [readParameters_eq_ok_iff.mpr ⟨hd.1, rfl⟩] at hps
      have hu : resultText r = u ++ rest := Except.ok.inj (Prod.mk.inj hps).2
      cases r with
      | none => exact FieldType.fault_eq_truncated_of_after? hvoid hu.symm hread
      | some t =>
        have hstart : u ++ rest = t.text ++ [] := by simpa [resultText] using hu.symm
        exact FieldType.fault_eq_truncated (hd.2 t rfl) hstart hread

/-- A text that stops at a truncated field type can be completed. -/
theorem Reading.completable {s : Text} {asked : List (Place × Text)} {place : Place}
    (h : Reading s (.error ⟨asked, .inside place .truncated⟩)) : Completable IsDescriptor s := by
  cases h with
  | field hopen hread =>
    obtain ⟨rest, hrest, t, ht, htext⟩ := FieldType.read_eq_truncated_iff.mp hread
    exact ⟨rest, hrest, .field t, ht, htext⟩
  | @parameter ts u _ hts hopen hread =>
    obtain ⟨rest, hrest, t, ht, htext⟩ := FieldType.read_eq_truncated_iff.mp hread
    refine ⟨rest ++ [CodePoint.ofChar ')', CodePoint.ofChar 'V'], by simp,
      .method (ts ++ [t]) none, ⟨?_, by simp⟩, ?_⟩
    · simpa [or_imp, forall_and] using ⟨hts, ht⟩
    · simp [method_text_eq, htext, resultText]
  | @result ts u _ hts hvoid hread =>
    obtain ⟨rest, hrest, t, ht, htext⟩ := FieldType.read_eq_truncated_iff.mp hread
    refine ⟨rest, hrest, .method ts (some t), ⟨hts, by simpa using ht⟩, ?_⟩
    simp [method_text_eq, htext, resultText]

/-- The end of the parameters stands in the text, behind field types that can all be read. -/
def ParametersClosed (s : Text) : Prop :=
  ∃ (ts : List FieldType) (rest : Text), (∀ t ∈ ts, t.WellFormed) ∧
    s = CodePoint.ofChar '(' :: ts.flatMap FieldType.text ++ CodePoint.ofChar ')' :: rest

/-- The place of a descriptor that reading the text gets to. -/
def Reaches (s : Text) : Place → Prop
  | .field => ∀ rest, s ≠ CodePoint.ofChar '(' :: rest
  | .parameter => (∃ rest, s = CodePoint.ofChar '(' :: rest) ∧ ¬ ParametersClosed s
  | .result => ParametersClosed s

/-- A field type that cannot be read is reported in the place that reading got to. -/
theorem Reading.reaches {s : Text} {asked : List (Place × Text)} {place : Place} {fault : Fault}
    (h : Reading s (.error ⟨asked, .inside place fault⟩)) : Reaches s place := by
  cases h with
  | field hopen hread =>
    intro rest hs
    rw [Text.after?_eq_some_iff.mpr hs] at hopen
    cases hopen
  | @parameter ts u _ hts hopen hread =>
    refine ⟨⟨_, rfl⟩, ?_⟩
    rintro ⟨ts', rest, hts', hs⟩
    -- the same text would be read as parameters with and without an end
    have htail : ts.flatMap FieldType.text ++ u =
        ts'.flatMap FieldType.text ++ CodePoint.ofChar ')' :: rest := (List.cons.inj hs).2
    have hunclosed := readParameters_eq_error_iff.mpr ⟨hts, u, rfl, hopen, hread⟩
    rw [htail, readParameters_eq_ok_iff.mpr ⟨hts', rfl⟩] at hunclosed
    cases (Prod.mk.inj hunclosed).2
  | result hts hvoid hread => exact ⟨_, _, hts, rfl⟩

end Descriptor

/-! ## Messages -/

/-- Strings differ when the first one does not even start like the second. -/
theorem append_ne_of_not_isPrefix {a b : String} (h : ¬ a.toList <+: b.toList) (rest : String) :
    a ++ rest ≠ b := by
  rintro rfl
  exact h ⟨rest.toList, String.toList_append.symm⟩

/-- No other fault has the words of a truncation. -/
theorem Fault.text_eq_truncated_iff {fault : Fault} :
    fault.text = "unexpected abrupt ending of descriptor" ↔ fault = .truncated := by
  constructor
  · intro h
    by_contra hne
    revert h
    cases fault with
    | truncated => exact absurd rfl hne
    | emptyName => decide +kernel
    | tooManyDimensions _ | unexpected _ | unexpectedInName _ _ =>
      -- the fixed words at the start differ already
      unfold Fault.text
      simp only [String.append_assoc]
      exact append_ne_of_not_isPrefix (by decide +kernel) _
  · rintro rfl
    rfl

/-- The words of a truncation say that the text is truncated, in whatever place. -/
theorem Malformed.text_cause_eq_truncated_iff {s : Text} {reason : Malformed} :
    (reason.error s).cause.text = "unexpected abrupt ending of descriptor" ↔
      ∃ place, reason = .inside place .truncated := by
  cases reason with
  | inside place fault =>
    have htext : (Malformed.error s (.inside place fault)).cause.text = fault.text := rfl
    simp [htext, Fault.text_eq_truncated_iff]
  | trailing rest =>
    refine iff_of_false ?_ (by simp)
    show (Cause.trailing s rest).text ≠ _
    unfold Cause.text
    simp only [String.append_assoc]
    exact append_ne_of_not_isPrefix (by decide +kernel) _

namespace Descriptor

/-- A text is refused as truncated exactly if more text makes a descriptor of it. -/
theorem exists_truncated_iff {s : Text} {asked : List (Place × Text)} {reason : Malformed}
    (h : read s = .error ⟨asked, reason⟩) :
    (∃ place, reason = .inside place .truncated) ↔ Completable IsDescriptor s := by
  have hreading := reading_iff.mpr h
  constructor
  · rintro ⟨place, rfl⟩
    exact hreading.completable
  · intro hs
    cases reason with
    | inside place fault => exact ⟨place, by rw [hreading.fault_eq_truncated hs]⟩
    | trailing rest =>
      -- a descriptor that ends in the text does not end behind it as well
      obtain ⟨hrest, p, hp, rfl⟩ := read_eq_trailing_iff.mp ⟨asked, h⟩
      obtain ⟨more, -, hlonger⟩ := hs
      rw [List.append_assoc] at hlonger
      exact absurd (List.append_eq_nil_iff.mp (hp.rest_eq_nil hlonger)).1 hrest

/-- A text is refused for `rest` exactly if it is a descriptor with this rest behind it. -/
theorem error_eq_trailing_iff {s rest : Text} {asked : List (Place × Text)} {reason : Malformed}
    (h : read s = .error ⟨asked, reason⟩) :
    reason.error s = .of (.trailing s rest) ↔
      rest ≠ [] ∧ ∃ p, IsDescriptor p ∧ s = p ++ rest := by
  rw [← read_eq_trailing_iff, h]
  cases reason with
  | inside place fault => simp [Malformed.error, Error.of, Error.within]
  | trailing rest' => simp [Malformed.error, Error.of]

/-- Where more text does not help and no descriptor stands at the start, the cause is one of the
others. -/
theorem cause_of_dead {s : Text} {asked : List (Place × Text)} {reason : Malformed}
    (h : read s = .error ⟨asked, reason⟩) (hincomplete : ¬ Completable IsDescriptor s)
    (hnone : ¬ ∃ p rest, IsDescriptor p ∧ s = p ++ rest) :
    (∃ count, (reason.error s).cause = .fieldType (.tooManyDimensions count)) ∨
      (reason.error s).cause = .fieldType .emptyName ∨
      (∃ found, (reason.error s).cause = .fieldType (.unexpected found)) ∨
      ∃ found name, (reason.error s).cause = .fieldType (.unexpectedInName found name) := by
  cases reason with
  | trailing rest =>
    obtain ⟨-, p, hp, rfl⟩ := read_eq_trailing_iff.mp ⟨asked, h⟩
    exact absurd ⟨p, rest, hp, rfl⟩ hnone
  | inside place fault =>
    cases fault with
    | truncated => exact absurd ((exists_truncated_iff h).mp ⟨place, rfl⟩) hincomplete
    | tooManyDimensions count => exact .inl ⟨count, rfl⟩
    | emptyName => exact .inr (.inl rfl)
    | unexpected found => exact .inr (.inr (.inl ⟨found, rfl⟩))
    | unexpectedInName found name => exact .inr (.inr (.inr ⟨found, name, rfl⟩))

/-- An error that is not for the rest has one context, the place that reading got to. -/
theorem contexts_of_refused {s : Text} {asked : List (Place × Text)} {reason : Malformed}
    (h : read s = .error ⟨asked, reason⟩) :
    (∃ rest, reason.error s = .of (.trailing s rest)) ∨
      ∃ place, (reason.error s).contexts = [.reading place s] ∧ Reaches s place := by
  cases reason with
  | trailing rest => exact .inl ⟨rest, rfl⟩
  | inside place fault => exact .inr ⟨place, rfl, (reading_iff.mpr h).reaches⟩

/-- **A refusal tells truncated texts, texts that go on behind a descriptor, and all other texts
apart.** It has no context in the second case and in the others one, which is the place that reading
got to. A descriptor at the start of a text is the only one there. -/
theorem check_refusal_exact {s : Text} (hs : ¬ IsDescriptor s) :
    (∃ e, check s = .error e ∧
      (e.cause.text = "unexpected abrupt ending of descriptor" ↔ Completable IsDescriptor s) ∧
      (∀ rest, e = .of (.trailing s rest) ↔ rest ≠ [] ∧ ∃ p, IsDescriptor p ∧ s = p ++ rest) ∧
      (¬ Completable IsDescriptor s → (¬ ∃ p rest, IsDescriptor p ∧ s = p ++ rest) →
        (∃ count, e.cause = .fieldType (.tooManyDimensions count)) ∨
        e.cause = .fieldType .emptyName ∨
        (∃ found, e.cause = .fieldType (.unexpected found)) ∨
        ∃ found name, e.cause = .fieldType (.unexpectedInName found name)) ∧
      ((∃ rest, e = .of (.trailing s rest)) ∨
        ∃ place, e.contexts = [.reading place s] ∧ Reaches s place)) ∧
    (∀ p p' rest rest', IsDescriptor p → IsDescriptor p' → s = p ++ rest → s = p' ++ rest' →
      p = p' ∧ rest = rest') ∧
    ∀ p rest, IsDescriptor p → IsDescriptor (p ++ rest) → rest = [] := by
  refine ⟨?_, ?_, fun p rest hp hlonger => hp.rest_eq_nil hlonger⟩
  · cases hread : read s with
    | ok d => exact absurd (isDescriptor_iff_read.mpr ⟨d, hread⟩) hs
    | error refusal =>
      refine ⟨refusal.reason.error s, by simp only [check, hread], ?_,
        fun rest => error_eq_trailing_iff hread, cause_of_dead hread, contexts_of_refused hread⟩
      rw [Malformed.text_cause_eq_truncated_iff]
      exact exists_truncated_iff hread
  · intro p p' rest rest' hp hp' h h'
    exact hp.start_unique hp' (h.symm.trans h')

/-- A `)` in a class name does not close the parameters, the one behind it does; the array that is
begun there is missing its element. -/
theorem unfinished_result_refusal :
    let s : Text := "(L);)["
    ¬ IsDescriptor s ∧ check s = .error ⟨[.reading .result s], .fieldType .truncated⟩ ∧
      Completable IsDescriptor s ∧ Reaches s .result := by
  intro s
  have hcheck : check s = .error ⟨[.reading .result s], .fieldType .truncated⟩ := by
    decide +kernel
  have hs : ¬ IsDescriptor s := by
    rintro ⟨d, hd, htext⟩
    rw [← htext, check_text hd] at hcheck
    cases hcheck
  obtain ⟨⟨e, he, htruncated, -, -, hplace⟩, -, -⟩ := check_refusal_exact hs
  obtain rfl := Except.error.inj (hcheck.symm.trans he)
  refine ⟨hs, hcheck, htruncated.mp rfl, ?_⟩
  rcases hplace with ⟨rest, hrest⟩ | ⟨place, hcontexts, hreaches⟩
  · cases congrArg Error.contexts hrest
  · cases hcontexts
    exact hreaches

end Descriptor

end SymbolLexicon
