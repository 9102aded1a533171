/-
# SymbolLexicon.Proofs.Descriptor.Reading — the ways in which reading a text ends.

A text is read as a descriptor, or a descriptor ends in it and more follows, or a field type of it
cannot be read; and that one stands alone, among the parameters or as the result. `Reading` lists
these five ends, each with the part of the text that was read before it and with what the reader
answers. `Descriptor.reading_iff` says that the list is complete and that no two ends are confused:
whoever knows the shape of a text knows the answer, and the other way round.
-/
import SymbolLexicon.Proofs.Descriptor.Grammar

namespace SymbolLexicon

/-! ## Parameters and results -/

/-- Where reading parameters stops at once, for the end or for a field type that cannot be read. -/
theorem readParameters_of_error {s : Text} {fault : Fault} (hopen : s.after? ')' = none)
    (hread : FieldType.read s = .error fault) : readParameters s = ([], .error fault) := by
  rw [readParameters]
  split
  · rename_i hclose
    rw [hopen] at hclose
    cases hclose
  · split
    · rename_i herr
      rw [hread] at herr
      rw [Except.error.inj herr]
    · rename_i hok
      rw [hread] at hok
      cases hok

/-- Reading parameters fails exactly behind some of them, at a field type that cannot be read. -/
theorem readParameters_eq_error_iff {s : Text} {ts : List FieldType} {fault : Fault} :
    readParameters s = (ts, .error fault) ↔
      (∀ t ∈ ts, t.WellFormed) ∧ ∃ u, s = ts.flatMap FieldType.text ++ u ∧
        u.after? ')' = none ∧ FieldType.read u = .error fault := by
  constructor
  · intro h
    refine ⟨?_, ?_⟩
    · have hwf := (readParameters_sound s).1
      rwa [h] at hwf
    · -- the text is general in the induction, since each parameter leaves another one
      fun_induction readParameters s generalizing ts with
      | case1 s rest hclose => cases h
      | case2 s hopen fault' herr =>
        obtain ⟨rfl, hfault⟩ := Prod.mk.inj h
        rw [Except.error.inj hfault] at herr
        exact ⟨s, rfl, hopen, herr⟩
      | case3 s hopen t rest hread _ us outcome hus ih =>
        obtain ⟨rfl, rfl⟩ := Prod.mk.inj h
        obtain ⟨-, hs⟩ := FieldType.read_eq_ok_iff.mp hread
        obtain ⟨u, hrest, hu⟩ := ih hus
        refine ⟨u, ?_, hu⟩
        rw [hs, hrest, List.flatMap_cons, List.append_assoc]
  · rintro ⟨hts, u, rfl, hopen, hread⟩
    rw [readParameters_append hts, readParameters_of_error hopen hread, List.append_nil]

/-- A result cannot be read exactly if there is neither `V` nor a field type. -/
theorem readResult_eq_error_iff {s : Text} {fault : Fault} :
    readResult s = .error fault ↔ s.after? 'V' = none ∧ FieldType.read s = .error fault := by
  unfold readResult
  cases s.after? 'V' with
  | some rest => simp
  | none => simp [map_eq_error_iff]

/-! ## Whole descriptors -/

namespace Descriptor

/-- How reading a text ends, with the answer. -/
inductive Reading : Text → Except Refusal Descriptor → Prop
  /-- The whole text is a descriptor. -/
  | accepted {d : Descriptor} : d.WellFormed → Reading d.text (.ok d)
  /-- A descriptor ends, but the text goes on. -/
  | trailing {d : Descriptor} {rest : Text} : d.WellFormed → rest ≠ [] →
      Reading (d.text ++ rest) (.error ⟨d.names, .trailing rest⟩)
  /-- The text opens no parameters and starts with no field type. -/
  | field {s : Text} {fault : Fault} : s.after? '(' = none → FieldType.read s = .error fault →
      Reading s (.error ⟨[], .inside .field fault⟩)
  /-- Behind the parameters `ts` there is neither their end nor one more. -/
  | parameter {ts : List FieldType} {u : Text} {fault : Fault} : (∀ t ∈ ts, t.WellFormed) →
      u.after? ')' = none → FieldType.read u = .error fault →
      Reading (CodePoint.ofChar '(' :: ts.flatMap FieldType.text ++ u)
        (.error ⟨namesAt .parameter ts, .inside .parameter fault⟩)
  /-- Behind the end of the parameters there is no result. -/
  | result {ts : List FieldType} {u : Text} {fault : Fault} : (∀ t ∈ ts, t.WellFormed) →
      u.after? 'V' = none → FieldType.read u = .error fault →
      Reading (CodePoint.ofChar '(' :: ts.flatMap FieldType.text ++ CodePoint.ofChar ')' :: u)
        (.error ⟨namesAt .parameter ts, .inside .result fault⟩)

/-- Where a descriptor was read, the text ends or goes on. -/
theorem reading_closing {d : Descriptor} (hd : d.WellFormed) (rest : Text) :
    Reading (d.text ++ rest) (closing d rest) := by
  unfold closing
  split
  · rename_i hrest
    rw [hrest, List.append_nil]
    exact .accepted hd
  · rename_i hrest
    exact .trailing hd hrest

theorem reading_readMethod (s : Text) : Reading (CodePoint.ofChar '(' :: s) (readMethod s) := by
  unfold readMethod
  split
  · rename_i ps fault hps
    obtain ⟨hpsWf, u, rfl, hopen, hread⟩ := readParameters_eq_error_iff.mp hps
    exact .parameter hpsWf hopen hread
  · rename_i ps u hps
    obtain ⟨hpsWf, rfl⟩ := readParameters_eq_ok_iff.mp hps
    split
    · rename_i fault hr
      obtain ⟨hvoid, hread⟩ := readResult_eq_error_iff.mp hr
      exact .result hpsWf hvoid hread
    · rename_i r rest hr
      obtain ⟨hrWf, rfl⟩ := readResult_eq_ok_iff.mp hr
      have hclosing := reading_closing (d := .method ps r) ⟨hpsWf, hrWf⟩ rest
      simpa [text] using hclosing

theorem reading_readField {s : Text} (hopen : s.after? '(' = none) : Reading s (readField s) := by
  unfold readField
  split
  · rename_i fault hread
    exact .field hopen hread
  · rename_i t rest hread
    obtain ⟨ht, rfl⟩ := FieldType.read_eq_ok_iff.mp hread
    exact reading_closing (d := .field t) ht rest

/-- Reading ends in one of the five ways. -/
theorem reading_read (s : Text) : Reading s (read s) := by
  unfold read
  split
  · rename_i inner hopen
    obtain rfl := Text.after?_eq_some_iff.mp hopen
    exact reading_readMethod inner
  · rename_i hopen
    exact reading_readField hopen

/-- A descriptor is read off the start of a text, whatever follows. -/
theorem read_append {d : Descriptor} (hd : d.WellFormed) (rest : Text) :
    read (d.text ++ rest) = closing d rest := by
  cases d with
  | field t =>
    have hopen : Text.after? '(' (t.text ++ rest) = none := t.after?_text_append (by decide) rest
    show read (t.text ++ rest) = _
    simp only [read, hopen, readField, FieldType.read_append hd]
  | method ps r =>
    have hps : readParameters
        (ps.flatMap FieldType.text ++ CodePoint.ofChar ')' :: (resultText r ++ rest)) =
          (ps, .ok (resultText r ++ rest)) := readParameters_eq_ok_iff.mpr ⟨hd.1, rfl⟩
    have hr : readResult (resultText r ++ rest) = .ok (r, rest) :=
      readResult_eq_ok_iff.mpr ⟨hd.2, rfl⟩
    have htext : (Descriptor.method ps r).text ++ rest = CodePoint.ofChar '(' ::
        (ps.flatMap FieldType.text ++ CodePoint.ofChar ')' :: (resultText r ++ rest)) := by
      simp [text]
    rw [htext, read, Text.after?_eq_some_iff.mpr rfl]
    simp only [readMethod, hps, hr]

/-- **The five ends are exactly those of the reader**: a text is read with an answer exactly if it
has the shape that belongs to this answer. -/
theorem reading_iff {s : Text} {outcome : Except Refusal Descriptor} :
    Reading s outcome ↔ read s = outcome := by
  constructor
  · intro h
    cases h with
    | accepted hd => exact read_text hd
    | trailing hd hrest => simp only [read_append hd, closing, hrest, if_false]
    | field hopen hread => simp only [read, hopen, readField, hread]
    | @parameter ts u fault hts hopen hread =>
      have hps := readParameters_eq_error_iff.mpr ⟨hts, u, rfl, hopen, hread⟩
      rw [List.cons_append, read, Text.after?_eq_some_iff.mpr rfl]
      simp only [readMethod, hps]
    | @result ts u fault hts hvoid hread =>
      have hps := readParameters_eq_ok_iff.mpr ⟨hts, Eq.refl (_ ++ CodePoint.ofChar ')' :: u)⟩
      have hr := readResult_eq_error_iff.mpr ⟨hvoid, hread⟩
      rw [List.cons_append, read, Text.after?_eq_some_iff.mpr rfl]
      simp only [readMethod, hps, hr]
  · rintro rfl
    exact reading_read s

end Descriptor

end SymbolLexicon
