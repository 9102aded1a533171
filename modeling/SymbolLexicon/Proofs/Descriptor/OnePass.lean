/-
# SymbolLexicon.Proofs.Descriptor.OnePass — renaming in one pass over the text.

`renameM` reads the text first and asks afterwards, so that the answers cannot reach the reader.
A PASS has no such order: it reads a field type, asks for its class name at once, writes it out,
and goes on behind it, not knowing yet whether the text is a descriptor. `renamePass_eq` says that
the two are the same in every monad: an action that is run between two steps of the reader has no
more say in them than one that is run when the reader is done.
-/
import SymbolLexicon.Proofs.Descriptor.Answers
import SymbolLexicon.Proofs.Descriptor.Reading

namespace SymbolLexicon.Descriptor

section Effects

variable {m : Type → Type} [Monad m] (f : Text → ExceptT Error m Text) (whole : Text)

/-! ## The pass -/

/-- Read a field type at the start of the rest and write it with its class name replaced. Here and
below the answer is what is left to read, and all that is written. -/
def passType (place : Place) (rest out : Text) : ExceptT Error m (Text × Text) :=
  match FieldType.read rest with
  | .error fault => throw ((Malformed.inside place fault).error whole)
  | .ok (t, rest) => do
    let u ← t.mapNameM (ask f whole place)
    return (rest, out ++ u.text)

/-- Read and write parameters up to the closing `)`. -/
def passParameters (rest out : Text) : ExceptT Error m (Text × Text) :=
  match rest.after? ')' with
  | some rest => return (rest, out ++ [CodePoint.ofChar ')'])
  | none =>
    match h : FieldType.read rest with
    | .error fault => throw ((Malformed.inside .parameter fault).error whole)
    | .ok (t, rest) => do
      have := FieldType.length_of_read h
      let u ← t.mapNameM (ask f whole .parameter)
      passParameters rest (out ++ u.text)
termination_by rest.length

/-- Read and write a result. -/
def passResult (rest out : Text) : ExceptT Error m (Text × Text) :=
  match rest.after? 'V' with
  | some rest => return (rest, out ++ [CodePoint.ofChar 'V'])
  | none => passType f whole .result rest out

/-- All that is written, if nothing is left to read. -/
def passEnd (rest out : Text) : ExceptT Error m Text :=
  if rest = [] then return out else throw ((Malformed.trailing rest).error whole)

/-- The text of the descriptor with each class name replaced by the outcome of the action, which is
run while the text is read. -/
def renamePass (s : Text) : ExceptT Error m Text :=
  match s.after? '(' with
  | some inner => do
    let (rest, out) ← passParameters f s inner [CodePoint.ofChar '(']
    let (rest, out) ← passResult f s rest out
    passEnd s rest out
  | none => do
    let (rest, out) ← passType f s .field s []
    passEnd s rest out

/-! ## What the pass does with a text -/

variable {f whole}

theorem passType_of_error {rest : Text} {fault : Fault} (h : FieldType.read rest = .error fault)
    (place : Place) (out : Text) :
    passType f whole place rest out = throw ((Malformed.inside place fault).error whole) := by
  rw [passType, h]

theorem passType_append {t : FieldType} (ht : t.WellFormed) (place : Place) (rest out : Text) :
    passType f whole place (t.text ++ rest) out =
      (t.mapNameM (ask f whole place) >>= fun u => pure (rest, out ++ u.text)) := by
  rw [passType, FieldType.read_append ht]

theorem passParameters_close (rest out : Text) :
    passParameters f whole (CodePoint.ofChar ')' :: rest) out =
      pure (rest, out ++ [CodePoint.ofChar ')']) := by
  rw [passParameters, Text.after?_eq_some_iff.mpr rfl]

theorem passResult_void (rest out : Text) :
    passResult f whole (CodePoint.ofChar 'V' :: rest) out =
      pure (rest, out ++ [CodePoint.ofChar 'V']) := rfl

theorem passResult_append {t : FieldType} (ht : t.WellFormed) (rest out : Text) :
    passResult f whole (t.text ++ rest) out =
      (t.mapNameM (ask f whole .result) >>= fun u => pure (rest, out ++ u.text)) := by
  rw [passResult, t.after?_text_append (by decide)]
  exact passType_append ht .result rest out

theorem passResult_of_error {rest : Text} {fault : Fault} (hvoid : rest.after? 'V' = none)
    (h : FieldType.read rest = .error fault) (out : Text) :
    passResult f whole rest out = throw ((Malformed.inside .result fault).error whole) := by
  rw [passResult, hvoid]
  exact passType_of_error h .result out

variable [LawfulMonad m]

theorem passParameters_open {rest : Text} (h : rest.after? ')' = none) (out : Text) :
    passParameters f whole rest out =
      (passType f whole .parameter rest out >>= fun p => passParameters f whole p.1 p.2) := by
  rw [passParameters, h]
  dsimp only
  split
  · rename_i hread
    rw [passType_of_error hread, ExceptT.bind_throw]
  · rename_i t rest' hread
    obtain ⟨ht, rfl⟩ := FieldType.read_eq_ok_iff.mp hread
    rw [passType_append ht, bind_assoc]
    simp only [pure_bind]

/-- Field types at the start of the rest are replaced one after the other. -/
theorem passParameters_append {ts : List FieldType} (h : ∀ t ∈ ts, t.WellFormed)
    (rest out : Text) :
    passParameters f whole (ts.flatMap FieldType.text ++ rest) out =
      (ts.mapM (FieldType.mapNameM (ask f whole .parameter)) >>= fun us =>
        passParameters f whole rest (out ++ us.flatMap FieldType.text)) := by
  -- what is written is general in the induction, since each parameter adds to it
  induction ts generalizing out with
  | nil => simp
  | cons t ts ih =>
    have hopen := t.after?_text_append (c := ')') (by decide)
      (ts.flatMap FieldType.text ++ rest)
    rw [List.flatMap_cons, List.append_assoc, passParameters_open hopen,
      passType_append (h t List.mem_cons_self)]
    simp only [ih fun t ht => h t (List.mem_cons_of_mem _ ht), List.mapM_cons, bind_assoc,
      pure_bind, List.flatMap_cons, List.append_assoc]

/-- A descriptor at the start of the text is replaced name by name, whatever follows; what follows
is noticed at the end. -/
theorem renamePass_append {d : Descriptor} (hd : d.WellFormed) (rest : Text) :
    renamePass f (d.text ++ rest) =
      (d.mapNamesM (ask f (d.text ++ rest)) >>= fun e => passEnd (d.text ++ rest) rest e.text) := by
  -- the text as it is named in errors is kept apart from the text as it is read
  have hpass : ∀ whole : Text, whole = d.text ++ rest → renamePass f whole =
      (d.mapNamesM (ask f whole) >>= fun e => passEnd whole rest e.text) := by
    intro whole hwhole
    cases d with
    | field t =>
      have hopen : whole.after? '(' = none := hwhole ▸ t.after?_text_append (by decide) rest
      have htype : passType f whole .field (t.text ++ rest) [] = _ :=
        passType_append hd .field rest []
      rw [show t.text ++ rest = whole from hwhole.symm] at htype
      rw [renamePass, hopen]
      simp only [htype, mapNamesM, bind_assoc, pure_bind, List.nil_append, text]
    | method ps r =>
      have hopen : whole.after? '(' =
          some (ps.flatMap FieldType.text ++ CodePoint.ofChar ')' :: (resultText r ++ rest)) := by
        rw [Text.after?_eq_some_iff, hwhole]
        simp [text]
      rw [renamePass, hopen]
      simp only [passParameters_append hd.1, passParameters_close, bind_assoc, pure_bind]
      cases r with
      | none =>
        simp only [resultText, passResult_void, mapNamesM, bind_assoc,
          pure_bind, text, List.append_assoc, List.cons_append, List.nil_append]
      | some t =>
        have ht : t.WellFormed := hd.2 t rfl
        simp only [resultText, passResult_append ht, mapNamesM, bind_assoc,
          pure_bind, text, List.append_assoc, List.cons_append, List.nil_append]
  exact hpass _ rfl

theorem renameM_append {d : Descriptor} (hd : d.WellFormed) (rest : Text) :
    renameM f (d.text ++ rest) =
      (d.mapNamesM (ask f (d.text ++ rest)) >>= fun e => passEnd (d.text ++ rest) rest e.text) := by
  have hread := read_append hd rest
  unfold closing at hread
  unfold passEnd
  split at hread
  · rename_i hrest
    rw [renameM_of_ok f hread, hrest]
    rfl
  · rename_i hrest
    rw [renameM_of_error f hread]
    simp only [hrest, if_false]
    exact mapM_names_fill (fun q => ask f (d.text ++ rest) q.1 q.2) d fun _ => throw _

/-- **Reading first and asking while reading are the same**, whatever the action does. -/
theorem renamePass_eq (f : Text → ExceptT Error m Text) (s : Text) :
    renamePass f s = renameM f s := by
  have hend := reading_read s
  generalize hread : read s = outcome at hend
  cases hend with
  | @accepted d hd =>
    have hpass := renamePass_append (f := f) hd []
    rwa [← renameM_append hd, List.append_nil] at hpass
  | trailing hd hrest => rw [renamePass_append hd, renameM_append hd]
  | @field _ fault hopen hfield =>
    rw [renameM_of_error f hread, renamePass, hopen]
    simp only [passType_of_error hfield, ExceptT.bind_throw]
    simp
  | @parameter ts u fault hts hopen hfield =>
    rw [renameM_of_error f hread, mapM_namesAt_const, List.cons_append, renamePass,
      Text.after?_eq_some_iff.mpr rfl]
    simp only [passParameters_append hts, passParameters_open hopen, passType_of_error hfield,
      ExceptT.bind_throw, bind_assoc]
  | @result ts u fault hts hvoid hfield =>
    rw [renameM_of_error f hread, mapM_namesAt_const, List.cons_append, renamePass,
      Text.after?_eq_some_iff.mpr rfl]
    simp only [passParameters_append hts, passParameters_close, passResult_of_error hvoid hfield,
      ExceptT.bind_throw, bind_assoc, pure_bind]

end Effects

end SymbolLexicon.Descriptor
