/-
# SymbolLexicon.Proofs.Descriptor.Consultation — a function that is asked has no say in the reading.

A text settles which class names its renaming asks for, in which order and from which places, and
whether anything comes of it. `asked` computes these names with the reader; `Stands` says without
a reader where they stand, and `asked_eq_append_cons_iff` that the two agree.

A function with a state of its own is then called on these names and on nothing else, whatever it
answers. If it answers all of them, the outcome is that of the check. If it fails, the work ends
there.
-/
import SymbolLexicon.Proofs.Descriptor.OnePass
import SymbolLexicon.Proofs.InPlace

namespace SymbolLexicon

/-- The names of field types, cut at one of them. -/
theorem namesAt_eq_append_cons_iff {place place' : Place} {ts : List FieldType}
    {before after : List (Place × Text)} {x : Text} :
    namesAt place ts = before ++ (place', x) :: after ↔
      place' = place ∧ ∃ ts₁ n ts₂, ts = ts₁ ++ ⟨n, .object x⟩ :: ts₂ ∧
        namesAt place ts₁ = before ∧ namesAt place ts₂ = after := by
  constructor
  · intro h
    induction ts generalizing before with
    | nil => simp [namesAt] at h
    | cons t ts ih =>
      obtain ⟨n, e⟩ := t
      cases e with
      | base b =>
        rw [namesAt_cons_base] at h
        obtain ⟨hplace, ts₁, n', ts₂, rfl, hbefore, hafter⟩ := ih h
        exact ⟨hplace, ⟨n, .base b⟩ :: ts₁, n', ts₂, rfl, hbefore, hafter⟩
      | object y =>
        rw [namesAt_cons_object] at h
        cases before with
        | nil =>
          obtain ⟨hfirst, hafter⟩ := List.cons.inj h
          obtain ⟨rfl, rfl⟩ := Prod.mk.inj hfirst
          exact ⟨rfl, [], n, ts, rfl, rfl, hafter⟩
        | cons q before =>
          obtain ⟨rfl, hrest⟩ := List.cons.inj h
          obtain ⟨hplace, ts₁, n', ts₂, rfl, hbefore, hafter⟩ := ih hrest
          refine ⟨hplace, ⟨n, .object y⟩ :: ts₁, n', ts₂, rfl, ?_, hafter⟩
          rw [namesAt_cons_object, hbefore]
  · rintro ⟨rfl, ts₁, n, ts₂, rfl, rfl, rfl⟩
    rw [namesAt_append, namesAt_cons_object]

/-- One field type has at most one name. -/
theorem namesAt_singleton_eq_append_cons {place place' : Place} {t : FieldType}
    {before after : List (Place × Text)} {x : Text}
    (h : namesAt place [t] = before ++ (place', x) :: after) :
    place' = place ∧ before = [] ∧ ∃ n, t = ⟨n, .object x⟩ := by
  obtain ⟨hplace, ts₁, n, ts₂, hts, rfl, -⟩ := namesAt_eq_append_cons_iff.mp h
  cases ts₁ with
  | nil => exact ⟨hplace, rfl, n, (List.cons.inj hts).1⟩
  | cons u ts₁ => simp at hts

namespace Descriptor

/-! ## Where a name stands -/

/-- The class name `x` stands in the given place of the text, behind exactly the names `earlier`.
Field types stand before it, and anything may follow. -/
inductive Stands (s : Text) : List Text → Place → Text → Prop
  | field {n : Nat} {x rest : Text} : FieldType.WellFormed ⟨n, .object x⟩ →
      s = FieldType.text ⟨n, .object x⟩ ++ rest → Stands s [] .field x
  | parameter {ts : List FieldType} {n : Nat} {x rest : Text} : (∀ t ∈ ts, t.WellFormed) →
      FieldType.WellFormed ⟨n, .object x⟩ →
      s = CodePoint.ofChar '(' :: ts.flatMap FieldType.text ++
        (FieldType.text ⟨n, .object x⟩ ++ rest) →
      Stands s (ts.filterMap FieldType.className?) .parameter x
  | result {ts : List FieldType} {n : Nat} {x rest : Text} : (∀ t ∈ ts, t.WellFormed) →
      FieldType.WellFormed ⟨n, .object x⟩ →
      s = CodePoint.ofChar '(' :: ts.flatMap FieldType.text ++
        CodePoint.ofChar ')' :: (FieldType.text ⟨n, .object x⟩ ++ rest) →
      Stands s (ts.filterMap FieldType.className?) .result x

theorem Stands.isClassName {s : Text} {earlier : List Text} {place : Place} {x : Text}
    (h : Stands s earlier place x) : IsClassName x := by
  cases h with
  | field ht _ => exact ht.2
  | parameter _ ht _ => exact ht.2
  | result _ ht _ => exact ht.2

/-- The names of parameters stand among them, whatever follows the parameters. -/
theorem stands_of_parameters {ts : List FieldType} (hts : ∀ t ∈ ts, t.WellFormed)
    {before after : List (Place × Text)} {place : Place} {x : Text}
    (h : namesAt .parameter ts = before ++ (place, x) :: after) (rest : Text) :
    Stands (CodePoint.ofChar '(' :: ts.flatMap FieldType.text ++ rest) (before.map Prod.snd)
      place x := by
  obtain ⟨rfl, ts₁, n, ts₂, rfl, rfl, -⟩ := namesAt_eq_append_cons_iff.mp h
  rw [map_snd_namesAt]
  have hfirst : ∀ t ∈ ts₁, t.WellFormed := fun t ht => hts t (List.mem_append_left _ ht)
  have ht : FieldType.WellFormed ⟨n, .object x⟩ := hts _ List.mem_append_cons_self
  have hrest :
      CodePoint.ofChar '(' :: (ts₁ ++ ⟨n, .object x⟩ :: ts₂).flatMap FieldType.text ++ rest =
        CodePoint.ofChar '(' :: ts₁.flatMap FieldType.text ++
          (FieldType.text ⟨n, .object x⟩ ++ (ts₂.flatMap FieldType.text ++ rest)) := by
    simp
  exact .parameter hfirst ht hrest

/-- The names of a descriptor stand in its text, whatever follows it. -/
theorem stands_of_names {d : Descriptor} (hd : d.WellFormed) {before after : List (Place × Text)}
    {place : Place} {x : Text} (h : d.names = before ++ (place, x) :: after) (rest : Text) :
    Stands (d.text ++ rest) (before.map Prod.snd) place x := by
  cases d with
  | field t =>
    obtain ⟨rfl, rfl, n, rfl⟩ := namesAt_singleton_eq_append_cons h
    exact .field hd rfl
  | method ps r =>
    have hparameters : ∀ later, namesAt .parameter ps = before ++ (place, x) :: later →
        Stands ((method ps r).text ++ rest) (before.map Prod.snd) place x := by
      intro later h
      have hstands := stands_of_parameters hd.1 h (CodePoint.ofChar ')' :: resultText r ++ rest)
      simpa [text] using hstands
    have hresult : ∀ here, before = namesAt .parameter ps ++ here →
        namesAt .result r.toList = here ++ (place, x) :: after →
        Stands ((method ps r).text ++ rest) (before.map Prod.snd) place x := by
      rintro here rfl hhere
      cases r with
      | none => simp [namesAt] at hhere
      | some t =>
        obtain ⟨rfl, rfl, n, rfl⟩ := namesAt_singleton_eq_append_cons hhere
        rw [List.append_nil, map_snd_namesAt]
        have hrest : (method ps (some ⟨n, .object x⟩)).text ++ rest =
            CodePoint.ofChar '(' :: ps.flatMap FieldType.text ++
              CodePoint.ofChar ')' :: (FieldType.text ⟨n, .object x⟩ ++ rest) := by
          simp [text, resultText]
        exact .result hd.1 (hd.2 _ rfl) hrest
    rcases List.append_eq_append_iff.mp h with ⟨here, hbefore, hhere⟩ | ⟨here, hps, hhere⟩
    · exact hresult here hbefore hhere
    · cases here with
      | nil => exact hresult [] (by simpa using hps.symm) hhere.symm
      | cons q here =>
        obtain ⟨rfl, -⟩ := List.cons.inj hhere
        exact hparameters here hps

/-- The names that are asked stand in the text. -/
theorem stands_of_asked {s : Text} {before after : List (Place × Text)} {place : Place} {x : Text}
    (h : asked s = before ++ (place, x) :: after) : Stands s (before.map Prod.snd) place x := by
  have hend := reading_read s
  unfold asked at h
  generalize read s = outcome at h hend
  cases hend with
  | @accepted d hd =>
    have hstands := stands_of_names hd h []
    rwa [List.append_nil] at hstands
  | trailing hd _ => exact stands_of_names hd h _
  | field _ _ => simp at h
  | parameter hts _ _ => exact stands_of_parameters hts h _
  | result hts _ _ => exact stands_of_parameters hts h _

/-- A descriptor at the start of a text is asked for its names, whatever follows. -/
theorem asked_append {d : Descriptor} (hd : d.WellFormed) (rest : Text) :
    asked (d.text ++ rest) = d.names := by
  rw [asked, read_append hd, closing]
  by_cases hrest : rest = [] <;> simp [hrest]

/-- A text that opens parameters is asked for their names first, whatever follows. -/
theorem asked_parameters_append {ts : List FieldType} (hts : ∀ t ∈ ts, t.WellFormed)
    (rest : Text) : ∃ later, asked (CodePoint.ofChar '(' :: ts.flatMap FieldType.text ++ rest) =
      namesAt .parameter ts ++ later := by
  rw [asked, List.cons_append, read, Text.after?_eq_some_iff.mpr rfl]
  dsimp only
  rw [readMethod, readParameters_append hts]
  -- whether or not all parameters and a result follow, these names come first
  cases (readParameters rest).2 with
  | error fault => exact ⟨_, namesAt_append ..⟩
  | ok u =>
    cases hr : readResult u with
    | error fault =>
      simp only [hr]
      exact ⟨_, namesAt_append ..⟩
    | ok p =>
      refine ⟨namesAt .parameter (readParameters rest).1 ++ namesAt .result p.1.toList, ?_⟩
      by_cases hrest : p.2 = [] <;> simp [hr, closing, hrest, names, namesAt_append]

/-- **The names that are asked are those that stand in the text**, each in its place and behind
those that come before it. -/
theorem asked_eq_append_cons_iff {s : Text} {earlier : List Text} {place : Place} {x : Text} :
    (∃ before after, asked s = before ++ (place, x) :: after ∧ before.map Prod.snd = earlier) ↔
      Stands s earlier place x := by
  constructor
  · rintro ⟨before, after, h, rfl⟩
    exact stands_of_asked h
  · intro h
    cases h with
    | @field n _ rest ht hs =>
      refine ⟨[], [], ?_, rfl⟩
      rw [hs]
      exact asked_append (d := .field ⟨n, .object x⟩) ht rest
    | @parameter ts n _ rest hts ht hs =>
      have hall : ∀ t ∈ ts ++ [⟨n, .object x⟩], t.WellFormed := by
        simpa [or_imp, forall_and] using ⟨hts, ht⟩
      obtain ⟨later, hlater⟩ := asked_parameters_append hall rest
      refine ⟨namesAt .parameter ts, later, ?_, map_snd_namesAt .parameter ts⟩
      rw [hs]
      simpa [namesAt, FieldType.className?] using hlater
    | @result ts n _ rest hts ht hs =>
      have hd : (Descriptor.method ts (some ⟨n, .object x⟩)).WellFormed := ⟨hts, by simpa using ht⟩
      refine ⟨namesAt .parameter ts, [], ?_, map_snd_namesAt .parameter ts⟩
      rw [hs]
      simpa [text, resultText, names, namesAt, FieldType.className?] using asked_append hd rest

theorem isClassName_of_asked {s : Text} {x : Text} (h : x ∈ (asked s).map Prod.snd) :
    IsClassName x := by
  obtain ⟨q, hq, rfl⟩ := List.mem_map.mp h
  obtain ⟨before, after, hasked⟩ := List.append_of_mem hq
  exact (stands_of_asked hasked).isClassName

/-- A descriptor is asked for its class names. -/
theorem asked_of_classNamesOf {s : Text} {names : List Text} (h : classNamesOf s = .ok names) :
    (asked s).map Prod.snd = names := by
  unfold classNamesOf at h
  unfold asked
  cases hread : read s with
  | ok d =>
    rw [hread] at h
    exact Except.ok.inj h
  | error refusal =>
    rw [hread] at h
    cases h

/-! ## Functions with a state -/

section Runs

variable {σ : Type} {f : Text → InPlace σ Error Text} {s : Text} {st st' st₁ st₂ : σ}

/-- Where a function answers all names, asking it from the places of the names is the same. -/
theorem on_mapM_ask {qs : List (Place × Text)} {answers : List Text}
    (h : InPlace.on ((qs.map Prod.snd).mapM f) st = (.ok answers, st')) :
    InPlace.on (qs.mapM fun q => ask f s q.1 q.2) st = (.ok answers, st') := by
  induction qs generalizing st answers with
  | nil => exact h
  | cons q qs ih =>
    obtain ⟨y, st₁, ys, hq, hqs, rfl⟩ := InPlace.on_mapM_cons_eq_ok_iff.mp h
    refine InPlace.on_mapM_cons_eq_ok_iff.mpr ⟨y, st₁, ys, ?_, ih hqs, rfl⟩
    rw [ask, InPlace.on_adapt, hq]
    rfl

/-- A function that answers all that is asked leaves the outcome to the text and its answers. -/
theorem on_renameM_of_answers {answers : List Text}
    (h : InPlace.on (((asked s).map Prod.snd).mapM f) st = (.ok answers, st')) :
    InPlace.on (renameM f s) st = (written s answers, st') := by
  rw [renameM_eq]
  exact InPlace.on_bind_of_ok (on_mapM_ask h) _

/-- A function that fails ends the work, and its error is seen from the place of the name. -/
theorem on_renameM_of_failure {before after : List (Place × Text)} {place : Place} {x : Text}
    {answers : List Text} {e : Error} (hasked : asked s = before ++ (place, x) :: after)
    (hbefore : InPlace.on ((before.map Prod.snd).mapM f) st = (.ok answers, st₁))
    (hx : (f x).on st₁ = (.error e, st₂)) :
    InPlace.on (renameM f s) st = (.error (e.within (.reading place s)), st₂) := by
  have hask : InPlace.on (ask f s place x) st₁ = (.error (e.within (.reading place s)), st₂) := by
    rw [ask, InPlace.on_adapt, hx]
    rfl
  rw [renameM_eq, hasked]
  exact InPlace.on_bind_of_error
    (InPlace.on_mapM_append_cons_of_error (on_mapM_ask hbefore) hask) _

end Runs

/-- Something is written exactly if the text is a descriptor, whatever the answers; else the error
is that of the check. -/
theorem written_iff_check (s : Text) (answers : List Text) :
    (∀ kind, check s = .ok kind → ∃ t, written s answers = .ok t) ∧
      ∀ e, check s = .error e → written s answers = .error e := by
  unfold check written
  cases read s with
  | ok d => simp
  | error refusal => simp

/-- **A function that is asked for class names has no say in the reading.** The names it is called
with, in order, are those that stand in the text; they are class names, and those of the descriptor
if the text is one. If it answers them all, then whatever it answers, it is called exactly on them,
and the text is renamed or refused just as it is accepted or refused by the check. If it first fails
at one of them, it is called up to that name, and its error is seen from the place of the name. It
makes no difference whether it is called while the text is read or afterwards. -/
theorem renameM_consults (s : Text) :
    ((∀ earlier place x, (∃ before after, asked s = before ++ (place, x) :: after ∧
          before.map Prod.snd = earlier) ↔ Stands s earlier place x) ∧
      (∀ x ∈ (asked s).map Prod.snd, IsClassName x) ∧
      ∀ names, classNamesOf s = .ok names → (asked s).map Prod.snd = names) ∧
    (∀ (σ : Type) (f : Text → InPlace σ Error Text) (st : σ),
      (∀ answers st', InPlace.on (((asked s).map Prod.snd).mapM f) st = (.ok answers, st') →
        ∃ outcome,
          InPlace.on (renameM f s) st = (outcome, st') ∧
          InPlace.on (renameM (InPlace.recording f) s) (st, []) =
            (outcome, st', (asked s).map Prod.snd) ∧
          (∀ kind, check s = .ok kind → ∃ t, outcome = .ok t) ∧
          ∀ e, check s = .error e → outcome = .error e) ∧
      ∀ before place x after answers st₁ e st₂, asked s = before ++ (place, x) :: after →
        InPlace.on ((before.map Prod.snd).mapM f) st = (.ok answers, st₁) →
        (f x).on st₁ = (.error e, st₂) →
        InPlace.on (renameM f s) st = (.error (e.within (.reading place s)), st₂) ∧
          InPlace.on (renameM (InPlace.recording f) s) (st, []) =
            (.error (e.within (.reading place s)), st₂, before.map Prod.snd ++ [x])) ∧
    ∀ {m : Type → Type} [Monad m] [LawfulMonad m] (f : Text → ExceptT Error m Text),
      renamePass f s = renameM f s := by
  refine ⟨⟨fun _ _ _ => asked_eq_append_cons_iff, fun _ => isClassName_of_asked,
    fun _ => asked_of_classNamesOf⟩, ?_, fun f => renamePass_eq f s⟩
  intro σ f st
  refine ⟨?_, ?_⟩
  · intro answers st' hanswers
    have hrecorded := InPlace.on_mapM_recording hanswers []
    rw [List.nil_append] at hrecorded
    obtain ⟨hok, herror⟩ := written_iff_check s answers
    exact ⟨written s answers, on_renameM_of_answers hanswers, on_renameM_of_answers hrecorded,
      hok, herror⟩
  · intro before place x after answers st₁ e st₂ hasked hbefore hx
    have hrecorded := InPlace.on_mapM_recording hbefore []
    have hxrecorded : (InPlace.recording f x).on (st₁, [] ++ before.map Prod.snd) =
        (.error e, st₂, before.map Prod.snd ++ [x]) := by
      rw [InPlace.on_recording, hx, List.nil_append]
    exact ⟨on_renameM_of_failure hasked hbefore hx,
      on_renameM_of_failure hasked hrecorded hxrecorded⟩

/-- A function that answers as often as its state says, on a text that goes on behind a descriptor:
it is not called on what follows, and the text is refused though all its calls were answered. -/
theorem rationed_consultation :
    let s : Text := "(LA;)[LB;LC;"
    let names : List (Place × Text) := [(.parameter, "A"), (.result, "B")]
    let refused : Error := .of (.caller "no more answers")
    let f : Text → InPlace Nat Error Text := fun x => do
      let n ← get
      if n = 0 then throw refused
      set (n - 1)
      return Text.ofString "p/" ++ x
    asked s = names ∧
      InPlace.on (renameM (InPlace.recording f) s) (5, []) =
        (Except.error (.of (.trailing s "LC;")), 3, names.map Prod.snd) ∧
      InPlace.on (renameM (InPlace.recording f) s) (1, []) =
        (Except.error (refused.within (.reading .result s)), 0, names.map Prod.snd) := by
  intro s names refused f
  have hasked : asked s = names := by decide +kernel
  have hcheck : check s = .error (.of (.trailing s "LC;")) := by decide +kernel
  obtain ⟨-, hruns, -⟩ := renameM_consults s
  refine ⟨hasked, ?_, ?_⟩
  · have hanswers : InPlace.on (((asked s).map Prod.snd).mapM f) 5 =
        (.ok ["p/A", "p/B"], 3) := by
      rw [hasked]
      rfl
    obtain ⟨outcome, -, hrecorded, -, herror⟩ := (hruns Nat f 5).1 _ _ hanswers
    rw [hrecorded, herror _ hcheck, hasked]
  · have hfirst : InPlace.on ([("A" : Text)].mapM f) 1 = (.ok ["p/A"], 0) := rfl
    have hsecond : (f "B").on 0 = (.error refused, 0) := rfl
    exact ((hruns Nat f 1).2 [(.parameter, "A")] _ _ [] _ _ _ _ hasked hfirst hsecond).2

end Descriptor

end SymbolLexicon
