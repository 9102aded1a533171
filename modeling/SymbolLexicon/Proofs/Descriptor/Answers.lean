/-
# SymbolLexicon.Proofs.Descriptor.Answers — what is asked, and what becomes of the answers.

Whoever replaces class names is asked for one name after the other. WHICH names is settled by the
text alone (`asked`), and so is whether anything comes of the answers (`written`): a text that is
no descriptor is refused, whatever they are. `renameM_eq` says that renaming is no more than asking
and writing, with an action of any kind.
-/
import SymbolLexicon.Proofs.Descriptor.Pieces

namespace SymbolLexicon

/-! ## Names of field types -/

theorem namesAt_cons_base (place : Place) (n : Nat) (b : BaseType) (ts : List FieldType) :
    namesAt place (⟨n, .base b⟩ :: ts) = namesAt place ts := rfl

theorem namesAt_cons_object (place : Place) (n : Nat) (x : Text) (ts : List FieldType) :
    namesAt place (⟨n, .object x⟩ :: ts) = (place, x) :: namesAt place ts := rfl

theorem namesAt_append (place : Place) (ts us : List FieldType) :
    namesAt place (ts ++ us) = namesAt place ts ++ namesAt place us := by
  simp [namesAt]

/-! ## Answers in their places -/

/-- The pieces with the class names replaced by the texts, from left to right. -/
def Piece.fill : List Piece → List Text → List Piece
  | .name _ :: ps, x :: xs => .name x :: fill ps xs
  | p :: ps, xs => p :: fill ps xs
  | [], _ => []

theorem Piece.fill_kept (c : CodePoint) (ps : List Piece) (xs : List Text) :
    Piece.fill (.kept c :: ps) xs = .kept c :: Piece.fill ps xs := rfl

theorem Piece.fill_replicate_append (n : Nat) (c : CodePoint) (ps : List Piece) (xs : List Text) :
    Piece.fill (List.replicate n (.kept c) ++ ps) xs =
      List.replicate n (.kept c) ++ Piece.fill ps xs := by
  induction n with
  | zero => rfl
  | succ n ih => rw [List.replicate_succ, List.cons_append, Piece.fill_kept, ih, List.cons_append]

/-- A field type without a class name takes no answer. -/
theorem FieldType.fill_pieces_base (n : Nat) (b : BaseType) (ps : List Piece) (xs : List Text) :
    Piece.fill ((⟨n, .base b⟩ : FieldType).pieces ++ ps) xs =
      (⟨n, .base b⟩ : FieldType).pieces ++ Piece.fill ps xs := by
  simp [pieces, ElementType.piece, Piece.fill_replicate_append, Piece.fill_kept]

/-- A field type with a class name takes the first answer. -/
theorem FieldType.fill_pieces_object (n : Nat) (x y : Text) (ps : List Piece) (ys : List Text) :
    Piece.fill ((⟨n, .object x⟩ : FieldType).pieces ++ ps) (y :: ys) =
      (⟨n, .object y⟩ : FieldType).pieces ++ Piece.fill ps ys := by
  simp [pieces, ElementType.piece, Piece.fill_replicate_append, Piece.fill]

namespace Descriptor

section Effects

variable {m : Type → Type} [Monad m] [LawfulMonad m] {β : Type}

/-- Asking for the class names of field types and filling the answers in is replacing each class
name as it comes; what is asked and filled behind them is not touched. -/
theorem mapM_namesAt_fill (g : Place × Text → m Text) (place : Place) (ts : List FieldType)
    (later : List (Place × Text)) (ps : List Piece) (k : List Piece → m β) :
    ((namesAt place ts ++ later).mapM g >>= fun xs =>
        k (Piece.fill (ts.flatMap FieldType.pieces ++ ps) xs)) =
      (ts.mapM (FieldType.mapNameM fun x => g (place, x)) >>= fun us =>
        later.mapM g >>= fun xs => k (us.flatMap FieldType.pieces ++ Piece.fill ps xs)) := by
  -- the continuation is general in the induction: each field type puts its pieces before the rest
  induction ts generalizing k with
  | nil => simp [namesAt]
  | cons t ts ih =>
    obtain ⟨n, e⟩ := t
    cases e with
    | base b =>
      have h := ih fun qs => k ((⟨n, .base b⟩ : FieldType).pieces ++ qs)
      simp only [namesAt_cons_base, List.flatMap_cons, List.append_assoc,
        FieldType.fill_pieces_base, h, List.mapM_cons, FieldType.mapNameM, pure_bind, bind_assoc]
    | object x =>
      have h := fun y => ih fun qs => k ((⟨n, .object y⟩ : FieldType).pieces ++ qs)
      simp only [namesAt_cons_object, List.cons_append, List.flatMap_cons, List.append_assoc,
        List.mapM_cons, FieldType.mapNameM, pure_bind, bind_assoc, FieldType.fill_pieces_object, h]

theorem mapM_names_fill (g : Place × Text → m Text) (d : Descriptor) (k : List Piece → m β) :
    (d.names.mapM g >>= fun xs => k (Piece.fill d.pieces xs)) =
      (d.mapNamesM (fun place x => g (place, x)) >>= fun e => k e.pieces) := by
  have hone : ∀ (place : Place) (t : FieldType) (k : List Piece → m β),
      ((namesAt place [t]).mapM g >>= fun xs => k (Piece.fill t.pieces xs)) =
        (t.mapNameM (fun x => g (place, x)) >>= fun u => k u.pieces) := by
    intro place t k
    have h := mapM_namesAt_fill g place [t] [] [] k
    simpa [Piece.fill] using h
  cases d with
  | field t =>
    have h := hone .field t k
    simpa [names, pieces, mapNamesM] using h
  | method ps r =>
    have hopen := fun later qs =>
      mapM_namesAt_fill g .parameter ps later qs fun qs => k (.kept (CodePoint.ofChar '(') :: qs)
    cases r with
    | none =>
      have h := hopen [] [.kept (CodePoint.ofChar ')'), .kept (CodePoint.ofChar 'V')]
      simpa [names, pieces, resultPieces, mapNamesM, namesAt, Piece.fill] using h
    | some t =>
      have h := hopen (namesAt .result [t]) (.kept (CodePoint.ofChar ')') :: t.pieces)
      have hresult := fun us => hone .result t fun qs =>
        k (.kept (CodePoint.ofChar '(') ::
          (us ++ .kept (CodePoint.ofChar ')') :: qs))
      simp only [Piece.fill_kept, hresult] at h
      simpa [names, pieces, resultPieces, mapNamesM, Piece.fill_kept] using h

/-- Where nothing is made of the answers, asking for class names is replacing them all the same. -/
theorem mapM_namesAt_const (g : Place × Text → m Text) (place : Place) (ts : List FieldType)
    (y : m β) :
    ((namesAt place ts).mapM g >>= fun _ => y) =
      (ts.mapM (FieldType.mapNameM fun x => g (place, x)) >>= fun _ => y) := by
  simpa using mapM_namesAt_fill g place ts [] [] fun _ => y

/-- Asking without a look at the answers. -/
theorem forM_bind_const {α : Type} {xs : List α} {g : α → m Text} {a : α → m PUnit}
    (h : ∀ x, a x = (g x >>= fun _ => pure ⟨⟩)) (y : m β) :
    (xs.forM a >>= fun _ => y) = (xs.mapM g >>= fun _ => y) := by
  induction xs with
  | nil => simp
  | cons x xs ih =>
    rw [List.forM_eq_forM] at ih ⊢
    simp only [List.forM_cons, List.mapM_cons, h, bind_assoc, pure_bind, ih]

/-! ## Renaming as asking and writing -/

variable (f : Text → ExceptT Error m Text) {s : Text}

omit [LawfulMonad m] in
theorem renameM_of_ok {d : Descriptor} (h : read s = .ok d) :
    renameM f s = (d.mapNamesM (ask f s) >>= fun e => pure e.text) := by
  rw [renameM, h]

theorem renameM_of_error {refusal : Refusal} (h : read s = .error refusal) :
    renameM f s = ((refusal.asked.mapM fun q => ask f s q.1 q.2) >>= fun _ =>
      throw (refusal.reason.error s)) := by
  rw [renameM, h]
  exact forM_bind_const (fun _ => rfl) _

/-- What renaming makes of the answers to all that the text asks. -/
def written (s : Text) (answers : List Text) : Except Error Text :=
  match read s with
  | .ok d => .ok ((Piece.fill d.pieces answers).flatMap Piece.text)
  | .error refusal => .error (refusal.reason.error s)

/-- **Renaming asks for the names that the text alone settles, and then writes.** -/
theorem renameM_eq (s : Text) :
    renameM f s = ((asked s).mapM fun q => ask f s q.1 q.2) >>= fun answers =>
      ExceptT.mk (pure (written s answers)) := by
  unfold asked written
  cases h : read s with
  | ok d =>
    have hfill := mapM_names_fill (fun q => ask f s q.1 q.2) d fun qs =>
      (pure (qs.flatMap Piece.text) : ExceptT Error m Text)
    simp only [flatMap_text_pieces] at hfill
    exact (renameM_of_ok f h).trans hfill.symm
  | error refusal => exact renameM_of_error f h

end Effects

end Descriptor

end SymbolLexicon
