/-
# SymbolLexicon.Proofs.Descriptor.Pieces — a descriptor cut at its class names.

Cut at its class names, the text of a descriptor is a row of PIECES: class names between `L` and
`;`, and single characters that are kept as they are. There is only one way to cut a text, since no
kept character is `L` and no class name holds a `;`. Replacing the class names of the pieces, and
putting the pieces together again, is all that renaming a descriptor does.

What comes out is cut at the new names only if each of them is a class name in its own right; else
it is no descriptor, or one with other names. Where they are, two renamings one after the other are
one renaming.
-/
import SymbolLexicon.Proofs.Descriptor.Language

namespace SymbolLexicon

/-! ## Pieces -/

/-- A class name with its marks, or one code point outside of class names. -/
inductive Piece where
  | kept (c : CodePoint)
  | name (x : Text)
deriving DecidableEq

namespace Piece

/-- The piece as it stands in a descriptor. -/
def text : Piece → Text
  | .kept c => [c]
  | .name x => CodePoint.ofChar 'L' :: x ++ [CodePoint.ofChar ';']

/-- The class name, if the piece is one. -/
def name? : Piece → Option Text
  | .kept _ => none
  | .name x => some x

/-- The piece with its class name replaced. -/
def mapName (f : Text → Text) : Piece → Piece
  | .kept c => .kept c
  | .name x => .name (f x)

/-- The characters that stand outside of class names. -/
def keptChars : List Char := '(' :: ')' :: '[' :: 'V' :: Grammar.letters

/-- A kept character is one that may stand outside of class names, and a class name is one. -/
def WellFormed : Piece → Prop
  | .kept c => ∃ k ∈ keptChars, c = CodePoint.ofChar k
  | .name x => IsClassName x

theorem wellFormed_kept {k : Char} (h : k ∈ keptChars) : (kept (CodePoint.ofChar k)).WellFormed :=
  ⟨k, h, rfl⟩

/-- A kept character is not read as the `L` of a class name. -/
theorem kept_ne_L {c : CodePoint} (h : (kept c).WellFormed) : c ≠ CodePoint.ofChar 'L' := by
  obtain ⟨k, hk, rfl⟩ := h
  apply CodePoint.ofChar_ne
  rintro rfl
  exact absurd hk (by decide)

/-- There is only one way to cut a text into pieces. -/
theorem eq_of_flatMap_text_eq {ps qs : List Piece} (hps : ∀ p ∈ ps, p.WellFormed)
    (hqs : ∀ q ∈ qs, q.WellFormed) (h : ps.flatMap text = qs.flatMap text) : ps = qs := by
  induction ps generalizing qs with
  | nil =>
    cases qs with
    | nil => rfl
    | cons q qs => cases q <;> simp [text] at h
  | cons p ps ih =>
    cases qs with
    | nil => cases p <;> simp [text] at h
    | cons q qs =>
      have htail := fun h => ih (fun p hp => hps p (List.mem_cons_of_mem _ hp))
        (fun q hq => hqs q (List.mem_cons_of_mem _ hq)) h
      have hp := hps p List.mem_cons_self
      have hq := hqs q List.mem_cons_self
      cases p with
      | kept c =>
        cases q with
        | kept d =>
          obtain ⟨rfl, hrest⟩ := List.cons.inj h
          rw [htail hrest]
        | name y => exact absurd (List.cons.inj h).1 (kept_ne_L hp)
      | name x =>
        cases q with
        | kept d => exact absurd (List.cons.inj h).1.symm (kept_ne_L hq)
        | name y =>
          -- a class name is read off up to its `;`, on either side
          have hnames : x ++ CodePoint.ofChar ';' :: ps.flatMap text =
              y ++ CodePoint.ofChar ';' :: qs.flatMap text := by simpa [text] using h
          have hread : readClassName (x ++ CodePoint.ofChar ';' :: ps.flatMap text) = _ :=
            readClassName_append hp
          rw [hnames, readClassName_append hq] at hread
          obtain ⟨rfl, hrest⟩ := Prod.mk.inj (Except.ok.inj hread)
          rw [htail hrest.symm]

end Piece

/-! ## The pieces of a descriptor -/

/-- The piece of an element type. -/
def ElementType.piece : ElementType → Piece
  | .base b => .kept (CodePoint.ofChar b.letter)
  | .object x => .name x

/-- A piece for each dimension, and that of the element. -/
def FieldType.pieces (t : FieldType) : List Piece :=
  List.replicate t.dimensions (.kept (CodePoint.ofChar '[')) ++ [t.element.piece]

/-- The pieces of a result. -/
def resultPieces : Option FieldType → List Piece
  | none => [.kept (CodePoint.ofChar 'V')]
  | some t => t.pieces

/-- The pieces of a descriptor, left to right. -/
def Descriptor.pieces : Descriptor → List Piece
  | .field t => t.pieces
  | .method ps r =>
    .kept (CodePoint.ofChar '(') :: ps.flatMap FieldType.pieces ++
      .kept (CodePoint.ofChar ')') :: resultPieces r

namespace FieldType

theorem flatMap_text_pieces (t : FieldType) : t.pieces.flatMap Piece.text = t.text := by
  obtain ⟨n, e⟩ := t
  have helement : e.piece.text = e.text := by cases e <;> rfl
  rw [pieces, List.flatMap_append, List.flatMap_singleton, helement, List.flatMap_replicate]
  simp [text, Piece.text]

theorem filterMap_name?_pieces (t : FieldType) :
    t.pieces.filterMap Piece.name? = t.className?.toList := by
  obtain ⟨n, e⟩ := t
  cases e <;> simp [pieces, ElementType.piece, className?, Piece.name?]

theorem WellFormed.pieces {t : FieldType} (h : t.WellFormed) : ∀ p ∈ t.pieces, p.WellFormed := by
  obtain ⟨n, e⟩ := t
  intro p hp
  rcases List.mem_append.mp hp with hp | hp
  · rw [List.eq_of_mem_replicate hp]
    exact Piece.wellFormed_kept (by decide)
  · rw [List.mem_singleton.mp hp]
    cases e with
    | base b => exact Piece.wellFormed_kept (by cases b <;> decide)
    | object x => exact h.2

theorem pieces_mapName (f : Text → Text) (t : FieldType) :
    (t.mapName f).pieces = t.pieces.map (Piece.mapName f) := by
  obtain ⟨n, e⟩ := t
  cases e <;> simp [pieces, mapName, ElementType.piece, Piece.mapName]

end FieldType

namespace Descriptor

theorem flatMap_text_pieces (d : Descriptor) : d.pieces.flatMap Piece.text = d.text := by
  have hlist : ∀ ts : List FieldType,
      (ts.flatMap FieldType.pieces).flatMap Piece.text = ts.flatMap FieldType.text := by
    intro ts
    rw [List.flatMap_assoc]
    simp only [FieldType.flatMap_text_pieces]
  cases d with
  | field t => exact t.flatMap_text_pieces
  | method ps r =>
    cases r <;>
      simp [pieces, text, resultPieces, resultText, hlist, FieldType.flatMap_text_pieces,
        Piece.text]

theorem filterMap_name?_pieces (d : Descriptor) :
    d.pieces.filterMap Piece.name? = d.classNames := by
  have hlist : ∀ ts : List FieldType, (ts.flatMap FieldType.pieces).filterMap Piece.name? =
      ts.filterMap FieldType.className? := by
    intro ts
    rw [List.filterMap_flatMap, List.filterMap_eq_flatMap_toList]
    simp only [FieldType.filterMap_name?_pieces]
  have hresult : ∀ r : Option FieldType, (resultPieces r).filterMap Piece.name? =
      r.toList.filterMap FieldType.className? := by
    intro r
    cases r with
    | none => rfl
    | some t => rw [resultPieces, t.filterMap_name?_pieces, List.filterMap_eq_flatMap_toList]; simp
  rw [classNames_eq_filterMap]
  cases d with
  | field t => exact hresult (some t)
  | method ps r =>
    have hopen : ∀ k rest, (Piece.kept (CodePoint.ofChar k) :: rest).filterMap Piece.name? =
        rest.filterMap Piece.name? := fun _ _ => List.filterMap_cons_none rfl
    rw [pieces, List.cons_append, hopen, List.filterMap_append, hopen, hlist, hresult, fieldTypes,
      List.filterMap_append]

/-- The pieces of a well-formed descriptor are kept characters and class names. -/
theorem WellFormed.pieces {d : Descriptor} (h : d.WellFormed) :
    ∀ p ∈ d.pieces, p.WellFormed := by
  cases d with
  | field t => exact FieldType.WellFormed.pieces h
  | method ps r =>
    intro p hp
    simp only [Descriptor.pieces, List.mem_append, List.mem_cons, List.mem_flatMap] at hp
    rcases hp with (rfl | ⟨t, ht, hp⟩) | rfl | hp
    · exact Piece.wellFormed_kept (by decide)
    · exact (h.1 t ht).pieces p hp
    · exact Piece.wellFormed_kept (by decide)
    · cases r with
      | none =>
        rw [List.mem_singleton.mp hp]
        exact Piece.wellFormed_kept (by decide)
      | some t => exact (h.2 t rfl).pieces p hp

theorem pieces_mapNames (f : Text → Text) (d : Descriptor) :
    (d.mapNames f).pieces = d.pieces.map (Piece.mapName f) := by
  cases d with
  | field t => exact t.pieces_mapName f
  | method ps r =>
    cases r <;>
      simp [pieces, mapNames, resultPieces, FieldType.pieces_mapName, Piece.mapName,
        List.flatMap_map, List.map_flatMap]

/-! ## Renaming by pieces -/

/-- A descriptor with its class names replaced is one of the same kind with the new names exactly if
each new name is a class name. -/
theorem mapNames_accepted_iff {d : Descriptor} (hd : d.WellFormed) {f : Text → Text} :
    check (d.mapNames f).text = .ok d.kind ∧
        classNamesOf (d.mapNames f).text = .ok (d.classNames.map f) ↔
      ∀ x ∈ d.classNames, IsClassName (f x) := by
  constructor
  · rintro ⟨hcheck, hnames⟩ x hx
    -- whatever descriptor is read there, its class names are class names
    obtain ⟨e, he, htext, -⟩ := check_eq_ok_iff.mp hcheck
    rw [← htext, classNamesOf_text he] at hnames
    apply he.isClassName
    rw [Except.ok.inj hnames]
    exact List.mem_map_of_mem hx
  · intro hf
    have hwf := hd.mapNames hf
    rw [check_text hwf, classNamesOf_text hwf, kind_mapNames, classNames_mapNames]
    exact ⟨rfl, rfl⟩

/-- **Renaming replaces the class names of a descriptor and keeps all else.** The text is cut into
kept characters and class names, in the one way that there is; what comes out is the same row with
each class name replaced by its answer, so nothing changes where each name is its own answer. The
result is a descriptor of the same kind with the answers as its class names exactly if all of them
are class names, and then a second renaming may be done along with the first. -/
theorem rename_substitutes {s : Text} {kind : MemberKind} {names : List Text}
    (hkind : check s = .ok kind) (hnames : classNamesOf s = .ok names)
    {a : Text → Except Error Text} {f : Text → Text} (ha : ∀ x ∈ names, a x = .ok (f x)) :
    (∃ pieces : List Piece,
      ((∀ p ∈ pieces, p.WellFormed) ∧ pieces.flatMap Piece.text = s ∧
        ∀ qs : List Piece, (∀ q ∈ qs, q.WellFormed) → qs.flatMap Piece.text = s → qs = pieces) ∧
      pieces.filterMap Piece.name? = names ∧
      rename a s = .ok ((pieces.map (Piece.mapName f)).flatMap Piece.text)) ∧
    rename .ok s = .ok s ∧
    (∀ t, rename a s = .ok t →
      (check t = .ok kind ∧ classNamesOf t = .ok (names.map f) ↔
        ∀ x ∈ names, IsClassName (f x))) ∧
    ((∀ x ∈ names, IsClassName (f x)) →
      ∀ (b : Text → Except Error Text) (g : Text → Text), (∀ x ∈ names, b (f x) = .ok (g (f x))) →
        (rename a s >>= rename b) = rename (fun x => a x >>= b) s ∧
          ∃ t, (rename a s >>= rename b) = .ok t) := by
  obtain ⟨d, hd, rfl, rfl⟩ := check_eq_ok_iff.mp hkind
  rw [classNamesOf_text hd] at hnames
  obtain rfl := Except.ok.inj hnames
  have hrename := rename_text hd ha
  refine ⟨⟨d.pieces, ⟨hd.pieces, d.flatMap_text_pieces, ?_⟩, d.filterMap_name?_pieces, ?_⟩,
    ?_, ?_, ?_⟩
  · intro qs hqs htext
    exact Piece.eq_of_flatMap_text_eq hqs hd.pieces (htext.trans d.flatMap_text_pieces.symm)
  · rw [hrename, ← pieces_mapNames, flatMap_text_pieces]
  · have hsame := rename_text (a := .ok) (f := fun x => x) hd fun _ _ => rfl
    rwa [mapNames_id] at hsame
  · intro t ht
    rw [hrename] at ht
    obtain rfl := Except.ok.inj ht
    exact mapNames_accepted_iff hd
  · intro hf b g hb
    have hsecond : rename b (d.mapNames f).text = .ok ((d.mapNames f).mapNames g).text := by
      apply rename_text (hd.mapNames hf)
      intro y hy
      rw [classNames_mapNames] at hy
      obtain ⟨x, hx, rfl⟩ := List.mem_map.mp hy
      exact hb x hx
    have hboth : rename (fun x => a x >>= b) d.text = .ok (d.mapNames fun x => g (f x)).text := by
      apply rename_text hd
      intro x hx
      rw [ha x hx, Error.ok_bind, hb x hx]
    rw [hrename, Error.ok_bind, hsecond, hboth, mapNames_mapNames]
    exact ⟨rfl, _, rfl⟩

/-- Moving all classes into a package, and into another one after that. -/
theorem packaged_substitutes :
    let s : Text := "([LA;ILB;)LA;"
    let move : Text → Text := fun x => Text.ofString "p/" ++ x
    let answer : Text → Except Error Text := fun x => .ok (move x)
    check s = .ok .method ∧ classNamesOf s = .ok ["A", "B", "A"] ∧
      (∀ x ∈ (["A", "B", "A"] : List Text), IsClassName (move x)) ∧
      rename answer s = .ok "([Lp/A;ILp/B;)Lp/A;" ∧
      classNamesOf "([Lp/A;ILp/B;)Lp/A;" = .ok ["p/A", "p/B", "p/A"] ∧
      rename (fun x => answer x >>= answer) s = .ok "([Lp/p/A;ILp/p/B;)Lp/p/A;" := by
  intro s move answer
  have hkind : check s = .ok .method := by decide +kernel
  have hnames : classNamesOf s = .ok ["A", "B", "A"] := by decide +kernel
  have hmoved : ∀ x ∈ (["A", "B", "A"] : List Text), IsClassName (move x) := by decide +kernel
  have honce : rename answer s = .ok "([Lp/A;ILp/B;)Lp/A;" := by decide +kernel
  have htwice : rename answer "([Lp/A;ILp/B;)Lp/A;" = .ok "([Lp/p/A;ILp/p/B;)Lp/p/A;" := by
    decide +kernel
  obtain ⟨-, -, haccepted, hcompose⟩ :=
    rename_substitutes hkind hnames (a := answer) (f := move) fun _ _ => rfl
  refine ⟨hkind, hnames, hmoved, honce, ((haccepted _ honce).mpr hmoved).2, ?_⟩
  rw [← (hcompose hmoved answer move fun _ _ => rfl).1, honce]
  exact htwice

end Descriptor

end SymbolLexicon
