/-
# SymbolLexicon.Proofs.Lexicon.Lookup — every end of a look-up of a member.

A look-up ends in one of five ways. Which one it is depends on what there is to be looked at, in
this order: the namespace, the owner, the descriptor, the member. A text that is no descriptor is
refused only for a known owner, and in another context in the first namespace than in the others; an
unknown owner is recorded, an unknown member is not.
-/
import SymbolLexicon.Proofs.Lexicon.MemberLookup
import SymbolLexicon.Proofs.Lexicon.Paths
import SymbolLexicon.Proofs.Lexicon.Totality

namespace SymbolLexicon

namespace Lexicon

variable {l : Lexicon} {ns : Namespace} {kind : MemberKind} {sought : Reference}

/-! ## What a look-up looks at -/

theorem Valid.find?_eq_none_iff_unknown (hl : l.Valid) {name : Text} :
    l.classes.find? ns name = none ↔ l.Unknown ns name :=
  hl.indexed.find?_eq_none_iff

theorem Valid.exists_find?_of_not_unknown (hl : l.Valid) {name : Text} (h : ¬ l.Unknown ns name) :
    ∃ c, l.classes.find? ns name = some c :=
  Option.ne_none_iff_exists'.mp (mt hl.find?_eq_none_iff_unknown.mp h)

/-- A reference that denotes a member is one of a namespace of the lexicon. -/
theorem Valid.has_of_denotes (hl : l.Valid) {i j : Nat} {m : MemberEntry}
    (h : l.Denotes kind sought ns i j m) : l.namespaces.Has ns := by
  obtain ⟨c, -, -, -, -, hstored⟩ := h
  by_contra hns
  cases hstored.symm.trans (hl.renameDescriptor_eq_error_iff.mpr (.inl (.source hns)))

/-- A member that is denoted has one slot for each namespace of the lexicon, and no other. -/
theorem Valid.fits_of_denotes (hl : l.Valid) {i j : Nat} {m : MemberEntry}
    (h : l.Denotes kind sought ns i j m) : m.naming.Fits l.namespaces := by
  obtain ⟨c, hi, -, hj, -⟩ := h
  have hc := hl.classes c (Array.mem_of_getElem? hi)
  exact (hc.members kind m (Array.mem_of_getElem? hj)).fits

/-- The context in which a look-up refuses a text that is no descriptor. -/
def lookupContext (kind : MemberKind) (sought : Reference) (ns : Namespace) : Context :=
  if ns = .first then .lookingUp kind sought.name sought.owner
  else .renamingClasses sought.descriptor ns .first

theorem Valid.storedDescriptor_eq_error_iff (hl : l.Valid) (hns : l.namespaces.Has ns)
    (kind : MemberKind) (sought : Reference) {e : Error} :
    l.storedDescriptor kind sought ns = .error e ↔
      ∃ e', Descriptor.check sought.descriptor = .error e' ∧
        e = e'.within (lookupContext kind sought ns) := by
  unfold storedDescriptor lookupContext
  by_cases hfirst : ns = .first
  · simp only [hfirst, if_true]
    cases Descriptor.check sought.descriptor <;> simp [eq_comm]
  · have hmisses : ¬ l.namespaces.Misses ns .first e := fun h =>
      (Namespaces.exists_misses_iff.mp ⟨e, h⟩).elim (absurd hns) (absurd l.namespaces.has_first)
    simp only [hfirst, if_false, hl.renameDescriptor_eq_error_iff, hmisses, false_or, hns,
      l.namespaces.has_first, true_and, Descriptor.RefusedBetween]

/-! ## The five ends -/

/-- The ends of a look-up. -/
inductive LookupEnd (l : Lexicon) (kind : MemberKind) (sought : Reference) (ns : Namespace) :
    Traced (Option MemberEntry) → Prop
  | foreign : ¬ l.namespaces.Has ns →
      LookupEnd l kind sought ns ⟨.error (.of (.namespaceOutOfRange ns l.namespaces.names)), []⟩
  | malformed {e : Error} : l.namespaces.Has ns → ¬ l.Unknown ns sought.owner →
      Descriptor.check sought.descriptor = .error e →
      LookupEnd l kind sought ns ⟨.error (e.within (lookupContext kind sought ns)), []⟩
  | found {i j : Nat} {m : MemberEntry} : l.Denotes kind sought ns i j m →
      LookupEnd l kind sought ns ⟨.ok (some m), []⟩
  | unknownOwner : l.namespaces.Has ns → l.Unknown ns sought.owner →
      LookupEnd l kind sought ns ⟨.ok none, [.ownerMissing kind sought ns]⟩
  | unknownMember : l.namespaces.Has ns → ¬ l.Unknown ns sought.owner →
      IsDescriptor sought.descriptor → (∀ i j m, ¬ l.Denotes kind sought ns i j m) →
      LookupEnd l kind sought ns ⟨.ok none, []⟩

/-- A look-up comes to one of these ends. -/
theorem Valid.lookupEnd_findMember (hl : l.Valid) (kind : MemberKind) (sought : Reference)
    (ns : Namespace) : l.LookupEnd kind sought ns (l.findMember kind sought ns) := by
  by_cases hns : l.namespaces.Has ns
  · have hfound := fun m => hl.result_findMember_eq_some_iff kind sought (m := m) hns
    rw [findMember_eq hns] at hfound ⊢
    cases hfind : l.classes.find? ns sought.owner with
    | none => exact .unknownOwner hns (hl.find?_eq_none_iff_unknown.mp hfind)
    | some c =>
      have howner : ¬ l.Unknown ns sought.owner := by
        simp [← hl.find?_eq_none_iff_unknown, hfind]
      simp only [hfind] at hfound ⊢
      cases hstored : l.storedDescriptor kind sought ns with
      | error e =>
        obtain ⟨e', he', rfl⟩ := (hl.storedDescriptor_eq_error_iff hns _ _).mp hstored
        exact .malformed hns howner he'
      | ok t =>
        have hdescriptor : IsDescriptor sought.descriptor :=
          isDescriptor_of_renameDescriptor ((hl.storedDescriptor_eq_ok_iff hns _ _).mp hstored)
        simp only [hstored, Except.map, Except.ok.injEq] at hfound ⊢
        cases hmember : (c.members kind).find? ns ⟨sought.name, t⟩ with
        | some m =>
          obtain ⟨i, j, hdenotes⟩ := (hfound m).mp hmember
          exact .found hdenotes
        | none =>
          refine .unknownMember hns howner hdescriptor ?_
          intro i j m hdenotes
          cases hmember.symm.trans ((hfound m).mpr ⟨i, j, hdenotes⟩)
  · rw [findMember_of_not_has hns]
    exact .foreign hns

/-- The ends exclude one another, so each of them is where the look-up comes to. -/
theorem Valid.findMember_eq_iff (hl : l.Valid) {outcome : Traced (Option MemberEntry)} :
    l.findMember kind sought ns = outcome ↔ l.LookupEnd kind sought ns outcome := by
  constructor
  · rintro rfl
    exact hl.lookupEnd_findMember kind sought ns
  · intro h
    cases h with
    | foreign hns => exact findMember_of_not_has hns kind sought
    | found hdenotes => exact hl.findMember_of_denotes (hl.has_of_denotes hdenotes) hdenotes
    | unknownOwner hns howner =>
      rw [findMember_eq hns, hl.find?_eq_none_iff_unknown.mpr howner]
    | malformed hns howner hcheck =>
      obtain ⟨c, hfind⟩ := hl.exists_find?_of_not_unknown howner
      have hstored := (hl.storedDescriptor_eq_error_iff hns kind sought).mpr ⟨_, hcheck, rfl⟩
      simp only [findMember_eq hns, hfind, hstored, Except.map]
    | unknownMember hns howner hdescriptor hnone =>
      -- the other ends with a known owner are excluded by the descriptor and by what is denoted
      have hend := hl.lookupEnd_findMember kind sought ns
      generalize l.findMember kind sought ns = outcome at hend
      cases hend with
      | unknownMember => rfl
      | foreign hforeign => exact absurd hns hforeign
      | unknownOwner _ hunknown => exact absurd hunknown howner
      | found hdenotes => exact absurd hdenotes (hnone _ _ _)
      | malformed _ _ hcheck =>
        exact absurd hdescriptor (Descriptor.exists_check_error_iff.mp ⟨_, hcheck⟩)

/-- A member is found exactly if the reference denotes it. In a namespace that is not there nothing
is found, and nothing is denoted. -/
theorem Valid.result_findMember_iff_denotes (hl : l.Valid) {m : MemberEntry} :
    (l.findMember kind sought ns).result = .ok (some m) ↔
      ∃ i j, l.Denotes kind sought ns i j m := by
  by_cases hns : l.namespaces.Has ns
  · exact hl.result_findMember_eq_some_iff kind sought hns
  · rw [findMember_of_not_has hns]
    constructor
    · intro h
      cases h
    · rintro ⟨i, j, hdenotes⟩
      exact absurd (hl.has_of_denotes hdenotes) hns

/-- A look-up that finds no member records the owner exactly if that is what is missing. -/
theorem Valid.findMember_of_result_none (hl : l.Valid)
    (h : (l.findMember kind sought ns).result = .ok none) :
    l.findMember kind sought ns =
      ⟨.ok none, if l.Unknown ns sought.owner then [.ownerMissing kind sought ns] else []⟩ := by
  have hend := hl.lookupEnd_findMember kind sought ns
  generalize l.findMember kind sought ns = outcome at hend h
  cases hend with
  | unknownOwner _ howner => rw [if_pos howner]
  | unknownMember _ howner => rw [if_neg howner]
  | _ => cases h

end Lexicon

end SymbolLexicon
