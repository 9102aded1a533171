/-
# SymbolLexicon.Proofs.Lexicon.Totality — when renaming fails, and with which error.

Renaming has three errors: the source is no namespace of the lexicon, the target is none, or the
text is no descriptor although it has to be one. Namespaces come first, the source before the
target, and their error has no context; a text that is no descriptor has the error of its check in
one context. Nothing else can go wrong, whatever names the lexicon holds: no slot is missing, no
position is astray, and no class name of a descriptor fails by itself.
-/
import SymbolLexicon.Proofs.Lexicon.Nesting

namespace SymbolLexicon

/-! ## Errors of namespaces and of descriptors -/

/-- The error for the first of two namespaces that is not there. -/
inductive Namespaces.Misses (nss : Namespaces) (a b : Namespace) : Error → Prop
  | source : ¬ nss.Has a → Namespaces.Misses nss a b (.of (.namespaceOutOfRange a nss.names))
  | target : nss.Has a → ¬ nss.Has b →
      Namespaces.Misses nss a b (.of (.namespaceOutOfRange b nss.names))

/-- The error for a text that is no descriptor: that of its check, within one context. -/
def Descriptor.RefusedBetween (s : Text) (a b : Namespace) (e : Error) : Prop :=
  ∃ e', Descriptor.check s = .error e' ∧ e = e'.within (.renamingClasses s a b)

theorem Descriptor.exists_check_error_iff {s : Text} :
    (∃ e, Descriptor.check s = .error e) ↔ ¬ IsDescriptor s := by
  rw [isDescriptor_iff_read, Descriptor.check]
  cases Descriptor.read s <;> simp

theorem Descriptor.exists_refusedBetween_iff {s : Text} {a b : Namespace} :
    (∃ e, Descriptor.RefusedBetween s a b e) ↔ ¬ IsDescriptor s := by
  rw [← Descriptor.exists_check_error_iff]
  constructor
  · rintro ⟨_, e, he, -⟩
    exact ⟨e, he⟩
  · rintro ⟨e, he⟩
    exact ⟨_, e, he, rfl⟩

namespace Namespaces

variable {nss : Namespaces} {a b : Namespace}

theorem exists_misses_iff : (∃ e, nss.Misses a b e) ↔ ¬ nss.Has a ∨ ¬ nss.Has b := by
  constructor
  · rintro ⟨_, ha | ⟨-, hb⟩⟩
    · exact .inl ha
    · exact .inr hb
  · intro h
    by_cases ha : nss.Has a
    · exact ⟨_, .target ha (h.resolve_left (not_not_intro ha))⟩
    · exact ⟨_, .source ha⟩

/-- A request that looks at both namespaces first fails for them, or later. -/
theorem check_bind_eq_error_iff {α : Type} {x : Except Error α} {e : Error} :
    (do
        nss.check a
        nss.check b
        x) = .error e ↔
      nss.Misses a b e ∨ nss.Has a ∧ nss.Has b ∧ x = .error e := by
  constructor
  · intro h
    by_cases ha : nss.Has a
    · by_cases hb : nss.Has b
      · simp only [check_eq_ok ha, check_eq_ok hb, Error.ok_bind] at h
        exact .inr ⟨ha, hb, h⟩
      · simp only [check_eq_ok ha, check_eq_error hb, Error.ok_bind, Error.error_bind] at h
        obtain rfl := Except.error.inj h
        exact .inl (.target ha hb)
    · simp only [check_eq_error ha, Error.error_bind] at h
      obtain rfl := Except.error.inj h
      exact .inl (.source ha)
  · rintro (hmisses | ⟨ha, hb, hx⟩)
    · cases hmisses with
      | source ha => simp only [check_eq_error ha, Error.error_bind]
      | target ha hb =>
        simp only [check_eq_ok ha, check_eq_error hb, Error.ok_bind, Error.error_bind]
    · simp only [check_eq_ok ha, check_eq_ok hb, Error.ok_bind, hx]

end Namespaces

namespace Lexicon

variable {l : Lexicon} {a b : Namespace}

/-! ## Errors of renaming -/

theorem Valid.renameDescriptor_eq_error_iff (hl : l.Valid) {s : Text} {e : Error} :
    l.renameDescriptor s a b = .error e ↔
      l.namespaces.Misses a b e ∨
        l.namespaces.Has a ∧ l.namespaces.Has b ∧ Descriptor.RefusedBetween s a b e := by
  have hrefused : l.namespaces.Has a → l.namespaces.Has b →
      (l.renameDescriptor s a b = .error e ↔ Descriptor.RefusedBetween s a b e) := by
    intro ha hb
    rw [hl.renameDescriptor_eq ha hb, Descriptor.RefusedBetween, Descriptor.check]
    cases Descriptor.read s <;> simp [eq_comm]
  constructor
  · intro h
    rcases Namespaces.check_bind_eq_error_iff.mp h with hmisses | ⟨ha, hb, -⟩
    · exact .inl hmisses
    · exact .inr ⟨ha, hb, (hrefused ha hb).mp h⟩
  · rintro (hmisses | ⟨ha, hb, h⟩)
    · exact Namespaces.check_bind_eq_error_iff.mpr (.inl hmisses)
    · exact (hrefused ha hb).mpr h

theorem Valid.renameClass_eq_error_iff (hl : l.Valid) {name : Text} {e : Error} :
    l.renameClass name a b = .error e ↔
      l.namespaces.Misses a b e ∨
        l.namespaces.Has a ∧ l.namespaces.Has b ∧ isArrayName name = true ∧
          Descriptor.RefusedBetween name a b e := by
  unfold renameClass
  rw [Namespaces.check_bind_eq_error_iff]
  apply or_congr_right
  apply and_congr_right
  intro ha
  apply and_congr_right
  intro hb
  cases isArrayName name with
  | false => simp [hl.renameElement_eq ha hb]
  | true =>
    -- in namespaces that are there, only the text can be refused
    have hmisses : ¬ l.namespaces.Misses a b e := by
      rintro (hsource | ⟨-, htarget⟩)
      · exact hsource ha
      · exact htarget hb
    simp [hl.renameDescriptor_eq_error_iff, hmisses, ha, hb]

/-- Renaming a descriptor fails exactly for a namespace that is not there or a text that is no
descriptor. -/
theorem Valid.renameDescriptor_fails_iff (hl : l.Valid) {s : Text} :
    (∃ e, l.renameDescriptor s a b = .error e) ↔
      ¬ l.namespaces.Has a ∨ ¬ l.namespaces.Has b ∨ ¬ IsDescriptor s := by
  simp only [hl.renameDescriptor_eq_error_iff, exists_or, exists_and_left,
    Namespaces.exists_misses_iff, Descriptor.exists_refusedBetween_iff]
  tauto

/-- Renaming a class fails exactly for a namespace that is not there or an array that is no
descriptor. -/
theorem Valid.renameClass_fails_iff (hl : l.Valid) {name : Text} :
    (∃ e, l.renameClass name a b = .error e) ↔
      ¬ l.namespaces.Has a ∨ ¬ l.namespaces.Has b ∨
        isArrayName name = true ∧ ¬ IsDescriptor name := by
  simp only [hl.renameClass_eq_error_iff, exists_or, exists_and_left,
    Namespaces.exists_misses_iff, Descriptor.exists_refusedBetween_iff]
  tauto

/-! ## What a descriptor becomes -/

/-- Where no class has a name with a delimiter, a descriptor becomes one of its kind, and its class
names are renamed one by one. -/
theorem Valid.renameDescriptor_names (hl : l.Valid) (hplain : l.PlainNames)
    (ha : l.namespaces.Has a) (hb : l.namespaces.Has b) {s t : Text}
    (h : l.renameDescriptor s a b = .ok t) :
    ∃ kind names names', Descriptor.check s = .ok kind ∧ Descriptor.check t = .ok kind ∧
      Descriptor.classNamesOf s = .ok names ∧ Descriptor.classNamesOf t = .ok names' ∧
      List.Forall₂ (fun x y => l.renameClass x a b = .ok y) names names' := by
  obtain ⟨d, hd, rfl⟩ := isDescriptor_of_renameDescriptor h
  obtain rfl := Except.ok.inj ((hl.renameDescriptor_text ha hb hd).symm.trans h)
  have hwf : (d.mapNames (l.renamed a b)).WellFormed := hl.wellFormed_renamed hplain hd
  have hkind := Descriptor.check_text hwf
  have hnames := Descriptor.classNamesOf_text hwf
  rw [Descriptor.kind_mapNames] at hkind
  rw [Descriptor.classNames_mapNames] at hnames
  refine ⟨d.kind, d.classNames, d.classNames.map (l.renamed a b), Descriptor.check_text hd, hkind,
    Descriptor.classNamesOf_text hd, hnames, ?_⟩
  rw [List.forall₂_map_right_iff, List.forall₂_same]
  intro x hx
  exact hl.renameClass_eq ha hb (isArrayName_eq_false (hd.isClassName hx))

/-- **Renaming is total on valid input.** A descriptor fails exactly for a namespace that is not
there or for being none, a class for a namespace or for an array that is no descriptor. The errors
are those of `Misses` and `RefusedBetween` and no others, so that no slot is ever missing. In full,
with each class fetched from where it is filed, the renamings never get stuck and end alike. And
where no class has a name with a delimiter, a descriptor becomes one of its kind, whose class names
are those that its own become one by one. -/
theorem Reachable.renaming_total (hl : l.Reachable) (a b : Namespace) (s : Text) :
    ((∃ e, l.renameDescriptor s a b = .error e) ↔
      ¬ l.namespaces.Has a ∨ ¬ l.namespaces.Has b ∨ ¬ IsDescriptor s) ∧
    ((∃ e, l.renameClass s a b = .error e) ↔
      ¬ l.namespaces.Has a ∨ ¬ l.namespaces.Has b ∨ isArrayName s = true ∧ ¬ IsDescriptor s) ∧
    (∀ e, l.renameDescriptor s a b = .error e ↔
      l.namespaces.Misses a b e ∨
        l.namespaces.Has a ∧ l.namespaces.Has b ∧ Descriptor.RefusedBetween s a b e) ∧
    (∀ e, l.renameClass s a b = .error e ↔
      l.namespaces.Misses a b e ∨
        l.namespaces.Has a ∧ l.namespaces.Has b ∧ isArrayName s = true ∧
          Descriptor.RefusedBetween s a b e) ∧
    (∀ limit, 1 ≤ limit → ∃ calls,
      Nesting.Ends (l.descriptorWithin a b limit s) (l.renameDescriptor s a b) calls) ∧
    (∀ limit, 2 ≤ limit → ∃ calls,
      Nesting.Ends (l.classNameWithin a b limit s) (l.renameClass s a b) calls) ∧
    (l.PlainNames → ∀ t, l.renameDescriptor s a b = .ok t →
      ∃ kind names names', Descriptor.check s = .ok kind ∧ Descriptor.check t = .ok kind ∧
        Descriptor.classNamesOf s = .ok names ∧ Descriptor.classNamesOf t = .ok names' ∧
        List.Forall₂ (fun x y => l.renameClass x a b = .ok y) names names') := by
  have hv := hl.valid
  refine ⟨hv.renameDescriptor_fails_iff, hv.renameClass_fails_iff,
    fun _ => hv.renameDescriptor_eq_error_iff, fun _ => hv.renameClass_eq_error_iff, ?_, ?_, ?_⟩
  · intro limit hlimit
    obtain ⟨n, rfl⟩ := Nat.exists_eq_add_of_le' hlimit
    exact ⟨_, hv.descriptorWithin_ends a b n s⟩
  · intro limit hlimit
    obtain ⟨n, rfl⟩ := Nat.exists_eq_add_of_le' hlimit
    exact ⟨_, hv.classNameWithin_ends a b n s⟩
  · intro hplain t ht
    have hok : ¬ ∃ e, l.renameDescriptor s a b = .error e := by
      rintro ⟨e, he⟩
      cases ht.symm.trans he
    rw [hv.renameDescriptor_fails_iff, not_or, not_or, not_not, not_not] at hok
    exact hv.renameDescriptor_names hplain hok.1 hok.2.1 ht

/-- Of two namespaces that are not there the source is reported; of a namespace and a text, the
namespace; and an array of nothing is refused for what its check says. -/
theorem crossed_renaming_total :
    crossed.Reachable ∧
      crossed.renameClass "[V" ⟨18446744073709551615⟩ ⟨7⟩ =
        .error (.of (.namespaceOutOfRange ⟨18446744073709551615⟩ ["official", "named"])) ∧
      crossed.renameDescriptor "(LA" .first ⟨7⟩ =
        .error (.of (.namespaceOutOfRange ⟨7⟩ ["official", "named"])) ∧
      Descriptor.check "[V" =
        .error ⟨[.reading .field "[V"], .fieldType (.unexpected (CodePoint.ofChar 'V'))⟩ ∧
      crossed.renameClass "[V" .first ⟨1⟩ =
        .error ⟨[.renamingClasses "[V" .first ⟨1⟩, .reading .field "[V"],
          .fieldType (.unexpected (CodePoint.ofChar 'V'))⟩ ∧
      crossed.PlainNames ∧ crossed.renameDescriptor "([LA;)LC;" .first ⟨1⟩ = .ok "([LMain;)LB;" ∧
      ∃ kind names names', Descriptor.check "([LA;)LC;" = .ok kind ∧
        Descriptor.check "([LMain;)LB;" = .ok kind ∧
        Descriptor.classNamesOf "([LA;)LC;" = .ok names ∧
        Descriptor.classNamesOf "([LMain;)LB;" = .ok names' ∧
        List.Forall₂ (fun x y => crossed.renameClass x .first ⟨1⟩ = .ok y) names names' := by
  have hl : crossed.Reachable := ⟨_, _, rfl⟩
  have hfirst : crossed.namespaces.Has .first := Namespaces.has_first _
  have hsecond : crossed.namespaces.Has ⟨1⟩ := by decide +kernel
  have hfar : ¬ crossed.namespaces.Has ⟨18446744073709551615⟩ := by decide +kernel
  have hthird : ¬ crossed.namespaces.Has ⟨7⟩ := by decide +kernel
  have hcheck : Descriptor.check "[V" =
      .error ⟨[.reading .field "[V"], .fieldType (.unexpected (CodePoint.ofChar 'V'))⟩ := by
    decide +kernel
  have hplain : crossed.PlainNames := by decide +kernel
  have hrenamed : crossed.renameDescriptor "([LA;)LC;" .first ⟨1⟩ = .ok "([LMain;)LB;" := by
    decide +kernel
  obtain ⟨-, -, -, hfarClass, -⟩ := hl.renaming_total ⟨18446744073709551615⟩ ⟨7⟩ "[V"
  obtain ⟨-, -, hthirdDescriptor, -⟩ := hl.renaming_total .first ⟨7⟩ "(LA"
  obtain ⟨-, -, -, hclass, -⟩ := hl.renaming_total .first ⟨1⟩ "[V"
  obtain ⟨-, -, -, -, -, -, hstructure⟩ := hl.renaming_total .first ⟨1⟩ "([LA;)LC;"
  exact ⟨hl, (hfarClass _).mpr (.inl (.source hfar)),
    (hthirdDescriptor _).mpr (.inl (.target hfirst hthird)), hcheck,
    (hclass _).mpr (.inr ⟨hfirst, hsecond, rfl, _, hcheck, rfl⟩), hplain, hrenamed,
    hstructure hplain _ hrenamed⟩

end Lexicon

end SymbolLexicon
