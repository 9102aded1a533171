/-
# SymbolLexicon.Proofs.Descriptor.Substitution — replacing class names, on data and on text.

On data, `mapNames` replaces class names and nothing else. It composes, it is the identity exactly
when every class name is kept, and two results are equal exactly when the two descriptors AGREE up
to class names with equal answers (`Descriptor.Rel`).

On text, `rename` reads, replaces and prints. Where the action answers every class name, the outcome
is the text of `mapNames`. Reading that text again gives the same data only if every answer is a
class name in its own right, which is when the result is well-formed.
-/
import SymbolLexicon.Proofs.Descriptor.Grammar
import Mathlib.Data.List.Forall2

namespace SymbolLexicon

/-! ## Agreement up to a relation on class names -/

/-- The same base type, or class names that are related. -/
inductive ElementType.Rel (R : Text → Text → Prop) : ElementType → ElementType → Prop
  | base (b : BaseType) : ElementType.Rel R (.base b) (.base b)
  | object {x y : Text} : R x y → ElementType.Rel R (.object x) (.object y)

/-- As many dimensions, and elements that agree. -/
structure FieldType.Rel (R : Text → Text → Prop) (t u : FieldType) : Prop where
  dimensions : t.dimensions = u.dimensions
  element : t.element.Rel R u.element

/-- Descriptors of one shape, in which class names at the same place are related. -/
inductive Descriptor.Rel (R : Text → Text → Prop) : Descriptor → Descriptor → Prop
  | field {t u : FieldType} : t.Rel R u → Descriptor.Rel R (.field t) (.field u)
  | method {ps qs : List FieldType} {r s : Option FieldType} :
      List.Forall₂ (FieldType.Rel R) ps qs → Option.Rel (FieldType.Rel R) r s →
      Descriptor.Rel R (.method ps r) (.method qs s)

/-! ## Field types -/

namespace FieldType

variable {f g : Text → Text}

theorem mapName_eq_mapName_iff {t u : FieldType} :
    t.mapName f = u.mapName g ↔ FieldType.Rel (fun x y => f x = g y) t u := by
  obtain ⟨n, e⟩ := t
  obtain ⟨k, e'⟩ := u
  refine ⟨?_, ?_⟩
  · intro h
    cases e with
    | base b =>
      cases e' with
      | base b' =>
        obtain ⟨rfl, hb⟩ := FieldType.mk.inj h
        obtain rfl := ElementType.base.inj hb
        exact ⟨rfl, .base b⟩
      | object y => cases h
    | object x =>
      cases e' with
      | base b' => cases h
      | object y =>
        obtain ⟨hn, hxy⟩ := FieldType.mk.inj h
        exact ⟨hn, .object (ElementType.object.inj hxy)⟩
  · rintro ⟨hn, he⟩
    obtain rfl : n = k := hn
    cases he with
    | base b => rfl
    | object hxy => simp only [mapName, hxy]

/-- Two functions give the same field type exactly when they answer its class name alike. -/
theorem mapName_congr_iff {t : FieldType} :
    t.mapName f = t.mapName g ↔ ∀ x ∈ t.className?, f x = g x := by
  obtain ⟨n, e⟩ := t
  cases e <;> simp [mapName, className?]

theorem mapName_mapName (t : FieldType) :
    (t.mapName f).mapName g = t.mapName fun x => g (f x) := by
  obtain ⟨n, e⟩ := t
  cases e <;> rfl

/-- Replacing the class name keeps a field type well-formed when the answer is a class name. -/
theorem WellFormed.mapName {t : FieldType} (h : t.WellFormed)
    (hf : ∀ x ∈ t.className?, IsClassName (f x)) : (t.mapName f).WellFormed := by
  obtain ⟨n, e⟩ := t
  cases e with
  | base b => exact h
  | object x => exact ⟨h.1, hf x rfl⟩

/-- The class name of a well-formed field type is one. -/
theorem WellFormed.isClassName {t : FieldType} (h : t.WellFormed) {x : Text}
    (hx : x ∈ t.className?) : IsClassName x := by
  obtain ⟨n, e⟩ := t
  cases e with
  | base b => cases hx
  | object y =>
    obtain rfl := Option.some.inj hx
    exact h.2

/-- An action that answers the class name replaces it by the answer. -/
theorem mapNameM_eq_pure {m : Type → Type} [Monad m] [LawfulMonad m] {a : Text → m Text}
    {t : FieldType} (h : ∀ x ∈ t.className?, a x = pure (f x)) :
    t.mapNameM a = pure (t.mapName f) := by
  obtain ⟨n, e⟩ := t
  cases e with
  | base b => rfl
  | object x => simp [mapNameM, mapName, h x rfl]

end FieldType

/-! ## Descriptors -/

namespace Descriptor

variable {f g : Text → Text}

/-- The field types in a descriptor, left to right. -/
def fieldTypes : Descriptor → List FieldType
  | .field t => [t]
  | .method ps r => ps ++ r.toList

theorem classNames_eq_filterMap (d : Descriptor) :
    d.classNames = d.fieldTypes.filterMap FieldType.className? := by
  cases d with
  | field t => exact map_snd_namesAt .field [t]
  | method ps r => simp [classNames, names, fieldTypes, map_snd_namesAt]

theorem mem_classNames_iff {d : Descriptor} {x : Text} :
    x ∈ d.classNames ↔ ∃ t ∈ d.fieldTypes, x ∈ t.className? := by
  simp [classNames_eq_filterMap]

theorem wellFormed_iff_forall {d : Descriptor} :
    d.WellFormed ↔ ∀ t ∈ d.fieldTypes, t.WellFormed := by
  cases d with
  | field t => simp [WellFormed, fieldTypes]
  | method ps r => simp [WellFormed, fieldTypes, or_imp, forall_and]

theorem fieldTypes_mapNames (d : Descriptor) :
    (d.mapNames f).fieldTypes = d.fieldTypes.map (FieldType.mapName f) := by
  cases d with
  | field t => rfl
  | method ps r => cases r <;> simp [mapNames, fieldTypes]

/-- The class names of a well-formed descriptor are class names. -/
theorem WellFormed.isClassName {d : Descriptor} (h : d.WellFormed) {x : Text}
    (hx : x ∈ d.classNames) : IsClassName x := by
  obtain ⟨t, ht, hxt⟩ := mem_classNames_iff.mp hx
  exact (wellFormed_iff_forall.mp h t ht).isClassName hxt

/-- Replacing class names by class names keeps a descriptor well-formed. -/
theorem WellFormed.mapNames {d : Descriptor} (h : d.WellFormed)
    (hf : ∀ x ∈ d.classNames, IsClassName (f x)) : (d.mapNames f).WellFormed := by
  rw [wellFormed_iff_forall, fieldTypes_mapNames]
  intro u hu
  obtain ⟨t, ht, rfl⟩ := List.mem_map.mp hu
  apply (wellFormed_iff_forall.mp h t ht).mapName
  intro x hx
  exact hf x (mem_classNames_iff.mpr ⟨t, ht, hx⟩)

theorem mapNames_mapNames (d : Descriptor) :
    (d.mapNames f).mapNames g = d.mapNames fun x => g (f x) := by
  have hcomp : FieldType.mapName g ∘ FieldType.mapName f =
      FieldType.mapName fun x => g (f x) := funext FieldType.mapName_mapName
  cases d with
  | field t => exact congrArg Descriptor.field t.mapName_mapName
  | method ps r => simp [mapNames, hcomp]

/-- Two results are equal exactly when the descriptors agree up to class names with equal
answers. -/
theorem mapNames_eq_mapNames_iff {d e : Descriptor} :
    d.mapNames f = e.mapNames g ↔ Descriptor.Rel (fun x y => f x = g y) d e := by
  -- parameters and results agree place by place
  have hparams : ∀ ps qs : List FieldType,
      ps.map (FieldType.mapName f) = qs.map (FieldType.mapName g) ↔
        List.Forall₂ (FieldType.Rel fun x y => f x = g y) ps qs := by
    intro ps qs
    have hrel : FieldType.Rel (fun x y => f x = g y) = fun t u => t.mapName f = u.mapName g := by
      funext t u
      exact propext FieldType.mapName_eq_mapName_iff.symm
    rw [hrel, ← List.forall₂_eq_eq_eq, List.forall₂_map_left_iff, List.forall₂_map_right_iff]
  have hresult : ∀ r s : Option FieldType,
      r.map (FieldType.mapName f) = s.map (FieldType.mapName g) ↔
        Option.Rel (FieldType.Rel fun x y => f x = g y) r s := by
    intro r s
    cases r <;> cases s <;> simp [FieldType.mapName_eq_mapName_iff]
  refine ⟨?_, ?_⟩
  · intro h
    cases d with
    | field t =>
      cases e with
      | field u => exact .field (FieldType.mapName_eq_mapName_iff.mp (Descriptor.field.inj h))
      | method qs s => cases h
    | method ps r =>
      cases e with
      | field u => cases h
      | method qs s =>
        obtain ⟨hps, hr⟩ := Descriptor.method.inj h
        exact .method ((hparams ps qs).mp hps) ((hresult r s).mp hr)
  · intro h
    cases h with
    | field ht => exact congrArg Descriptor.field (FieldType.mapName_eq_mapName_iff.mpr ht)
    | method hps hr =>
      simp only [mapNames, (hparams _ _).mpr hps, (hresult _ _).mpr hr]

/-- Two functions give the same descriptor exactly when they answer its class names alike. -/
theorem mapNames_congr_iff {d : Descriptor} :
    d.mapNames f = d.mapNames g ↔ ∀ x ∈ d.classNames, f x = g x := by
  have hall : (∀ x ∈ d.classNames, f x = g x) ↔
      ∀ t ∈ d.fieldTypes, t.mapName f = t.mapName g := by
    simp only [mem_classNames_iff, FieldType.mapName_congr_iff]
    exact ⟨fun h t ht x hx => h x ⟨t, ht, hx⟩, fun h x ⟨t, ht, hx⟩ => h t ht x hx⟩
  rw [hall]
  cases d with
  | field t => simp [mapNames, fieldTypes]
  | method ps r => cases r <;> simp [mapNames, fieldTypes, or_imp, forall_and]

theorem mapNames_id (d : Descriptor) : (d.mapNames fun x => x) = d := by
  have hid : (FieldType.mapName fun x => x) = id := by
    funext ⟨n, e⟩
    cases e <;> rfl
  cases d with
  | field t => simp [mapNames, hid]
  | method ps r => simp [mapNames, hid]

/-- Nothing changes exactly when every class name is its own answer. -/
theorem mapNames_eq_self_iff {d : Descriptor} :
    d.mapNames f = d ↔ ∀ x ∈ d.classNames, f x = x := by
  calc d.mapNames f = d ↔ d.mapNames f = d.mapNames fun x => x := by rw [mapNames_id]
    _ ↔ ∀ x ∈ d.classNames, f x = x := mapNames_congr_iff

/-! ## Text -/

section Effects

variable {m : Type → Type} [Monad m] [LawfulMonad m]

theorem mapM_mapNameM_eq_pure {a : Text → m Text} {ts : List FieldType}
    (h : ∀ t ∈ ts, t.mapNameM a = pure (t.mapName f)) :
    ts.mapM (FieldType.mapNameM a) = pure (ts.map (FieldType.mapName f)) := by
  induction ts with
  | nil => simp
  | cons t ts ih =>
    rw [List.mapM_cons, h t List.mem_cons_self, ih fun u hu => h u (List.mem_cons_of_mem _ hu)]
    simp

/-- Actions that have no effect one by one have none in a row. -/
theorem forM_eq_pure {α : Type} {xs : List α} {a : α → m PUnit}
    (h : ∀ x ∈ xs, a x = pure ⟨⟩) : xs.forM a = pure ⟨⟩ := by
  induction xs with
  | nil => rfl
  | cons x xs ih =>
    rw [List.forM_eq_forM, List.forM_cons, h x List.mem_cons_self, pure_bind]
    exact ih fun y hy => h y (List.mem_cons_of_mem _ hy)

/-- Actions that answer every class name replace each of them by its answer. -/
theorem mapNamesM_eq_pure {a : Place → Text → m Text} {d : Descriptor}
    (h : ∀ place, ∀ x ∈ d.classNames, a place x = pure (f x)) :
    d.mapNamesM a = pure (d.mapNames f) := by
  have hone : ∀ place, ∀ t ∈ d.fieldTypes, t.mapNameM (a place) = pure (t.mapName f) := by
    intro place t ht
    apply FieldType.mapNameM_eq_pure
    intro x hx
    exact h place x (mem_classNames_iff.mpr ⟨t, ht, hx⟩)
  cases d with
  | field t => simp [mapNamesM, mapNames, hone .field t List.mem_cons_self]
  | method ps r =>
    have hps := mapM_mapNameM_eq_pure fun t ht => hone .parameter t (List.mem_append_left _ ht)
    cases r with
    | none => simp [mapNamesM, mapNames, hps]
    | some t =>
      have ht := hone .result t (List.mem_append_right _ (by simp))
      simp [mapNamesM, mapNames, hps, ht]

end Effects

/-- **Where the function answers every class name, renaming writes the answers in their places.** -/
theorem rename_text {a : Text → Except Error Text} {d : Descriptor} (hd : d.WellFormed)
    (h : ∀ x ∈ d.classNames, a x = .ok (f x)) : rename a d.text = .ok (d.mapNames f).text := by
  have hask : ∀ place, ∀ x ∈ d.classNames,
      ask (m := Id) (fun name => ExceptT.mk (a name)) d.text place x = pure (f x) := by
    intro place x hx
    simp only [ask, h x hx]
    rfl
  simp only [rename, renameM, read_text hd, mapNamesM_eq_pure hask]
  rfl

/-- Where the function answers every class name it is asked for, a text that is no descriptor is
refused for what is wrong with it, whatever the answers are. -/
theorem rename_of_refused {a : Text → Except Error Text} {s : Text} {refusal : Refusal}
    (hread : read s = .error refusal) (h : ∀ p ∈ refusal.asked, ∃ t, a p.2 = .ok t) :
    rename a s = .error (refusal.reason.error s) := by
  simp only [rename, renameM, hread]
  rw [forM_eq_pure]
  · rfl
  · intro p hp
    obtain ⟨t, ht⟩ := h p hp
    simp only [ask, ht]
    rfl

/-- Renaming succeeds on descriptors only. -/
theorem isDescriptor_of_rename {a : Text → Except Error Text} {s t : Text}
    (h : rename a s = .ok t) : IsDescriptor s := by
  -- whatever the names that were asked for gave, a refusal comes after them
  have hthrow : ∀ (x : ExceptT Error Id PUnit) (e : Error),
      (x >>= fun _ => (throw e : ExceptT Error Id Text)).run ≠ .ok t := by
    rintro (e' | u) e hok
    · cases hok
    · cases hok
  rw [isDescriptor_iff_read]
  cases hread : read s with
  | ok d => exact ⟨d, rfl⟩
  | error refusal =>
    simp only [rename, renameM, hread] at h
    exact absurd h (hthrow _ _)

end Descriptor

end SymbolLexicon
