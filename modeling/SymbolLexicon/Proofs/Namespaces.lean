/-
# SymbolLexicon.Proofs.Namespaces — which lists name namespaces, and names against indices.

A list is refused for its length, then for an empty name, then for the name at the lowest index that
stands at a lower one as well. What is left are lists in which a name has one index, so that looking
a name up and looking an index up are inverse to each other. The two range checks, that of an index
that is looked up and that of every request to a lexicon, refuse the same indices in the same words.
-/
import SymbolLexicon.Renaming
import SymbolLexicon.Proofs.Lexicon.Invariant

namespace SymbolLexicon

/-! ## The first repetition -/

section Repetitions

variable {α : Type} {xs : List α} {i : Nat} {x : α}

/-- The item at an index stands at a lower index as well. -/
def RepeatsAt (xs : List α) (i : Nat) (x : α) : Prop :=
  xs[i]? = some x ∧ ∃ j < i, xs[j]? = some x

/-- The item repeats one before it, and no item at a lower index does. -/
structure FirstRepeat (xs : List α) (i : Nat) (x : α) : Prop where
  repeats : RepeatsAt xs i x
  lower : ∀ j < i, ∀ y, ¬ RepeatsAt xs j y

/-- Items that are distinct do not repeat. -/
theorem not_repeatsAt_of_nodup (h : xs.Nodup) : ¬ RepeatsAt xs i x := by
  rintro ⟨hi, j, hj, hx⟩
  obtain ⟨hlt, -⟩ := List.getElem?_eq_some_iff.mp hi
  have hij : i = j := (List.getElem?_inj hlt h).mp (hi.trans hx.symm)
  exact Nat.ne_of_gt hj hij

/-- Behind distinct items, an item that is one of them is the first that repeats. -/
theorem firstRepeat_append {before after : List α} (hbefore : before.Nodup) (hx : x ∈ before) :
    FirstRepeat (before ++ x :: after) before.length x := by
  -- below that index the list is the distinct one
  have hlow : ∀ j < before.length, (before ++ x :: after)[j]? = before[j]? :=
    fun j hj => List.getElem?_append_left hj
  refine ⟨⟨by simp, ?_⟩, ?_⟩
  · obtain ⟨j, hj, hget⟩ := List.mem_iff_getElem.mp hx
    exact ⟨j, hj, by rw [hlow j hj, List.getElem?_eq_getElem hj, hget]⟩
  · rintro j hj y ⟨hy, k, hk, hy'⟩
    rw [hlow j hj] at hy
    rw [hlow k (hk.trans hj)] at hy'
    exact not_repeatsAt_of_nodup hbefore ⟨hy, k, hk, hy'⟩

/-- There is one first repetition. -/
theorem FirstRepeat.unique {j : Nat} {y : α} (hx : FirstRepeat xs i x) (hy : FirstRepeat xs j y) :
    x = y := by
  rcases Nat.lt_trichotomy i j with hij | rfl | hji
  · exact absurd hx.repeats (hy.lower i hij x)
  · exact Option.some.inj (hx.repeats.1.symm.trans hy.repeats.1)
  · exact absurd hy.repeats (hx.lower j hji y)

variable [DecidableEq α]

/-- The item that a search finds is preceded by items among which it finds none. -/
theorem exists_append_of_firstRepeat? {seen : List α} (h : firstRepeat? seen xs = some x) :
    ∃ before after, xs = before ++ x :: after ∧ firstRepeat? seen before = none ∧
      (x ∈ seen ∨ x ∈ before) := by
  induction xs generalizing seen with
  | nil => cases h
  | cons y ys ih =>
    by_cases hy : y ∈ seen
    · simp only [firstRepeat?, hy, if_true, Option.some.injEq] at h
      subst h
      exact ⟨[], ys, rfl, rfl, .inl hy⟩
    · simp only [firstRepeat?, hy, if_false] at h
      obtain ⟨before, after, rfl, hnone, hx⟩ := ih h
      refine ⟨y :: before, after, rfl, by simpa only [firstRepeat?, hy, if_false] using hnone, ?_⟩
      rcases hx with hx | hx
      · rcases List.mem_cons.mp hx with rfl | hx
        · exact .inr List.mem_cons_self
        · exact .inl hx
      · exact .inr (List.mem_cons_of_mem y hx)

/-- The search finds the first repetition. -/
theorem firstRepeat?_eq_some_iff : firstRepeat? [] xs = some x ↔ ∃ i, FirstRepeat xs i x := by
  have hsound : ∀ y, firstRepeat? [] xs = some y → ∃ i, FirstRepeat xs i y := by
    intro y h
    obtain ⟨before, after, rfl, hnone, hy⟩ := exists_append_of_firstRepeat? h
    exact ⟨before.length, firstRepeat_append (firstRepeat?_eq_none_iff.mp hnone).1
      (hy.resolve_left List.not_mem_nil)⟩
  refine ⟨hsound x, ?_⟩
  rintro ⟨i, hx⟩
  cases hfound : firstRepeat? [] xs with
  | none => exact absurd hx.repeats (not_repeatsAt_of_nodup (firstRepeat?_eq_none_iff.mp hfound).1)
  | some y =>
    obtain ⟨j, hy⟩ := hsound y hfound
    rw [hx.unique hy]

end Repetitions

/-! ## Lists of names -/

namespace Namespaces

variable {nss : Namespaces} {names : List String} {ns : Namespace} {name : String} {e : Error}

/-- The errors of a list that names no namespaces: too few names, an empty one, then the first that
is repeated. -/
inductive Refused (names : List String) : Error → Prop
  | tooFew : names.length < 2 → Refused names (.of (.tooFewNamespaces names))
  | unnamed : 2 ≤ names.length → "" ∈ names → Refused names (.of (.unnamedNamespace names))
  | repeated {i : Nat} {name : String} : 2 ≤ names.length → "" ∉ names →
      FirstRepeat names i name → Refused names (.of (.repeatedNamespace name names))

/-- An accepted list is kept as it is, and the names of any namespaces are accepted. -/
theorem ofList_eq_ok_iff : ofList names = .ok nss ↔ nss.names = names := by
  constructor
  · intro h
    unfold ofList at h
    split at h
    · cases h
    split at h
    · cases h
    split at h
    · cases h
    · cases h
      rfl
  · rintro rfl
    have hlength : ¬ nss.names.length < 2 := Nat.not_lt_of_le nss.two_le_length
    have hrepeat : firstRepeat? [] nss.names = none :=
      firstRepeat?_eq_none_iff.mpr ⟨nss.nodup, by simp⟩
    rw [ofList, dif_neg hlength, dif_neg nss.forall_ne_empty]
    split
    · rename_i found hfound
      rw [hrepeat] at hfound
      cases hfound
    · rfl

/-- Two names or more are accepted, if none is empty and no two are equal. -/
theorem exists_ofList_iff :
    (∃ nss, ofList names = .ok nss) ↔ 2 ≤ names.length ∧ "" ∉ names ∧ names.Nodup := by
  simp only [ofList_eq_ok_iff]
  constructor
  · rintro ⟨nss, rfl⟩
    exact ⟨nss.two_le_length, nss.forall_ne_empty, nss.nodup⟩
  · rintro ⟨hlength, hempty, hnodup⟩
    exact ⟨⟨names, hlength, hempty, hnodup⟩, rfl⟩

theorem ofList_eq_error_iff : ofList names = .error e ↔ Refused names e := by
  constructor
  · intro h
    unfold ofList at h
    split at h
    · rename_i hlength
      cases h
      exact .tooFew hlength
    rename_i hlength
    split at h
    · rename_i hempty
      cases h
      exact .unnamed (Nat.le_of_not_lt hlength) hempty
    rename_i hempty
    split at h
    · rename_i name hfound
      cases h
      obtain ⟨i, hfirst⟩ := firstRepeat?_eq_some_iff.mp hfound
      exact .repeated (Nat.le_of_not_lt hlength) hempty hfirst
    · cases h
  · intro h
    cases h with
    | tooFew hlength => rw [ofList, dif_pos hlength]
    | unnamed hlength hempty => rw [ofList, dif_neg (Nat.not_lt_of_le hlength), dif_pos hempty]
    | @repeated i name hlength hempty hfirst =>
      have hfound : firstRepeat? [] names = some name := firstRepeat?_eq_some_iff.mpr ⟨i, hfirst⟩
      rw [ofList, dif_neg (Nat.not_lt_of_le hlength), dif_neg hempty]
      split
      · rename_i other hother
        rw [hfound] at hother
        cases hother
        rfl
      · rename_i hnone
        rw [hfound] at hnone
        cases hnone

/-! ## Names and indices -/

/-- The name of a namespace is the one at its index. -/
theorem get_eq_ok_iff : nss.get ns = .ok name ↔ nss.names[ns.index]? = some name := by
  unfold get
  cases nss.names[ns.index]? <;> simp

theorem get_eq_error_iff :
    nss.get ns = .error e ↔ ¬ nss.Has ns ∧ e = .of (.namespaceOutOfRange ns nss.names) := by
  unfold get Has size
  cases hname : nss.names[ns.index]? with
  | none => simp [List.getElem?_eq_none_iff.mp hname, eq_comm]
  | some name => simp [(List.getElem?_eq_some_iff.mp hname).1]

/-- The index of a name is the only one at which it stands. -/
theorem find_eq_ok_iff : nss.find name = .ok ns ↔ nss.names[ns.index]? = some name := by
  have hindex : nss.names.idxOf? name = some ns.index ↔ nss.names[ns.index]? = some name := by
    rw [List.idxOf?_eq_some_iff]
    constructor
    · rintro ⟨hlt, hname, -⟩
      exact List.getElem?_eq_some_iff.mpr ⟨hlt, hname⟩
    · intro hget
      obtain ⟨hlt, hname⟩ := List.getElem?_eq_some_iff.mp hget
      refine ⟨hlt, hname, ?_⟩
      -- a name at a lower index as well would be a repetition
      intro j hj hname'
      have hlower : nss.names[j]? = some name :=
        List.getElem?_eq_some_iff.mpr ⟨hj.trans hlt, hname'⟩
      exact not_repeatsAt_of_nodup nss.nodup ⟨hget, j, hj, hlower⟩
  rw [← hindex]
  unfold find
  cases nss.names.idxOf? name with
  | none => simp
  | some i => cases ns; simp

theorem find_eq_error_iff :
    nss.find name = .error e ↔ name ∉ nss.names ∧ e = .of (.unknownNamespace name nss.names) := by
  rw [← List.idxOf?_eq_none_iff]
  unfold find
  cases nss.names.idxOf? name <;> simp [eq_comm]

/-- A name is found at an index exactly if it is the name there. -/
theorem find_eq_ok_iff_get : nss.find name = .ok ns ↔ nss.get ns = .ok name :=
  find_eq_ok_iff.trans get_eq_ok_iff.symm

/-- Both range checks refuse the same indices with the same error. -/
theorem check_eq_error_iff_get : nss.check ns = .error e ↔ nss.get ns = .error e := by
  rw [get_eq_error_iff]
  by_cases hns : nss.Has ns
  · simp [check_eq_ok hns, hns]
  · simp [check_eq_error hns, hns, eq_comm]

end Namespaces

/-! ## Requests by index and by name -/

/-- A class is sought in every namespace that there is, and in no other. -/
theorem Lexicon.findClass_eq_error_iff {l : Lexicon} {owner : Text} {ns : Namespace} {e : Error} :
    l.findClass owner ns = .error e ↔ l.namespaces.check ns = .error e := by
  by_cases hns : l.namespaces.Has ns
  · simp [findClass_eq_ok hns, Namespaces.check_eq_ok hns]
  · simp [findClass_eq_error hns, Namespaces.check_eq_error hns]

/-- A renaming that is made by names reads between the namespaces of these names. -/
theorem Renaming.result_betweenNamed_eq_ok_iff {l : Lexicon} {source target : String}
    {r : Renaming} :
    (Renaming.betweenNamed l source target).result = .ok r ↔
      r.lexicon = l ∧ l.namespaces.find source = .ok r.source ∧
        l.namespaces.find target = .ok r.target := by
  obtain ⟨l', a, b⟩ := r
  unfold betweenNamed
  cases l.namespaces.find source with
  | error e => simp [Traced.lift]
  | ok a' =>
    cases l.namespaces.find target with
    | error e => simp [Traced.lift]
    | ok b' => simp [between, Traced.emit, eq_comm]

namespace Namespaces

/-- **The names of namespaces and their indices determine each other.** A list is accepted exactly
if it has two names or more, none of them empty and no two equal; every other list has the error of
the first of these conditions that fails, and a repeated name is the one at the lowest index that
repeats an earlier one. In an accepted list, looking a name up is the inverse of looking an index
up; an index is refused exactly if it is beyond the list, a name exactly if it is not in it. A
lexicon refuses the same indices with the same error, and a renaming made by names is one between
the indices of these names. -/
theorem names_and_indices_inverse (names : List String) :
    ((∃ nss, ofList names = .ok nss) ↔ 2 ≤ names.length ∧ "" ∉ names ∧ names.Nodup) ∧
    (∀ e, ofList names = .error e ↔ Refused names e) ∧
    ∀ nss, ofList names = .ok nss →
      (∀ ns name, nss.find name = .ok ns ↔ nss.get ns = .ok name) ∧
      (∀ ns name, nss.get ns = .ok name ↔ names[ns.index]? = some name) ∧
      (∀ ns e, nss.get ns = .error e ↔
        names.length ≤ ns.index ∧ e = .of (.namespaceOutOfRange ns names)) ∧
      (∀ name e, nss.find name = .error e ↔
        name ∉ names ∧ e = .of (.unknownNamespace name names)) ∧
      (∀ ns e, nss.check ns = .error e ↔ nss.get ns = .error e) ∧
      ∀ as,
        (∀ owner ns e, (Lexicon.ofHistory nss as).findClass owner ns = .error e ↔
          nss.get ns = .error e) ∧
        ∀ source target r,
          (Renaming.betweenNamed (Lexicon.ofHistory nss as) source target).result = .ok r ↔
            r.lexicon = Lexicon.ofHistory nss as ∧ nss.get r.source = .ok source ∧
              nss.get r.target = .ok target := by
  refine ⟨exists_ofList_iff, fun _ => ofList_eq_error_iff, ?_⟩
  intro nss h
  obtain rfl := ofList_eq_ok_iff.mp h
  refine ⟨fun _ _ => find_eq_ok_iff_get, fun _ _ => get_eq_ok_iff, ?_, fun _ _ => find_eq_error_iff,
    fun _ _ => check_eq_error_iff_get, ?_⟩
  · intro ns e
    rw [get_eq_error_iff, Has, size, Nat.not_lt]
  · intro as
    have hnss := Lexicon.namespaces_ofHistory nss as
    refine ⟨?_, ?_⟩
    · intro owner ns e
      rw [Lexicon.findClass_eq_error_iff, hnss, check_eq_error_iff_get]
    · intro source target r
      rw [Renaming.result_betweenNamed_eq_ok_iff, hnss, find_eq_ok_iff_get, find_eq_ok_iff_get]

/-- Three names are accepted, and the last stands at the last index; the next index and the largest
of 64 bits are refused, and so is a name that is not there. Of two names that are repeated, the one
whose repetition comes first is reported, although the other one stands before it. -/
theorem three_names_and_indices :
    let names := ["official", "intermediary", "named"]
    let crossing := ["a", "b", "c", "b", "a"]
    (∃ nss, ofList names = .ok nss ∧
      nss.get ⟨2⟩ = .ok "named" ∧ nss.find "named" = .ok ⟨2⟩ ∧
      nss.check ⟨3⟩ = .error (.of (.namespaceOutOfRange ⟨3⟩ names)) ∧
      nss.get ⟨18446744073709551615⟩ =
        .error (.of (.namespaceOutOfRange ⟨18446744073709551615⟩ names)) ∧
      nss.find "mojmap" = .error (.of (.unknownNamespace "mojmap" names)) ∧
      (Renaming.betweenNamed (.empty nss) "official" "named").result =
        .ok ⟨.empty nss, .first, ⟨2⟩⟩) ∧
    Refused crossing (.of (.repeatedNamespace "b" crossing)) := by
  intro names crossing
  obtain ⟨haccepted, -, hnamespaces⟩ := names_and_indices_inverse names
  obtain ⟨-, hrefused, -⟩ := names_and_indices_inverse crossing
  obtain ⟨nss, hnss⟩ := haccepted.mpr (by decide)
  obtain ⟨hinverse, hget, hoverflow, hunknown, hcheck, hlexicon⟩ := hnamespaces nss hnss
  have hlast : nss.get ⟨2⟩ = .ok "named" := (hget ⟨2⟩ "named").mpr rfl
  have hfirst : nss.get .first = .ok "official" := (hget .first "official").mpr rfl
  refine ⟨⟨nss, hnss, hlast, (hinverse ⟨2⟩ "named").mpr hlast, (hcheck ⟨3⟩ _).mpr ?_,
    (hoverflow _ _).mpr ⟨by decide, rfl⟩, (hunknown "mojmap" _).mpr ⟨by decide, rfl⟩, ?_⟩,
    (hrefused _).mp rfl⟩
  · exact (hoverflow ⟨3⟩ _).mpr ⟨by decide, rfl⟩
  · exact ((hlexicon []).2 "official" "named" _).mpr ⟨rfl, hfirst, hlast⟩

end Namespaces

end SymbolLexicon
