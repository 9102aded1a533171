/-
# SymbolLexicon.Register — entries in the order of their insertion, found by a key in any namespace.

An entry has at most one KEY in each namespace. A register keeps its entries in the order in which
they came and an index from slots, a slot being a namespace with a key in it, to positions. A
look-up is one search in the index and never a scan.

`add` refuses an entry when one of its slots is taken, reports the lowest such namespace together
with the entry that holds the slot, and then changes nothing; so no two entries ever share a slot.
-/
import SymbolLexicon.Namespace
import Std.Data.TreeMap.Lemmas

namespace SymbolLexicon

/-! ## Keys and slots -/

/-- Entries of type `α` are found by keys of type `κ`: for each namespace, in order, a key or
none. -/
class Keyed (κ : outParam Type) (α : Type) where
  keys : α → List (Option κ)

/-- The key of an entry in a namespace. -/
def Keyed.key? {κ α : Type} [Keyed κ α] (e : α) (ns : Namespace) : Option κ :=
  (Keyed.keys e)[ns.index]?.join

/-- A key in a namespace. -/
structure Slot (κ : Type) where
  space : Namespace
  key : κ
deriving DecidableEq

namespace Slot

variable {κ : Type} [Ord κ]

/-- Slots are ordered by namespace, then by key. -/
instance : Ord (Slot κ) :=
  ⟨compareLex (compareOn fun s => s.space.index) (compareOn Slot.key)⟩

instance [Std.TransOrd κ] : Std.TransOrd (Slot κ) :=
  inferInstanceAs
    (Std.TransCmp (compareLex (compareOn fun s : Slot κ => s.space.index) (compareOn Slot.key)))

instance [Std.LawfulEqOrd κ] : Std.LawfulEqOrd (Slot κ) where
  compare_self {s} := by
    change (compare s.space.index s.space.index).then (compare s.key s.key) = .eq
    simp
  eq_of_compare {s t} h := by
    obtain ⟨⟨i⟩, k⟩ := s
    obtain ⟨⟨j⟩, l⟩ := t
    replace h : (compare i j).then (compare k l) = .eq := h
    obtain ⟨hi, hk⟩ := Ordering.then_eq_eq.mp h
    cases Std.LawfulEqOrd.eq_of_compare hi
    cases Std.LawfulEqOrd.eq_of_compare hk
    rfl

end Slot

/-- The slots of an entry, lowest namespace first. -/
def Keyed.slots {κ α : Type} [Keyed κ α] (e : α) : List (Slot κ) :=
  (Keyed.keys e).zipIdx.filterMap fun (key, i) => key.map fun k => ⟨⟨i⟩, k⟩

/-- A slot belongs to an entry when the entry has its key in its namespace. -/
theorem Keyed.mem_slots_iff {κ α : Type} [Keyed κ α] {e : α} {s : Slot κ} :
    s ∈ Keyed.slots e ↔ Keyed.key? e s.space = some s.key := by
  obtain ⟨⟨i⟩, k⟩ := s
  simp only [Keyed.slots, Keyed.key?, List.mem_filterMap, Option.join_eq_some_iff,
    Option.map_eq_some_iff, Prod.exists, Slot.mk.injEq, Namespace.mk.injEq,
    List.mk_mem_zipIdx_iff_getElem?]
  constructor
  · rintro ⟨key, j, hj, k', rfl, rfl, rfl⟩
    exact hj
  · intro h
    exact ⟨some k, i, h, k, rfl, rfl, rfl⟩

/-- No two slots of an entry are in one namespace. -/
theorem Keyed.pairwise_slots {κ α : Type} [Keyed κ α] (e : α) :
    (Keyed.slots e).Pairwise fun s t => s.space.index < t.space.index := by
  have hpositions : (Keyed.keys e).zipIdx.Pairwise fun p q => p.2 < q.2 := by
    rw [← List.pairwise_map, List.zipIdx_map_snd]
    exact List.pairwise_lt_range' 1
  rw [Keyed.slots, List.pairwise_filterMap]
  refine hpositions.imp ?_
  rintro ⟨key, i⟩ ⟨key', j⟩ hij s hs t ht
  obtain ⟨k, -, rfl⟩ := Option.map_eq_some_iff.mp hs
  obtain ⟨k', -, rfl⟩ := Option.map_eq_some_iff.mp ht
  exact hij

/-! ## Registers -/

/-- Entries in order of insertion, and the position that holds each slot. -/
structure Register (κ α : Type) [Ord κ] where
  entries : Array α
  index : Std.TreeMap (Slot κ) Nat

/-- A key that is taken, and the entry that holds it. -/
structure Clash (κ α : Type) where
  key : κ
  held : α

namespace Register

variable {κ α : Type} [Ord κ]

/-- A register without entries. -/
def empty : Register κ α := ⟨#[], ∅⟩

/-- The number of entries. -/
def size (r : Register κ α) : Nat := r.entries.size

/-- The position of the entry with the given key in the given namespace. -/
def position? (r : Register κ α) (ns : Namespace) (key : κ) : Option Nat := r.index[Slot.mk ns key]?

/-- The entry with the given key in the given namespace. -/
def find? (r : Register κ α) (ns : Namespace) (key : κ) : Option α :=
  (r.position? ns key).bind fun i => r.entries[i]?

/-- The first of the slots that is taken. -/
def clash? (r : Register κ α) (slots : List (Slot κ)) : Option (Clash κ α) :=
  slots.findSome? fun s => (r.find? s.space s.key).map (Clash.mk s.key)

/-- The index with all the slots at one position. -/
def indexAt (index : Std.TreeMap (Slot κ) Nat) (slots : List (Slot κ)) (position : Nat) :
    Std.TreeMap (Slot κ) Nat :=
  slots.foldl (fun index s => index.insert s position) index

/-- A slot that was just indexed is at the new position, and every other one is where it was. -/
theorem getElem?_indexAt [Std.TransOrd κ] [Std.LawfulEqOrd κ] (index : Std.TreeMap (Slot κ) Nat)
    (slots : List (Slot κ)) (position : Nat) (s : Slot κ) [Decidable (s ∈ slots)] :
    (indexAt index slots position)[s]? = if s ∈ slots then some position else index[s]? := by
  rename_i dec
  revert dec
  induction slots generalizing index with
  | nil => simp [indexAt]
  | cons t ts ih =>
    intro dec
    have hfold : indexAt index (t :: ts) position = indexAt (index.insert t position) ts position :=
      rfl
    have := Classical.propDecidable (s ∈ ts)
    rw [hfold, ih, Std.TreeMap.getElem?_insert]
    by_cases hs : s ∈ ts
    · simp [hs]
    · by_cases ht : t = s
      · simp [ht]
      · have hcmp : compare t s ≠ .eq := fun h => ht (Std.LawfulEqOrd.eq_of_compare h)
        have hne : s ≠ t := fun h => ht h.symm
        simp [hs, hcmp, hne]

/-- The register with one more entry at the end, unless one of its slots is taken. -/
def add [Keyed κ α] (r : Register κ α) (e : α) : Except (Clash κ α) (Register κ α) :=
  match r.clash? (Keyed.slots e) with
  | some clash => .error clash
  | none => .ok ⟨r.entries.push e, indexAt r.index (Keyed.slots e) r.entries.size⟩

/-- The register with the entry that has the given key in the given namespace replaced by one with
the same keys. -/
def replace (r : Register κ α) (ns : Namespace) (key : κ) (e : α) : Register κ α :=
  match r.position? ns key with
  | some i => ⟨r.entries.setIfInBounds i e, r.index⟩
  | none => r

end Register

end SymbolLexicon
