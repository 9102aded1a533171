/-
# SymbolLexicon.Proofs.Register — the index of a register says exactly where each key is.

A look-up never scans, so its answer is only as good as the index. `Indexed` is the invariant that
makes it right: a position is filed under a key in a namespace exactly when the entry there has that
key there. No slot is missing, none is stale, and none is out of bounds; and since the index is a
function, no two entries share a key.

The empty register is indexed, an addition keeps the invariant because a clash is refused, and a
replacement keeps it because the keys stay. In an indexed register, the clash that an addition is
refused for is the first one that a scan of the entries would meet.
-/
import SymbolLexicon.Register

namespace SymbolLexicon.Register

variable {κ α : Type} [Ord κ] [Keyed κ α]

/-- A position is filed under a key in a namespace exactly when the entry there has it. -/
def Indexed (r : Register κ α) : Prop :=
  ∀ ns key i, r.position? ns key = some i ↔
    ∃ e, r.entries[i]? = some e ∧ Keyed.key? e ns = some key

namespace Indexed

variable {r : Register κ α} {ns : Namespace} {key : κ}

/-! ## What look-ups answer -/

/-- A look-up finds the entry that a scan for the key would find. -/
theorem find?_eq_some_iff (h : r.Indexed) {e : α} :
    r.find? ns key = some e ↔ e ∈ r.entries ∧ Keyed.key? e ns = some key := by
  unfold find?
  rw [Option.bind_eq_some_iff]
  refine ⟨?_, ?_⟩
  · rintro ⟨i, hi, he⟩
    obtain ⟨e', he', hkey⟩ := (h ns key i).mp hi
    obtain rfl := Option.some.inj (he'.symm.trans he)
    exact ⟨Array.mem_of_getElem? he, hkey⟩
  · rintro ⟨hmem, hkey⟩
    obtain ⟨i, hi⟩ := Array.mem_iff_getElem?.mp hmem
    exact ⟨i, (h ns key i).mpr ⟨e, hi, hkey⟩, hi⟩

theorem find?_eq_none_iff (h : r.Indexed) :
    r.find? ns key = none ↔ ∀ e ∈ r.entries, Keyed.key? e ns ≠ some key := by
  refine ⟨?_, ?_⟩
  · intro hnone e he hkey
    rw [h.find?_eq_some_iff.mpr ⟨he, hkey⟩] at hnone
    cases hnone
  · intro hall
    cases hfind : r.find? ns key with
    | none => rfl
    | some e =>
      obtain ⟨he, hkey⟩ := h.find?_eq_some_iff.mp hfind
      exact absurd hkey (hall e he)

/-- A look-up answers what a scan of the entries answers. -/
theorem find?_eq_scan [DecidableEq κ] (h : r.Indexed) (ns : Namespace) (key : κ) :
    r.find? ns key = r.entries.toList.find? fun e => Keyed.key? e ns = some key := by
  cases hscan : r.entries.toList.find? fun e => Keyed.key? e ns = some key with
  | none =>
    rw [h.find?_eq_none_iff]
    intro e he
    simpa using List.find?_eq_none.mp hscan e (Array.mem_def.mp he)
  | some e =>
    have hkey : Keyed.key? e ns = some key := by simpa using List.find?_some hscan
    exact h.find?_eq_some_iff.mpr ⟨Array.mem_def.mpr (List.mem_of_find?_eq_some hscan), hkey⟩

/-- Registers of the same entries answer alike, wherever the entries stand. -/
theorem find?_congr (h : r.Indexed) {r' : Register κ α} (h' : r'.Indexed)
    (hentries : ∀ e, e ∈ r.entries ↔ e ∈ r'.entries) : r.find? ns key = r'.find? ns key := by
  apply Option.ext
  intro e
  show r.find? ns key = some e ↔ r'.find? ns key = some e
  rw [h.find?_eq_some_iff, h'.find?_eq_some_iff, hentries]

/-- A position that is filed is one of the entries. -/
theorem lt_size (h : r.Indexed) {i : Nat} (hi : r.position? ns key = some i) :
    i < r.entries.size := by
  obtain ⟨e, he, -⟩ := (h ns key i).mp hi
  exact (Array.getElem?_eq_some_iff.mp he).1

/-- Entries with a common key are at one position. -/
theorem position_unique (h : r.Indexed) {i j : Nat} {e e' : α} (hi : r.entries[i]? = some e)
    (hj : r.entries[j]? = some e') (hkey : Keyed.key? e ns = some key)
    (hkey' : Keyed.key? e' ns = some key) : i = j := by
  have hposi := (h ns key i).mpr ⟨e, hi, hkey⟩
  have hposj := (h ns key j).mpr ⟨e', hj, hkey'⟩
  exact Option.some.inj (hposi.symm.trans hposj)

/-- Entries with a common key are equal. -/
theorem eq_of_key? (h : r.Indexed) {e e' : α} (he : e ∈ r.entries) (he' : e' ∈ r.entries)
    (hkey : Keyed.key? e ns = some key) (hkey' : Keyed.key? e' ns = some key) : e = e' := by
  have hfind := h.find?_eq_some_iff.mpr ⟨he, hkey⟩
  have hfind' := h.find?_eq_some_iff.mpr ⟨he', hkey'⟩
  exact Option.some.inj (hfind.symm.trans hfind')

end Indexed

variable {r r' : Register κ α} {e : α}

/-! ## Replacements -/

omit [Keyed κ α] in
theorem mem_entries_replace {ns : Namespace} {key : κ} {e' : α}
    (h : e' ∈ (r.replace ns key e).entries) : e' = e ∨ e' ∈ r.entries := by
  unfold replace at h
  split at h
  · exact (Array.mem_or_eq_of_mem_setIfInBounds h).symm
  · exact .inr h

omit [Keyed κ α] in
/-- There is nothing to replace under a key that is not filed. -/
theorem replace_of_position?_eq_none {ns : Namespace} {key : κ}
    (hpos : r.position? ns key = none) : r.replace ns key e = r := by
  unfold replace
  rw [hpos]

omit [Keyed κ α] in
/-- A replacement leaves every key filed where it was. -/
theorem position?_replace (r : Register κ α) (ns : Namespace) (key : κ) (e : α) (ns' : Namespace)
    (key' : κ) : (r.replace ns key e).position? ns' key' = r.position? ns' key' := by
  unfold replace
  split <;> rfl

omit [Keyed κ α] in
/-- A replacement changes the entry at the position of its key, and no other. -/
theorem getElem?_entries_replace {ns : Namespace} {key : κ} {p : Nat}
    (hpos : r.position? ns key = some p) (hlt : p < r.entries.size) (i : Nat) :
    (r.replace ns key e).entries[i]? = if p = i then some e else r.entries[i]? := by
  unfold replace
  rw [hpos, Array.getElem?_setIfInBounds]
  simp [hlt]

/-- An entry with the same keys can take the place of another one. -/
theorem Indexed.replace (hr : r.Indexed) {ns : Namespace} {key : κ}
    (hkeys : ∀ e₀, r.find? ns key = some e₀ → Keyed.keys e = Keyed.keys e₀) :
    (r.replace ns key e).Indexed := by
  cases hpos : r.position? ns key with
  | none =>
    rw [replace_of_position?_eq_none hpos]
    exact hr
  | some p =>
    obtain ⟨e₀, he₀, -⟩ := (hr ns key p).mp hpos
    have hsame : ∀ ns', Keyed.key? e ns' = Keyed.key? e₀ ns' := by
      intro ns'
      have := hkeys e₀ (by simp [find?, hpos, he₀])
      simp only [Keyed.key?, this]
    intro ns' key' i
    -- every position stays filed where it was, and only the entry at `p` is another
    rw [position?_replace, getElem?_entries_replace hpos (hr.lt_size hpos), hr ns' key' i]
    by_cases hpi : p = i
    · subst hpi
      simp [he₀, hsame]
    · simp [hpi]

/-- An entry that takes the place of one with the same keys is found by those keys, and every other
key finds what it found before. -/
theorem Indexed.find?_replace [DecidableEq κ] (hr : r.Indexed) {ns : Namespace} {key : κ} {e₀ : α}
    (hfind : r.find? ns key = some e₀) (ns' : Namespace) (key' : κ) :
    (r.replace ns key e).find? ns' key' =
      if Keyed.key? e₀ ns' = some key' then some e else r.find? ns' key' := by
  obtain ⟨p, hpos, he₀⟩ := Option.bind_eq_some_iff.mp hfind
  have hlt := hr.lt_size hpos
  by_cases hkey' : Keyed.key? e₀ ns' = some key'
  · -- the key is filed at the position where the new entry now stands
    have hpos' : r.position? ns' key' = some p := (hr ns' key' p).mpr ⟨e₀, he₀, hkey'⟩
    rw [if_pos hkey', find?, position?_replace, hpos', Option.bind_some,
      getElem?_entries_replace hpos hlt, if_pos rfl]
  · rw [if_neg hkey', find?, find?, position?_replace]
    cases hpos' : r.position? ns' key' with
    | none => rfl
    | some i =>
      obtain ⟨e', he', hkey⟩ := (hr ns' key' i).mp hpos'
      have hne : p ≠ i := by
        rintro rfl
        obtain rfl := Option.some.inj (he₀.symm.trans he')
        exact hkey' hkey
      rw [Option.bind_some, Option.bind_some, getElem?_entries_replace hpos hlt, if_neg hne]

/-- A replacement puts the new entry in the place of the one with the key, and leaves the others. -/
theorem Indexed.entries_replace [DecidableEq κ] (hr : r.Indexed) (ns : Namespace) (key : κ)
    (e : α) :
    (r.replace ns key e).entries =
      r.entries.map fun e' => if Keyed.key? e' ns = some key then e else e' := by
  apply Array.ext_getElem?
  intro i
  rw [Array.getElem?_map]
  cases hpos : r.position? ns key with
  | none =>
    have hfree := hr.find?_eq_none_iff.mp (show r.find? ns key = none by rw [find?, hpos]; rfl)
    rw [replace_of_position?_eq_none hpos]
    cases hi : r.entries[i]? with
    | none => rfl
    | some e' => rw [Option.map_some, if_neg (hfree e' (Array.mem_of_getElem? hi))]
  | some p =>
    obtain ⟨e₀, he₀, hkey₀⟩ := (hr ns key p).mp hpos
    rw [getElem?_entries_replace hpos (hr.lt_size hpos)]
    by_cases hp : p = i
    · subst hp
      rw [if_pos rfl, he₀, Option.map_some, if_pos hkey₀]
    · rw [if_neg hp]
      cases hi : r.entries[i]? with
      | none => rfl
      | some e' =>
        -- another entry with the key would be filed at `p` as well
        have hkey : Keyed.key? e' ns ≠ some key := by
          intro hkey
          exact hp (hr.position_unique he₀ hi hkey₀ hkey)
        rw [Option.map_some, if_neg hkey]

/-! ## Additions -/

theorem clash?_eq_none_iff :
    r.clash? (Keyed.slots e) = none ↔
      ∀ ns key, Keyed.key? e ns = some key → r.find? ns key = none := by
  simp only [clash?, List.findSome?_eq_none_iff, Option.map_eq_none_iff]
  refine ⟨?_, ?_⟩
  · intro h ns key hkey
    exact h ⟨ns, key⟩ (Keyed.mem_slots_iff.mpr hkey)
  · intro h s hs
    exact h s.space s.key (Keyed.mem_slots_iff.mp hs)

/-- An entry is added at the end exactly when none of its keys is taken. -/
theorem add_eq_ok_iff :
    r.add e = .ok r' ↔
      (∀ ns key, Keyed.key? e ns = some key → r.find? ns key = none) ∧
        r' = ⟨r.entries.push e, indexAt r.index (Keyed.slots e) r.entries.size⟩ := by
  rw [← clash?_eq_none_iff]
  unfold add
  split
  · rename_i clash hclash
    simp [hclash]
  · rename_i hclash
    simp [hclash, eq_comm]

/-- No entry has a key of `e`, in any namespace. -/
def Free (r : Register κ α) (e : α) : Prop :=
  ∀ ns key, Keyed.key? e ns = some key → ∀ e' ∈ r.entries, Keyed.key? e' ns ≠ some key

/-- In an indexed register, an entry is added exactly when a scan finds none of its keys taken. -/
theorem Indexed.exists_add_iff (hr : r.Indexed) : (∃ r', r.add e = .ok r') ↔ r.Free e := by
  simp only [add_eq_ok_iff, hr.find?_eq_none_iff, Free]
  exact ⟨fun ⟨_, h, _⟩ => h, fun h => ⟨_, h, rfl⟩⟩

/-- An entry of the register has a key of `e` in `ns`, and none has one in a lower namespace. -/
structure FirstClash (r : Register κ α) (e : α) (ns : Namespace) (clash : Clash κ α) : Prop where
  key : Keyed.key? e ns = some clash.key
  mem : clash.held ∈ r.entries
  held : Keyed.key? clash.held ns = some clash.key
  lower : ∀ ns' key, ns'.index < ns.index → Keyed.key? e ns' = some key →
    ∀ e' ∈ r.entries, Keyed.key? e' ns' ≠ some key

theorem Indexed.clash?_eq_some_iff (hr : r.Indexed) {clash : Clash κ α} :
    r.clash? (Keyed.slots e) = some clash ↔ ∃ ns, r.FirstClash e ns clash := by
  have hsorted := Keyed.pairwise_slots e
  have hmem : ∀ s, s ∈ Keyed.slots e ↔ Keyed.key? e s.space = some s.key :=
    fun s => Keyed.mem_slots_iff
  refine ⟨?_, ?_⟩
  · intro h
    obtain ⟨before, s, after, hslots, hs, hbefore⟩ := List.findSome?_eq_some_iff.mp h
    obtain ⟨held, hfind, rfl⟩ := Option.map_eq_some_iff.mp hs
    obtain ⟨hheld, hkey⟩ := hr.find?_eq_some_iff.mp hfind
    rw [hslots] at hsorted hmem
    refine ⟨s.space, (hmem s).mp (by simp), hheld, hkey, ?_⟩
    -- a slot of `e` in a lower namespace stands before `s`, where nothing is taken
    intro ns key hlt hlower
    have hslot := (hmem ⟨ns, key⟩).mpr hlower
    have hafter := (List.pairwise_cons.mp (List.pairwise_append.mp hsorted).2.1).1
    rcases List.mem_append.mp hslot with hslot | hslot
    · have hfree := hbefore _ hslot
      exact hr.find?_eq_none_iff.mp (Option.map_eq_none_iff.mp hfree)
    · rcases List.mem_cons.mp hslot with rfl | hslot
      · exact absurd hlt (Nat.lt_irrefl _)
      · exact absurd hlt (Nat.lt_asymm (hafter _ hslot))
  · rintro ⟨ns, hfirst⟩
    have hslot : (⟨ns, clash.key⟩ : Slot κ) ∈ Keyed.slots e := (hmem _).mpr hfirst.key
    obtain ⟨before, after, hslots⟩ := List.append_of_mem hslot
    rw [hslots] at hsorted hmem
    have hfind := hr.find?_eq_some_iff.mpr ⟨hfirst.mem, hfirst.held⟩
    refine List.findSome?_eq_some_iff.mpr ⟨before, _, after, hslots, by simp [hfind], ?_⟩
    intro s hs
    have hlt := (List.pairwise_append.mp hsorted).2.2 s hs _ List.mem_cons_self
    have hkey := (hmem s).mp (List.mem_append_left _ hs)
    rw [Option.map_eq_none_iff, hr.find?_eq_none_iff]
    exact hfirst.lower s.space s.key hlt hkey

/-- In an indexed register, an addition is refused for the clash in the lowest namespace. -/
theorem Indexed.add_eq_error_iff (hr : r.Indexed) {clash : Clash κ α} :
    r.add e = .error clash ↔ ∃ ns, r.FirstClash e ns clash := by
  rw [← hr.clash?_eq_some_iff]
  unfold Register.add
  split
  · rename_i c hclash
    simp [hclash]
  · rename_i hclash
    simp [hclash]

theorem entries_of_add (h : r.add e = .ok r') : r'.entries = r.entries.push e := by
  rw [(add_eq_ok_iff.mp h).2]

theorem indexed_empty [Std.TransOrd κ] : (empty : Register κ α).Indexed := by
  intro ns key i
  simp [position?, empty]

variable [Std.TransOrd κ] [Std.LawfulEqOrd κ]

/-- The new entry is at the end, and every other key is where it was. -/
theorem position?_of_add [DecidableEq κ] (h : r.add e = .ok r') (ns : Namespace) (key : κ) :
    r'.position? ns key =
      if Keyed.key? e ns = some key then some r.entries.size else r.position? ns key := by
  have hmem : (⟨ns, key⟩ : Slot κ) ∈ Keyed.slots e ↔ Keyed.key? e ns = some key :=
    Keyed.mem_slots_iff
  rw [(add_eq_ok_iff.mp h).2]
  simp only [position?, getElem?_indexAt, hmem]

theorem Indexed.add (hr : r.Indexed) (h : r.add e = .ok r') : r'.Indexed := by
  classical
  obtain ⟨hfree, -⟩ := add_eq_ok_iff.mp h
  intro ns key i
  rw [position?_of_add h, entries_of_add h, Array.getElem?_push]
  by_cases hkey : Keyed.key? e ns = some key
  · -- the key was free, so no older entry has it
    have hold : ∀ e', r.entries[i]? = some e' → Keyed.key? e' ns ≠ some key := by
      intro e' he'
      exact hr.find?_eq_none_iff.mp (hfree ns key hkey) e' (Array.mem_of_getElem? he')
    rw [if_pos hkey]
    refine ⟨?_, ?_⟩
    · intro hi
      obtain rfl := Option.some.inj hi
      exact ⟨e, by simp, hkey⟩
    · rintro ⟨e', he', hkey'⟩
      split at he'
      · rename_i hi
        rw [hi]
      · exact absurd hkey' (hold e' he')
  · rw [if_neg hkey, hr ns key i]
    refine ⟨?_, ?_⟩
    · rintro ⟨e', he', hkey'⟩
      have hlt : i < r.entries.size := (Array.getElem?_eq_some_iff.mp he').1
      exact ⟨e', by rw [if_neg (Nat.ne_of_lt hlt), he'], hkey'⟩
    · rintro ⟨e', he', hkey'⟩
      split at he'
      · obtain rfl := Option.some.inj he'
        exact absurd hkey' hkey
      · exact ⟨e', he', hkey'⟩

/-- The new entry is found by its keys, and every other key finds what it found before. -/
theorem Indexed.find?_of_add [DecidableEq κ] (hr : r.Indexed) (h : r.add e = .ok r')
    (ns : Namespace) (key : κ) :
    r'.find? ns key = if Keyed.key? e ns = some key then some e else r.find? ns key := by
  rw [find?, position?_of_add h, entries_of_add h]
  by_cases hkey : Keyed.key? e ns = some key
  · rw [if_pos hkey, if_pos hkey, Option.bind_some, Array.getElem?_push, if_pos rfl]
  · rw [if_neg hkey, if_neg hkey, find?]
    cases hpos : r.position? ns key with
    | none => rfl
    | some i =>
      -- a position that is filed is one of the old entries
      have hne : i ≠ r.entries.size := Nat.ne_of_lt (hr.lt_size hpos)
      rw [Option.bind_some, Option.bind_some, Array.getElem?_push, if_neg hne]

end SymbolLexicon.Register
