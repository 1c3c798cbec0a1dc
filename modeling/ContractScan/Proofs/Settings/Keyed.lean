import ContractScan.Settings.Keyed

/-!
# Maps told by what they hold

The keys of a map differ, so that an entry is what is found under its key (`get?_eq_some_iff`), and
two maps in which the same is found are the same (`ext_get?`). So a map is put together again from
its own entries (`ofList_entries`).
-/

namespace ContractScan.Keyed

variable {α : Type}

theorem nodup_keys (m : Keyed α) : (m.entries.map Prod.fst).Nodup := by
  apply m.sorted.imp
  intro k l lt same
  rw [same] at lt
  exact String.lt_irrefl l lt

theorem mem_of_lookup {es : List (String × α)} {key : String} {v : α}
    (found : es.lookup key = some v) : (key, v) ∈ es := by
  obtain ⟨before, after, rfl, -⟩ := List.lookup_eq_some_iff.mp found
  exact List.mem_append_right before (.head after)

theorem lookup_of_not_mem {es : List (String × α)} {key : String} (h : key ∉ es.map Prod.fst) :
    es.lookup key = none := by
  apply List.lookup_eq_none_iff.mpr
  intro e mem
  apply bne_iff_ne.mpr
  intro same
  exact h (same ▸ List.mem_map_of_mem (f := Prod.fst) mem)

/-- Entries of other keys may be left out. -/
theorem lookup_filter_of_mem {keys : List String} {key : String} (mem : key ∈ keys)
    (es : List (String × α)) :
    (es.filter fun e ↦ keys.contains e.1).lookup key = es.lookup key := by
  induction es with
  | nil => rfl
  | cons e es ih =>
    rw [lookup_cons_eq_ite, List.filter_cons]
    split
    next => rw [lookup_cons_eq_ite, ih]
    next other =>
      rw [ih, if_neg]
      rintro rfl
      exact other (List.contains_iff_mem.mpr mem)

theorem lookup_of_mem {es : List (String × α)} (nodup : (es.map Prod.fst).Nodup) {key : String}
    {v : α} (mem : (key, v) ∈ es) : es.lookup key = some v := by
  induction es with
  | nil => cases mem
  | cons e es ih =>
    obtain ⟨other, rest⟩ := List.nodup_cons.mp nodup
    rw [lookup_cons_eq_ite]
    rcases List.mem_cons.mp mem with rfl | later
    · exact if_pos rfl
    · rw [if_neg, ih rest later]
      intro same
      exact other (same ▸ List.mem_map_of_mem (f := Prod.fst) later)

/-- An entry is what is found under its key. -/
theorem get?_eq_some_iff (m : Keyed α) (key : String) (v : α) :
    m.get? key = some v ↔ (key, v) ∈ m.entries :=
  ⟨mem_of_lookup, lookup_of_mem m.nodup_keys⟩

/-- The entries in front of a key are those of the lesser keys. -/
theorem lookup_of_entries_eq {m : Keyed α} {before after : List (String × α)} {key : String} {v : α}
    (h : m.entries = before ++ (key, v) :: after) (other : String) :
    before.lookup other = if other < key then m.get? other else none := by
  have sorted := m.sorted
  rw [h, List.map_append, List.map_cons] at sorted
  obtain ⟨-, rest, front⟩ := List.pairwise_append.mp sorted
  split
  next lt =>
    have absent : ((key, v) :: after).lookup other = none := by
      apply lookup_of_not_mem
      intro mem
      rcases List.mem_cons.mp mem with rfl | later
      · exact String.lt_irrefl _ lt
      · have gt := (List.pairwise_cons.mp rest).1 other later
        exact String.lt_irrefl _ (String.lt_trans lt gt)
    rw [get?, h, List.lookup_append, absent, Option.or_none]
  next ge => exact lookup_of_not_mem fun mem ↦ ge (front other mem key (.head _))

/-- Maps in which the same is found are the same. -/
theorem ext_get? {m m' : Keyed α} (h : ∀ key, m.get? key = m'.get? key) : m = m' := by
  have nodup (m : Keyed α) : m.entries.Nodup :=
    List.Pairwise.of_map Prod.fst (fun _ _ ne same ↦ ne (congrArg Prod.fst same)) m.nodup_keys
  have same : m.entries.Perm m'.entries := by
    apply (List.perm_ext_iff_of_nodup (nodup m) (nodup m')).mpr
    intro e
    rw [← get?_eq_some_iff, ← get?_eq_some_iff, h]
  have entries : m.entries = m'.entries := by
    apply same.eq_of_pairwise _ (List.pairwise_map.mp m.sorted) (List.pairwise_map.mp m'.sorted)
    intro a b _ _ lt gt
    exact absurd (String.lt_trans lt gt) (String.lt_irrefl a.1)
  cases m
  cases m'
  cases entries
  rfl

theorem get?_foldl_insert {es : List (String × α)} (nodup : (es.map Prod.fst).Nodup)
    (m : Keyed α) (key : String) :
    (es.foldl (fun m e ↦ m.insert e.1 e.2) m).get? key = (es.lookup key).or (m.get? key) := by
  induction es generalizing m with
  | nil => rfl
  | cons e es ih =>
    obtain ⟨other, rest⟩ := List.nodup_cons.mp nodup
    rw [List.foldl_cons, ih rest, get?_insert, lookup_cons_eq_ite]
    split
    next same => rw [lookup_of_not_mem (same ▸ other), Option.none_or, Option.some_or]
    next => rfl

/-- A map is put together from its own entries. -/
theorem ofList_entries (m : Keyed α) : ofList m.entries = m := by
  apply ext_get?
  intro key
  rw [ofList, get?_foldl_insert m.nodup_keys, get?_empty, Option.or_none]
  rfl

end ContractScan.Keyed
