/-!
# Rows that are read one by one

A row whose items may have no result has one as a whole just when each item has its own
(`mapM_eq_some_iff`).
-/

namespace ContractScan

variable {α β γ : Type} {f : α → Option β}

/-- A row is read to the results of its items. -/
theorem mapM_eq_some_iff {l : List α} {ys : List β} :
    l.mapM f = some ys ↔ l.map f = ys.map some := by
  induction l generalizing ys with
  | nil => cases ys <;> simp
  | cons a l ih =>
    rw [List.mapM_cons, List.map_cons]
    cases f a with
    | none => cases ys <;> simp
    | some y =>
      cases ys with
      | nil => cases l.mapM f <;> simp
      | cons z zs =>
        rw [List.map_cons, List.cons.injEq, ← ih]
        cases l.mapM f <;> simp

/-- A row is not read if one of its items is not. -/
theorem mapM_eq_none_iff {l : List α} : l.mapM f = none ↔ ∃ a ∈ l, f a = none := by
  induction l with
  | nil => simp
  | cons a l ih =>
    have either : (∃ b ∈ a :: l, f b = none) ↔ f a = none ∨ l.mapM f = none := by simp [ih]
    rw [List.mapM_cons, either]
    cases f a with
    | none => simp
    | some y => cases l.mapM f <;> simp

/-- A row of items that each have a known result is read to these. -/
theorem mapM_eq_map {g : α → β} {l : List α} (h : ∀ a ∈ l, f a = some (g a)) :
    l.mapM f = some (l.map g) := by
  rw [mapM_eq_some_iff, List.map_map]
  exact List.map_congr_left h

/-- Each result of a row is that of an item. -/
theorem exists_of_mem_mapM {l : List α} {ys : List β} (read : l.mapM f = some ys) {y : β}
    (mem : y ∈ ys) : ∃ a ∈ l, f a = some y := by
  have there : some y ∈ l.map f := by
    rw [mapM_eq_some_iff.mp read]
    exact List.mem_map_of_mem mem
  exact List.mem_map.mp there

/-- Each item of a row that is read has a result. -/
theorem exists_of_mem_of_mapM {l : List α} {ys : List β} (read : l.mapM f = some ys) {a : α}
    (mem : a ∈ l) : ∃ y ∈ ys, f a = some y := by
  have there : f a ∈ ys.map some := by
    rw [← mapM_eq_some_iff.mp read]
    exact List.mem_map_of_mem mem
  obtain ⟨y, here, same⟩ := List.mem_map.mp there
  exact ⟨y, here, same.symm⟩

/-- What an item and its result have in common is the same along the row. -/
theorem map_eq_map_of_mapM {g : α → γ} {h : β → γ} {l : List α} {ys : List β}
    (read : l.mapM f = some ys) (same : ∀ a ∈ l, ∀ y, f a = some y → h y = g a) :
    ys.map h = l.map g := by
  have each := mapM_eq_some_iff.mp read
  induction l generalizing ys with
  | nil => rw [List.map_eq_nil_iff.mp each.symm]; rfl
  | cons a l ih =>
    obtain ⟨y, rest, rfl, here, later⟩ := List.map_eq_cons_iff.mp each.symm
    rw [List.map_cons, List.map_cons, same a (.head l) y here.symm,
      ih (mapM_eq_some_iff.mpr later.symm) (fun b mem ↦ same b (.tail a mem)) later.symm]

end ContractScan
