/-!
# Values by key

A map from texts to values, listed in the order of its keys. `get?_insert`, `get?_erase` and
`get?_map` say what each operation does to what is found under a key.
-/

namespace ContractScan

/-- Values with a text each as its key, in the order of the keys. -/
structure Keyed (α : Type) where
  entries : List (String × α)
  sorted : (entries.map Prod.fst).Pairwise (· < ·)
deriving DecidableEq, Repr

namespace Keyed

/-- No values. -/
def empty : Keyed α := ⟨[], .nil⟩

instance : Inhabited (Keyed α) := ⟨empty⟩

/-- The value of the key. -/
def get? (m : Keyed α) (key : String) : Option α := m.entries.lookup key

/-- The entries with one added at its place, or with the value of its key replaced. -/
def place (key : String) (v : α) : List (String × α) → List (String × α)
  | [] => [(key, v)]
  | e :: es =>
    if key < e.1 then (key, v) :: e :: es
    else if key = e.1 then (key, v) :: es
    else e :: place key v es

theorem mem_keys_place {key x : String} {v : α} {es : List (String × α)}
    (h : x ∈ (place key v es).map Prod.fst) : x = key ∨ x ∈ es.map Prod.fst := by
  induction es with
  | nil => simpa [place] using h
  | cons e es ih =>
    simp only [place] at h
    split at h
    · simpa using h
    · split at h
      · simp only [List.map_cons, List.mem_cons] at h ⊢
        rcases h with h | h
        · exact .inl h
        · exact .inr (.inr h)
      · simp only [List.map_cons, List.mem_cons] at h ⊢
        rcases h with h | h
        · exact .inr (.inl h)
        · exact (ih h).imp id .inr

theorem sorted_place {key : String} {v : α} {es : List (String × α)}
    (h : (es.map Prod.fst).Pairwise (· < ·)) :
    ((place key v es).map Prod.fst).Pairwise (· < ·) := by
  induction es with
  | nil => simp [place]
  | cons e es ih =>
    simp only [List.map_cons, List.pairwise_cons] at h
    simp only [place]
    split
    · next lt =>
      simp only [List.map_cons, List.pairwise_cons, List.mem_cons]
      refine ⟨?_, h⟩
      rintro x (rfl | hx)
      · exact lt
      · exact String.lt_trans lt (h.1 x hx)
    · next nlt =>
      split
      · next eq =>
        simp only [List.map_cons, List.pairwise_cons]
        exact ⟨fun x hx ↦ eq ▸ h.1 x hx, h.2⟩
      · next ne =>
        simp only [List.map_cons, List.pairwise_cons]
        refine ⟨fun x hx ↦ ?_, ih h.2⟩
        rcases mem_keys_place hx with rfl | hx
        · exact Std.lt_of_le_of_ne nlt (Ne.symm ne)
        · exact h.1 x hx

/-- The map with a value for the key, in place of any that it had. -/
def insert (m : Keyed α) (key : String) (v : α) : Keyed α :=
  ⟨place key v m.entries, sorted_place m.sorted⟩

/-- The map without the key. -/
def erase (m : Keyed α) (key : String) : Keyed α where
  entries := m.entries.filter fun e ↦ e.1 != key
  sorted := m.sorted.sublist (List.filter_sublist.map Prod.fst)

/-- The map with a function applied to its values. -/
def map (f : α → β) (m : Keyed α) : Keyed β where
  entries := m.entries.map fun e ↦ (e.1, f e.2)
  sorted := by simpa [Function.comp_def] using m.sorted

/-- The map with the given entries, of which a later one replaces an earlier one. -/
def ofList (es : List (String × α)) : Keyed α :=
  es.foldl (fun m e ↦ m.insert e.1 e.2) empty

theorem lookup_cons_eq_ite (x : String) (e : String × α) (es : List (String × α)) :
    (e :: es).lookup x = if x = e.1 then some e.2 else es.lookup x := by
  obtain ⟨k, v⟩ := e
  by_cases h : x = k
  · simp [h]
  · simp [List.lookup_cons, h, beq_eq_false_iff_ne.mpr h]

theorem lookup_place {key x : String} {v : α} {es : List (String × α)} :
    (place key v es).lookup x = if x = key then some v else es.lookup x := by
  induction es with
  | nil => simp [place, lookup_cons_eq_ite]
  | cons e es ih =>
    simp only [place]
    split
    · simp [lookup_cons_eq_ite]
    · split
      · next eq =>
        subst eq
        by_cases h : x = e.1 <;> simp [lookup_cons_eq_ite, h]
      · next ne =>
        simp only [lookup_cons_eq_ite, ih]
        by_cases h : x = e.1
        · subst h
          simp [Ne.symm ne]
        · simp [h]

@[simp] theorem get?_insert (m : Keyed α) (key x : String) (v : α) :
    (m.insert key v).get? x = if x = key then some v else m.get? x :=
  lookup_place

@[simp] theorem get?_empty (x : String) : (empty : Keyed α).get? x = none := rfl

theorem lookup_map_snd (f : α → β) (x : String) (es : List (String × α)) :
    (es.map fun e ↦ (e.1, f e.2)).lookup x = (es.lookup x).map f := by
  induction es with
  | nil => rfl
  | cons e es ih =>
    simp only [List.map_cons, lookup_cons_eq_ite, ih]
    split <;> rfl

@[simp] theorem get?_map (m : Keyed α) (f : α → β) (x : String) :
    (m.map f).get? x = (m.get? x).map f :=
  lookup_map_snd f x m.entries

theorem lookup_filter_ne (key x : String) (es : List (String × α)) :
    (es.filter fun e ↦ e.1 != key).lookup x = if x = key then none else es.lookup x := by
  induction es with
  | nil => simp
  | cons e es ih =>
    by_cases hk : e.1 = key
    · subst hk
      have drop : ((e :: es).filter fun d ↦ d.1 != e.1) = es.filter fun d ↦ d.1 != e.1 := by simp
      rw [drop, ih, lookup_cons_eq_ite]
      by_cases h : x = e.1 <;> simp [h]
    · by_cases hx : x = e.1
      · subst hx
        simp [hk, lookup_cons_eq_ite]
      · simp [hk, lookup_cons_eq_ite, ih, hx]

@[simp] theorem get?_erase (m : Keyed α) (key x : String) :
    (m.erase key).get? x = if x = key then none else m.get? x :=
  lookup_filter_ne key x m.entries

end Keyed

end ContractScan
