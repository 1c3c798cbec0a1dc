import ContractScan.Proofs.Settings.Keyed
import ContractScan.Settings.Merge

/-!
# What a merge does

A change makes a service out of what it gives and what there was before (`Service.Patch.Makes`). A
merge that is not stopped leaves alone every service that it does not name and makes every change
that it names; one that is stopped has made the changes in front of the one that stopped it
(`exists_of_mergeServices_stopped`).
-/

namespace ContractScan

namespace Service.Patch

/-- The service has what the changes give, and for the rest what it had before, if it is not new. -/
structure Makes (p : Patch) (old : Option Service) (new : Service) : Prop where
  endpoint : some new.endpoint = p.endpoint.or (old.map Service.endpoint)
  key : new.key = p.key.or (old.bind Service.key)
  chainId : new.chainId = p.chainId.or (old.bind Service.chainId)
  keyVariable : new.keyVariable = p.keyVariable.or (old.bind Service.keyVariable)

variable {p : Patch} {old : Option Service} {new new' : Service}

theorem Makes.unique (h : p.Makes old new) (h' : p.Makes old new') : new = new' := by
  have endpoint := Option.some.inj (h.endpoint.trans h'.endpoint.symm)
  have key := h.key.trans h'.key.symm
  have chainId := h.chainId.trans h'.chainId.symm
  have keyVariable := h.keyVariable.trans h'.keyVariable.symm
  cases new
  cases new'
  rw [Service.mk.injEq]
  exact ⟨endpoint, key, chainId, keyVariable⟩

/-- No change makes a new service without an endpoint. -/
theorem not_makes_none (bare : p.endpoint = none) (new : Service) : ¬p.Makes none new := by
  intro made
  have endpoint := made.endpoint
  rw [bare] at endpoint
  cases endpoint

/-- A change that has been made changes nothing when it is made again. -/
theorem Makes.again (h : p.Makes old new) : p.Makes (some new) new := by
  have twice {α : Type} (a b : Option α) : a.or b = a.or (a.or b) := by
    cases a <;> rfl
  refine ⟨?_, ?_, ?_, ?_⟩
  · rw [Option.map_some, h.endpoint, ← twice]
  · rw [Option.bind_some, h.key, ← twice]
  · rw [Option.bind_some, h.chainId, ← twice]
  · rw [Option.bind_some, h.keyVariable, ← twice]

end Service.Patch

namespace Settings

section Change

variable {old : Option Service} {p : Service.Patch} {new : Service}

theorem makes_of_changed? (changed : changed? old p = some new) : p.Makes old new := by
  cases old with
  | some v =>
    cases changed
    refine ⟨?_, rfl, rfl, rfl⟩
    cases endpoint : p.endpoint <;> simp [Service.patched, endpoint]
  | none =>
    obtain ⟨url, endpoint, rfl⟩ := Option.map_eq_some_iff.mp changed
    refine ⟨?_, Option.or_none.symm, Option.or_none.symm, Option.or_none.symm⟩
    rw [endpoint, Option.some_or]

/-- Only a service that is new and has no endpoint cannot be changed. -/
theorem changed?_eq_none_iff : changed? old p = none ↔ old = none ∧ p.endpoint = none := by
  cases old <;> simp [changed?, Service.Patch.service?]

theorem changed?_eq_some_iff : changed? old p = some new ↔ p.Makes old new := by
  refine ⟨makes_of_changed?, fun made ↦ ?_⟩
  cases changed : changed? old p with
  | some v => rw [(makes_of_changed? changed).unique made]
  | none =>
    obtain ⟨rfl, endpoint⟩ := changed?_eq_none_iff.mp changed
    exact absurd made (Service.Patch.not_makes_none endpoint new)

end Change

variable {ss ss' : Keyed Service} {es : List (String × Service.Patch)} {name : String}

/-- A merge leaves the services alone that no change names. -/
theorem get?_mergeServices_of_lookup_eq_none (h : mergeServices ss es = (ss', none))
    (unnamed : es.lookup name = none) : ss'.get? name = ss.get? name := by
  induction es generalizing ss with
  | nil =>
    cases h
    rfl
  | cons e es ih =>
    obtain ⟨key, p⟩ := e
    rw [Keyed.lookup_cons_eq_ite] at unnamed
    rw [mergeServices] at h
    split at h
    next s changed =>
      split at unnamed
      next => cases unnamed
      next other => rw [ih h unnamed, Keyed.get?_insert, if_neg other]
    next => cases h

/-- A merge that is not stopped makes every change that it names. -/
theorem get?_mergeServices_of_lookup_eq_some {p : Service.Patch}
    (nodup : (es.map Prod.fst).Nodup) (h : mergeServices ss es = (ss', none))
    (named : es.lookup name = some p) :
    ∃ s, changed? (ss.get? name) p = some s ∧ ss'.get? name = some s := by
  induction es generalizing ss with
  | nil => cases named
  | cons e es ih =>
    obtain ⟨key, q⟩ := e
    obtain ⟨fresh, rest⟩ := List.nodup_cons.mp nodup
    rw [Keyed.lookup_cons_eq_ite] at named
    rw [mergeServices] at h
    split at h
    next s changed =>
      split at named
      next same =>
        cases named
        subst same
        -- the later changes are to other services
        refine ⟨s, changed, ?_⟩
        rw [get?_mergeServices_of_lookup_eq_none h (Keyed.lookup_of_not_mem fresh),
          Keyed.get?_insert, if_pos rfl]
      next other =>
        obtain ⟨s', changed', found⟩ := ih rest h named
        rw [Keyed.get?_insert, if_neg other] at changed'
        exact ⟨s', changed', found⟩
    next => cases h

/-- A merge that is not stopped makes every service that it names out of the one there was. -/
theorem makes_of_mergeServices {p : Service.Patch} (nodup : (es.map Prod.fst).Nodup)
    (h : mergeServices ss es = (ss', none)) (named : es.lookup name = some p) :
    ∃ v, ss'.get? name = some v ∧ p.Makes (ss.get? name) v := by
  obtain ⟨v, changed, found⟩ := get?_mergeServices_of_lookup_eq_some nodup h named
  exact ⟨v, found, makes_of_changed? changed⟩

/-- After a merge that is not stopped a field of a service is what the document gives, and else what
it was before. -/
theorem field_of_mergeServices {α : Type} (get : Service → Option α)
    (given : Service.Patch → Option α)
    (made : ∀ {p old new}, p.Makes old new → get new = (given p).or (old.bind get))
    {d : Document} (h : mergeServices ss d.services.entries = (ss', none)) (name : String) :
    (ss'.get? name).bind get = ((d.services.get? name).bind given).or ((ss.get? name).bind get) := by
  cases named : d.services.get? name with
  | none =>
    rw [get?_mergeServices_of_lookup_eq_none h named]
    exact (Option.none_or).symm
  | some p =>
    obtain ⟨v, found, makes⟩ := makes_of_mergeServices d.services.nodup_keys h named
    rw [found]
    exact made makes

/-- A merge that is stopped has made the changes in front of the one that stopped it. -/
theorem exists_of_mergeServices_stopped (h : mergeServices ss es = (ss', some name)) :
    ∃ before p after, es = before ++ (name, p) :: after ∧
      mergeServices ss before = (ss', none) ∧ ss'.get? name = none ∧ p.endpoint = none := by
  induction es generalizing ss with
  | nil => cases h
  | cons e es ih =>
    obtain ⟨key, p⟩ := e
    rw [mergeServices] at h
    split at h
    next s changed =>
      obtain ⟨before, q, after, rfl, merged, new, bare⟩ := ih h
      refine ⟨(key, p) :: before, q, after, rfl, ?_, new, bare⟩
      rw [mergeServices, changed]
      exact merged
    next unchanged =>
      cases h
      obtain ⟨new, bare⟩ := changed?_eq_none_iff.mp unchanged
      exact ⟨[], p, es, rfl, rfl, new, bare⟩

/-- A merge of changes that have all been made changes nothing. -/
theorem mergeServices_eq_self
    (made : ∀ e ∈ es, ∃ v, ss.get? e.1 = some v ∧ e.2.Makes (some v) v) :
    mergeServices ss es = (ss, none) := by
  induction es with
  | nil => rfl
  | cons e es ih =>
    obtain ⟨v, found, same⟩ := made e (.head es)
    have kept : ss.insert e.1 v = ss := by
      apply Keyed.ext_get?
      intro name
      rw [Keyed.get?_insert]
      split
      next here => rw [here, found]
      next => rfl
    rw [mergeServices, found, changed?_eq_some_iff.mpr same]
    dsimp only
    rw [kept]
    exact ih fun e mem ↦ made e (.tail _ mem)

theorem merge_of_parse? {text : String} {d : Document} (parsed : Document.parse? text = some d)
    (s : Settings) : s.merge text = s.apply d := by
  rw [merge, parsed]

/-- A document changes the sections that it has and the services up to where it is stopped. -/
theorem merge_of_mergeServices {s : Settings} {text : String} {d : Document} {ss : Keyed Service}
    {stopped : Option String} (parsed : Document.parse? text = some d)
    (h : mergeServices s.services d.services.entries = (ss, stopped)) :
    s.merge text = (⟨d.fetch.getD s.fetch, d.report.getD s.report, ss⟩,
      stopped.map fun name ↦ .missing ("services." ++ name ++ ".endpoint")) := by
  rw [merge_of_parse? parsed, apply, h]

/-- What a merge without failure does. -/
theorem exists_of_merge {s merged : Settings} {text : String}
    (h : s.merge text = (merged, none)) :
    ∃ d, Document.parse? text = some d ∧ merged.fetch = d.fetch.getD s.fetch ∧
      merged.report = d.report.getD s.report ∧
      mergeServices s.services d.services.entries = (merged.services, none) := by
  cases parsed : Document.parse? text with
  | none =>
    rw [merge, parsed] at h
    cases h
  | some d =>
    cases services : mergeServices s.services d.services.entries with
    | mk ss stopped =>
      rw [merge_of_mergeServices parsed services] at h
      obtain ⟨settings, none⟩ := Prod.mk.inj h
      rw [Option.map_eq_none_iff.mp none] at services
      exact ⟨d, rfl, settings ▸ rfl, settings ▸ rfl, settings ▸ services⟩

end Settings

end ContractScan
