import ContractScan.Proofs.Settings.Merge

/-!
# Services after a document

A document changes the services that it names, field by field, and no others. The first service in
the order of names that is new and has no endpoint stops it: services in front of that one are
changed, and those behind it are not (`merge_services`).
-/

namespace ContractScan

/-- The document names the service, which is new, and gives no endpoint for it. -/
def Document.Lacks (d : Document) (ss : Keyed Service) (name : String) : Prop :=
  ss.get? name = none ∧ ∃ p, d.services.get? name = some p ∧ p.endpoint = none

namespace Settings

variable {ss ss' : Keyed Service} {d : Document} {name : String}

/-- A merge that is not stopped has an endpoint for each service. -/
theorem not_lacks_of_mergeServices (h : mergeServices ss d.services.entries = (ss', none))
    (name : String) : ¬d.Lacks ss name := by
  rintro ⟨new, p, named, bare⟩
  obtain ⟨v, -, made⟩ := makes_of_mergeServices d.services.nodup_keys h named
  rw [new] at made
  exact Service.Patch.not_makes_none bare v made

/-- A merge that is not stopped changes nothing when it is made again. -/
theorem mergeServices_again (h : mergeServices ss d.services.entries = (ss', none)) :
    mergeServices ss' d.services.entries = (ss', none) := by
  apply mergeServices_eq_self
  intro e mem
  have named := Keyed.lookup_of_mem d.services.nodup_keys mem
  obtain ⟨v, found, made⟩ := makes_of_mergeServices d.services.nodup_keys h named
  exact ⟨v, found, made.again⟩

/-- What a merge that is stopped has done: it stops at the first service that lacks an endpoint, with
the services in front of it changed and all others as they were. -/
theorem mergeServices_stopped (h : mergeServices ss d.services.entries = (ss', some name)) :
    d.Lacks ss name ∧ (∀ other, d.Lacks ss other → name ≤ other) ∧
    (∀ other, d.services.get? other = none → ss'.get? other = ss.get? other) ∧
    ∀ other p, d.services.get? other = some p →
      (other < name → ∃ v, ss'.get? other = some v ∧ p.Makes (ss.get? other) v) ∧
      (name ≤ other → ss'.get? other = ss.get? other) := by
  obtain ⟨before, q, after, entries, merged, new, bare⟩ := exists_of_mergeServices_stopped h
  have front := Keyed.lookup_of_entries_eq entries
  have kept {other : String} (absent : before.lookup other = none) :
      ss'.get? other = ss.get? other := get?_mergeServices_of_lookup_eq_none merged absent
  have made {other : String} {p : Service.Patch} (given : d.services.get? other = some p)
      (lt : other < name) : ∃ v, ss'.get? other = some v ∧ p.Makes (ss.get? other) v := by
    have all := d.services.nodup_keys
    rw [entries, List.map_append] at all
    apply makes_of_mergeServices (List.nodup_append.mp all).1 merged
    rw [front, if_pos lt, given]
  have named : d.services.get? name = some q := by
    rw [Keyed.get?_eq_some_iff, entries]
    exact List.mem_append_right before (.head after)
  refine ⟨⟨?_, q, named, bare⟩, ?_, ?_, ?_⟩
  · rw [← kept (by rw [front, if_neg (String.lt_irrefl name)]), new]
  · rintro other ⟨unknown, p, given, noEndpoint⟩ lt
    obtain ⟨v, -, made⟩ := made given lt
    rw [unknown] at made
    exact Service.Patch.not_makes_none noEndpoint v made
  · intro other unnamed
    apply kept
    rw [front, unnamed, ite_self]
  · intro other p given
    refine ⟨made given, fun le ↦ kept ?_⟩
    rw [front, if_neg (String.not_lt.mpr le)]

/-- What was merged without failure changes nothing when it is merged again. -/
theorem merge_again {s merged : Settings} {text : String} (h : s.merge text = (merged, none)) :
    merged.merge text = (merged, none) := by
  obtain ⟨d, parsed, fetch, report, services⟩ := exists_of_merge h
  have sameFetch : d.fetch.getD merged.fetch = merged.fetch := by
    rw [fetch]
    cases d.fetch <;> rfl
  have sameReport : d.report.getD merged.report = merged.report := by
    rw [report]
    cases d.report <;> rfl
  rw [merge_of_mergeServices parsed (mergeServices_again services), sameFetch, sameReport]
  rfl

/-- What a text does to services. What is no document changes no setting. A document leaves the
services alone that it does not name. If it has an endpoint for each new service, it changes all that
it names, and nothing when it is merged again. Otherwise the first service that lacks an endpoint is
reported; the named ones with lesser names are changed, and the others are left alone. -/
theorem merge_services (s : Settings) (text : String) :
    let m := s.merge text
    (Document.parse? text = none → m.1 = s ∧ ∃ detail, m.2 = some (.malformed detail)) ∧
    ∀ d, Document.parse? text = some d →
      (∀ name, d.services.get? name = none → m.1.service? name = s.service? name) ∧
      ((∀ name, ¬d.Lacks s.services name) →
        m.2 = none ∧
        (∀ name p, d.services.get? name = some p →
          ∃ v, m.1.service? name = some v ∧ p.Makes (s.service? name) v) ∧
        m.1.merge text = (m.1, none)) ∧
      ((∃ name, d.Lacks s.services name) →
        ∃ name, d.Lacks s.services name ∧ (∀ other, d.Lacks s.services other → name ≤ other) ∧
          m.2 = some (.missing ("services." ++ name ++ ".endpoint")) ∧
          ∀ other p, d.services.get? other = some p →
            (other < name → ∃ v, m.1.service? other = some v ∧ p.Makes (s.service? other) v) ∧
            (name ≤ other → m.1.service? other = s.service? other)) := by
  intro m
  constructor
  · intro unreadable
    have unchanged : m = (s, some (.malformed "not a document of settings")) := by
      change s.merge text = _
      rw [merge, unreadable]
    rw [unchanged]
    exact ⟨rfl, _, rfl⟩
  · intro d parsed
    cases services : mergeServices s.services d.services.entries with
    | mk ss stopped =>
      have told : m = (⟨d.fetch.getD s.fetch, d.report.getD s.report, ss⟩,
          stopped.map fun name ↦ .missing ("services." ++ name ++ ".endpoint")) :=
        merge_of_mergeServices parsed services
      cases stopped with
      | none =>
        have merges : m.2 = none := congrArg Prod.snd told
        have again : m.1.merge text = (m.1, none) := merge_again (s := s) (Prod.ext rfl merges)
        rw [told] at again ⊢
        refine ⟨?_, ?_, ?_⟩
        · exact fun name unnamed ↦ get?_mergeServices_of_lookup_eq_none services unnamed
        · intro _
          refine ⟨rfl, ?_, again⟩
          exact fun name p named ↦ makes_of_mergeServices d.services.nodup_keys services named
        · rintro ⟨name, lacks⟩
          exact absurd lacks (not_lacks_of_mergeServices services name)
      | some name =>
        obtain ⟨lacks, least, unnamed, changes⟩ := mergeServices_stopped services
        rw [told]
        refine ⟨unnamed, fun all ↦ absurd lacks (all name), fun _ ↦ ?_⟩
        exact ⟨name, lacks, least, rfl, changes⟩

/-- One service is changed, the next lacks an endpoint, and the last is left alone. -/
theorem merge_services_fantom :
    let stopped := "services=\x7bsnowtrace=\x7bapi_key='k'\x7d,fantom=\x7bchain_id=250\x7d," ++
      "bscscan=\x7bendpoint='e'\x7d\x7d"
    let whole := "services=\x7bfantom=\x7bendpoint='f'\x7d,bscscan=\x7bapi_key='k'\x7d\x7d"
    (standard.merge "[services").1 = standard ∧
    (standard.merge stopped).2 = some (.missing "services.fantom.endpoint") ∧
    (standard.merge stopped).1.service? "bscscan" =
      some { endpoint := "e", keyVariable := some "BSCSCAN_API_KEY" } ∧
    (standard.merge stopped).1.service? "snowtrace" = standard.service? "snowtrace" ∧
    (standard.merge whole).1.service? "fantom" = some { endpoint := "f" } ∧
    (standard.merge whole).1.merge whole = ((standard.merge whole).1, none) := by
  intro stopped whole
  let d : Document := {
    fetch := none
    report := none
    services := .ofList [("snowtrace", ⟨none, some "k", none, none⟩),
      ("fantom", ⟨none, none, some 250, none⟩), ("bscscan", ⟨some "e", none, none, none⟩)] }
  let d' : Document := {
    fetch := none
    report := none
    services := .ofList [("fantom", ⟨some "f", none, none, none⟩),
      ("bscscan", ⟨none, some "k", none, none⟩)] }
  have unreadable : Document.parse? "[services" = none := by decide +kernel
  have parsed : Document.parse? stopped = some d := by decide +kernel
  have parsed' : Document.parse? whole = some d' := by decide +kernel
  have only : ∀ e ∈ d.services.entries, standard.services.get? e.1 = none →
      e.2.endpoint = none → e.1 = "fantom" := by decide
  have all : ∀ e ∈ d'.services.entries, standard.services.get? e.1 = none →
      e.2.endpoint ≠ none := by decide
  obtain ⟨-, -, stops⟩ := (merge_services standard stopped).2 d parsed
  obtain ⟨name, ⟨new, p, named, bare⟩, -, failure, changes⟩ :=
    stops ⟨"fantom", rfl, ⟨none, none, some 250, none⟩, rfl, rfl⟩
  have fantom : name = "fantom" :=
    only (name, p) ((Keyed.get?_eq_some_iff _ _ _).mp named) new bare
  subst fantom
  obtain ⟨v, found, made⟩ := (changes "bscscan" _ rfl).1 (by decide)
  obtain ⟨-, merges, -⟩ := (merge_services standard whole).2 d' parsed'
  obtain ⟨-, added, again⟩ := merges fun name ⟨new, p, named, bare⟩ ↦
    all (name, p) ((Keyed.get?_eq_some_iff _ _ _).mp named) new bare
  obtain ⟨v', found', made'⟩ := added "fantom" _ rfl
  have bscscan : v = { endpoint := "e", keyVariable := some "BSCSCAN_API_KEY" } :=
    made.unique ⟨rfl, rfl, rfl, rfl⟩
  have fantom : v' = { endpoint := "f" } := made'.unique ⟨rfl, rfl, rfl, rfl⟩
  exact ⟨((merge_services standard "[services").1 unreadable).1, failure, bscscan ▸ found,
    (changes "snowtrace" _ rfl).2 (by decide), fantom ▸ found', again⟩

end Settings

end ContractScan
