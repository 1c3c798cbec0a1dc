import ContractScan.Proofs.Settings.Merge

/-!
# Sections after a document

A document replaces each section that it has as a whole: a field that the section does not name
takes its default, whatever it was before. Only where the document has no such section do the fields
stay as they are (`merge_sections`).
-/

namespace ContractScan

namespace Json

variable {α : Type} {r : Record} {name : String} {names : List String}

/-- The fields of an object are its members of these names. -/
theorem given?_of_record?_object {ms : List (String × Json)} {surplus : Bool}
    (h : (Json.object ms).record? surplus names = some r) (mem : name ∈ names) :
    r.given? name = ms.lookup name := by
  rw [record?] at h
  split at h
  next =>
    cases h
    exact Keyed.lookup_filter_of_mem mem ms
  next => cases h

/-- A part of a record that may be missing is decoded if it is given. -/
theorem Record.of_defaulted_none {decode : Json → Option α} {part : Option α}
    (h : r.defaulted name none (fun j ↦ (decode j).map some) = some part) :
    (r.given? name = none ∧ part = none) ∨
      ∃ j v, r.given? name = some j ∧ decode j = some v ∧ part = some v := by
  rw [defaulted] at h
  cases given : r.given? name with
  | none =>
    rw [given] at h
    exact .inl ⟨rfl, (Option.some.inj h).symm⟩
  | some j =>
    rw [given] at h
    obtain ⟨v, decoded, rfl⟩ := Option.map_eq_some_iff.mp h
    exact .inr ⟨j, v, rfl, decoded, rfl⟩

end Json

theorem Toml.entriesToJson_eq_map (es : Entries) :
    entriesToJson es = es.map fun e ↦ (e.1, e.2.toJson) := by
  induction es with
  | nil => rfl
  | cons e es ih => rw [entriesToJson, ih, List.map_cons]

namespace Document

/-- What the document with the given entries says about a field of a section. -/
def said? (es : Toml.Entries) (heading : String) (fields : List String) (field : String) :
    Option Json :=
  (es.lookup heading).bind fun t ↦ (t.toJson.record? true fields).bind fun r ↦ r.given? field

/-- How the document with the given entries decides about a field of a section: what it says about
the field counts, or else the default if it has the section, or else what was before. -/
structure Decides {α : Type} (es : Toml.Entries) (heading : String) (fields : List String)
    (field : String) (decode : Json → Option α) (default old new : α) : Prop where
  said : ∀ j, said? es heading fields field = some j → decode j = some new
  reset : (es.lookup heading).isSome = true → said? es heading fields field = none → new = default
  kept : es.lookup heading = none → new = old

/-- A section of the document with the given entries is what its entry stands for. -/
structure IsSection {β : Type} (es : Toml.Entries) (heading : String) (read : Json → Option β)
    (part : Option β) : Prop where
  absent : es.lookup heading = none → part = none
  present : ∀ t, es.lookup heading = some t → ∃ v, read t.toJson = some v ∧ part = some v

variable {α β : Type} {es : Toml.Entries} {d : Document} {heading : String} {part : Option β}

/-- Where a section stands in for all that was before, the document decides about each field that is
read with a default. -/
theorem IsSection.decides {read : Json → Option β} (h : IsSection es heading read part)
    (get : β → α) {fields : List String} {field : String} {decode : Json → Option α} {default : α}
    (fieldwise : ∀ j v, read j = some v → ∃ r, j.record? true fields = some r ∧
      r.defaulted field default decode = some (get v)) (old : β) :
    Decides es heading fields field decode default (get old) (get (part.getD old)) := by
  have found {t : Toml} (here : es.lookup heading = some t) : ∃ r,
      t.toJson.record? true fields = some r ∧
        r.defaulted field default decode = some (get (part.getD old)) := by
    obtain ⟨v, decoded, rfl⟩ := h.present t here
    exact fieldwise t.toJson v decoded
  refine ⟨?_, ?_, ?_⟩
  · intro j told
    obtain ⟨t, here, told⟩ := Option.bind_eq_some_iff.mp told
    obtain ⟨r, record, defaulted⟩ := found here
    rw [record, Option.bind_some] at told
    rw [Json.Record.defaulted, told] at defaulted
    exact defaulted
  · intro there silent
    obtain ⟨t, here⟩ := Option.isSome_iff_exists.mp there
    obtain ⟨r, record, defaulted⟩ := found here
    rw [said?, here, Option.bind_some, record, Option.bind_some] at silent
    rw [Json.Record.defaulted, silent] at defaulted
    exact (Option.some.inj defaulted).symm
  · intro missing
    rw [h.absent missing, Option.getD_none]

theorem isSection_of_defaulted {r : Json.Record} {read : Json → Option β}
    (given : r.given? heading = (Toml.entriesToJson es).lookup heading)
    (h : r.defaulted heading none (fun j ↦ (read j).map some) = some part) :
    IsSection es heading read part := by
  rw [Toml.entriesToJson_eq_map, Keyed.lookup_map_snd] at given
  rcases Json.Record.of_defaulted_none h with ⟨missing, rfl⟩ | ⟨j, v, found, decoded, rfl⟩
  · rw [given, Option.map_eq_none_iff] at missing
    refine ⟨fun _ ↦ rfl, fun t here ↦ ?_⟩
    rw [missing] at here
    cases here
  · obtain ⟨t, here, rfl⟩ := Option.map_eq_some_iff.mp (given.symm.trans found)
    refine ⟨fun missing ↦ ?_, fun t' here' ↦ ?_⟩
    · rw [missing] at here
      cases here
    · cases here.symm.trans here'
      exact ⟨v, decoded, rfl⟩

theorem isSection_of_ofEntries? (h : ofEntries? es = some d) :
    IsSection es "fetch" (FetchSettings.ofJson? .toml) d.fetch ∧
      IsSection es "analysis" (ReportSettings.ofJson? .toml) d.report := by
  obtain ⟨r, record, h⟩ := Option.bind_eq_some_iff.mp h
  obtain ⟨fetch, hf, h⟩ := Option.bind_eq_some_iff.mp h
  obtain ⟨report, hr, h⟩ := Option.bind_eq_some_iff.mp h
  obtain ⟨services, -, h⟩ := Option.bind_eq_some_iff.mp h
  cases h
  exact ⟨isSection_of_defaulted (Json.given?_of_record?_object record (.head _)) hf,
    isSection_of_defaulted (Json.given?_of_record?_object record (.tail _ (.head _))) hr⟩

end Document

/-- The settings of the section on fetching are read field by field. -/
theorem FetchSettings.exists_of_ofJson? {n : Dialect} {j : Json} {f : FetchSettings}
    (h : ofJson? n j = some f) :
    ∃ r, j.record? n.surplus fieldNames = some r ∧
      r.defaulted "timeout_secs" 10 Json.uint64? = some f.timeoutSeconds ∧
      r.defaulted "min_request_interval_ms" 200 Json.uint64? = some f.interval ∧
      r.defaulted "user_agent" "contract-auditor/0.1.0" Json.text? = some f.userAgent := by
  obtain ⟨r, record, h⟩ := Option.bind_eq_some_iff.mp h
  obtain ⟨timeout, ht, h⟩ := Option.bind_eq_some_iff.mp h
  obtain ⟨interval, hi, h⟩ := Option.bind_eq_some_iff.mp h
  obtain ⟨agent, ha, h⟩ := Option.bind_eq_some_iff.mp h
  cases h
  exact ⟨r, record, ht, hi, ha⟩

/-- The one setting of the section on reports is read with its default. -/
theorem ReportSettings.exists_of_ofJson? {n : Dialect} {j : Json} {s : ReportSettings}
    (h : ofJson? n j = some s) :
    ∃ r, j.record? n.surplus ["min_severity"] = some r ∧
      r.defaulted "min_severity" .info (Json.choice? n.saysNothing Severity.ofName?) =
        some s.minSeverity := by
  obtain ⟨r, record, h⟩ := Option.bind_eq_some_iff.mp h
  obtain ⟨severity, hs, h⟩ := Option.bind_eq_some_iff.mp h
  cases h
  exact ⟨r, record, hs⟩

namespace Settings

/-- What a document that merges makes of the settings in its sections. A field that it names takes
the value given for it. A field that it does not name keeps its value if the document has no such
section at all; if it has the section, the field takes its default. -/
theorem merge_sections {s merged : Settings} {text : String}
    (merges : s.merge text = (merged, none)) :
    ∃ es, Toml.parse? text.toList = some es ∧
      Document.Decides es "fetch" FetchSettings.fieldNames "timeout_secs" Json.uint64?
        10 s.fetch.timeoutSeconds merged.fetch.timeoutSeconds ∧
      Document.Decides es "fetch" FetchSettings.fieldNames "min_request_interval_ms" Json.uint64?
        200 s.fetch.interval merged.fetch.interval ∧
      Document.Decides es "fetch" FetchSettings.fieldNames "user_agent" Json.text?
        "contract-auditor/0.1.0" s.fetch.userAgent merged.fetch.userAgent ∧
      Document.Decides es "analysis" ["min_severity"] "min_severity"
        (Json.choice? Dialect.isEmpty Severity.ofName?)
        .info s.report.minSeverity merged.report.minSeverity := by
  obtain ⟨d, parsed, fetch, report, -⟩ := exists_of_merge merges
  obtain ⟨es, entries, sections⟩ := Option.bind_eq_some_iff.mp parsed
  obtain ⟨inFetch, inReport⟩ := Document.isSection_of_ofEntries? sections
  rw [fetch, report]
  refine ⟨es, entries, inFetch.decides FetchSettings.timeoutSeconds ?_ s.fetch,
    inFetch.decides FetchSettings.interval ?_ s.fetch,
    inFetch.decides FetchSettings.userAgent ?_ s.fetch,
    inReport.decides ReportSettings.minSeverity ?_ s.report⟩
  · intro j f read
    obtain ⟨r, record, timeout, -, -⟩ := FetchSettings.exists_of_ofJson? read
    exact ⟨r, record, timeout⟩
  · intro j f read
    obtain ⟨r, record, -, interval, -⟩ := FetchSettings.exists_of_ofJson? read
    exact ⟨r, record, interval⟩
  · intro j f read
    obtain ⟨r, record, -, -, agent⟩ := FetchSettings.exists_of_ofJson? read
    exact ⟨r, record, agent⟩
  · intro j v read
    exact ReportSettings.exists_of_ofJson? read

/-- A user agent is given, a severity stays without its section, and a time limit falls back. -/
theorem merge_sections_agent :
    let first := "fetch.timeout_secs = 3\nanalysis.min_severity = 'High'"
    let second := "[fetch]\nuser_agent = 'audit'"
    let s := (standard.merge first).1
    let m := (s.merge second).1
    s.merge second = (m, none) ∧ s.fetch.timeoutSeconds = 3 ∧ m.fetch.userAgent = "audit" ∧
      m.report.minSeverity = .high ∧ m.fetch.timeoutSeconds = 10 := by
  intro first second s m
  have merges : s.merge second = (m, none) := Prod.ext rfl (by decide +kernel)
  have before : s.fetch.timeoutSeconds = 3 ∧ s.report.minSeverity = .high := by decide +kernel
  obtain ⟨es, entries, timeout, -, agent, severity⟩ := merge_sections merges
  -- the document has one section, in which it names one field
  have content : (Toml.parse? second.toList).all fun es ↦
      (es.lookup "fetch").isSome && (es.lookup "analysis").isNone &&
      (Document.said? es "fetch" FetchSettings.fieldNames "timeout_secs").isNone &&
      (Document.said? es "fetch" FetchSettings.fieldNames "user_agent").any
        (Json.text? · = some "audit") := by decide +kernel
  rw [entries] at content
  simp only [Option.all_some, Bool.and_eq_true, Option.isNone_iff_eq_none, Option.any_eq_true,
    decide_eq_true_eq] at content
  obtain ⟨⟨⟨inFetch, noReport⟩, noTimeout⟩, j, named, audit⟩ := content
  refine ⟨merges, before.1, ?_, (severity.kept noReport).trans before.2,
    timeout.reset inFetch noTimeout⟩
  exact Option.some.inj ((agent.said j named).symm.trans audit)

/-- A time limit of three seconds is lost when a document gives the user agent alone. -/
theorem merge_sections_forgotten :
    let first := "[fetch]\ntimeout_secs = 3\n"
    let second := "[fetch]\nuser_agent = \"audit\"\n"
    let s := (standard.merge first).1
    (standard.merge first).2 = none ∧ (s.merge second).2 = none ∧
    ((Toml.parse? second.toList).map fun es ↦
      (Document.said? es "fetch" FetchSettings.fieldNames "timeout_secs").isSome) = some false ∧
    s.fetch.timeoutSeconds = 3 ∧ (s.merge second).1.fetch.timeoutSeconds = 10 := by
  decide +kernel

end Settings

end ContractScan
