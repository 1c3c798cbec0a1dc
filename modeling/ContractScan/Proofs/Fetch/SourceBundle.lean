import ContractScan.Fetch.SourceBundle
import ContractScan.Proofs.Json.Settle

/-!
# Bundles are unpacked to what they hold

A text that holds files, as an object of its own or inside compiler input, is unpacked to the files
in their order (`unpack_of_holds`), however its JSON is written and whatever else stands in it.
-/

namespace ContractScan.SourceBundle

open Json Grammar

/-- The object with the entries maps the paths of the files, in their order, to objects with their
contents. Of several members of one name the last one counts, in the place of the first. -/
structure Describes (entries : List (String × Json)) (files : List File) : Prop where
  paths : (entries.map Prod.fst).eraseDups = files.map File.path
  contents : ∀ f ∈ files, ∃ ms, LastMember f.path (.object ms) entries ∧
    LastMember "content" (.text f.content) ms

/-- The texts that hold the files. -/
inductive Holds (files : List File) : List Char → Prop
  /-- Compiler input, in an extra pair of braces. -/
  | input {ms entries : List (String × Json)} {s : List Char}
      (sources : LastMember "sources" (.object entries) ms) (described : Describes entries files)
      (written : Value (.object ms) s) (level : (Json.object ms).depth < maxDepth) :
      Holds files ('{' :: s ++ ['}'])
  /-- An object with the files as its only members. -/
  | files {entries : List (String × Json)} {s : List Char} (described : Describes entries files)
      (written : Value (.object entries) s) (level : (Json.object entries).depth < maxDepth) :
      Holds files s

/-- The texts that list files by the entries: as the members of an object, or as those of the member
`sources` of compiler input, in an extra pair of braces. -/
inductive Lists (entries : List (String × Json)) : List Char → Prop
  | input {ms : List (String × Json)} {s : List Char}
      (sources : LastMember "sources" (.object entries) ms) (written : Value (.object ms) s)
      (level : (Json.object ms).depth < maxDepth) : Lists entries ('{' :: s ++ ['}'])
  | files {s : List Char} (written : Value (.object entries) s)
      (level : (Json.object entries).depth < maxDepth) : Lists entries s

/-- A text holds the files that its entries describe. -/
theorem exists_lists_of_holds {files : List File} {s : List Char} (holds : Holds files s) :
    ∃ entries, Lists entries s ∧ Describes entries files := by
  cases holds with
  | input sources described written level => exact ⟨_, .input sources written level, described⟩
  | files described written level => exact ⟨_, .files written level, described⟩

/-! ### From entries to files -/

section Entries

variable {room : Nat} {files : List File} {entries out : List (String × Json)}

theorem ofEntry?_of_content {f : File} {ms : List (String × Json)} {y : Json}
    (content : LastMember "content" (.text f.content) ms)
    (settled : settle? room (.object ms) = some y) : File.ofEntry? (f.path, y) = some f := by
  obtain ⟨members, rfl, within⟩ := exists_of_settle?_object settled
  obtain ⟨z, item, found⟩ := exists_of_lastMember content within
  cases item
  have member : (Json.object members).get? "content" = some (.text f.content) := found
  rw [File.ofEntry?, member]
  rfl

/-- Entries of different names are decoded one by one if each is found decoded under its name. -/
theorem mapM_ofEntry?_of_lookup (names : out.map Prod.fst = files.map File.path)
    (distinct : (files.map File.path).Nodup)
    (each : ∀ f ∈ files, ∃ y, out.lookup f.path = some y ∧ File.ofEntry? (f.path, y) = some f) :
    out.mapM File.ofEntry? = some files := by
  induction files generalizing out with
  | nil => rw [List.map_eq_nil_iff.mp names]; rfl
  | cons f files ih =>
    obtain ⟨e, out, rfl, path, names⟩ := List.map_eq_cons_iff.mp names
    obtain ⟨other, distinct⟩ := List.nodup_cons.mp distinct
    obtain ⟨y, found, decoded⟩ := each f (.head files)
    rw [Keyed.lookup_cons_eq_ite, if_pos path.symm] at found
    cases found
    rw [← path] at decoded
    have rest : out.mapM File.ofEntry? = some files := by
      refine ih names distinct fun g mem ↦ ?_
      obtain ⟨z, found, decoded⟩ := each g (.tail f mem)
      rw [Keyed.lookup_cons_eq_ite, if_neg] at found
      · exact ⟨z, found, decoded⟩
      · intro same
        exact other (path ▸ same ▸ List.mem_map_of_mem mem)
    rw [List.mapM_cons, decoded, rest]
    rfl

/-- Entries that describe files still do so when they are taken in. -/
theorem mapM_ofEntry?_of_describes (distinct : (files.map File.path).Nodup)
    (described : Describes entries files) (settled : settleMembers? room entries [] = some out) :
    out.mapM File.ofEntry? = some files := by
  have names := (map_fst_of_settleMembers?_nil settled).trans described.paths
  refine mapM_ofEntry?_of_lookup names distinct fun f mem ↦ ?_
  obtain ⟨ms, entry, content⟩ := described.contents f mem
  obtain ⟨y, item, found⟩ := exists_of_lastMember entry settled
  exact ⟨y, found, ofEntry?_of_content content item⟩

end Entries

/-! ### How files are told apart from other text -/

section Braces

variable {files : List File} {s w : List Char}

theorem exists_cons_of_blank {c : Char} (blank : Blank w) (other : c ≠ '{') :
    ∃ d t, w ++ c :: s = d :: t ∧ d ≠ '{' := by
  cases w with
  | nil => exact ⟨c, s, rfl, other⟩
  | cons d w =>
    refine ⟨d, _, rfl, ?_⟩
    rintro rfl
    exact absurd (blank _ (.head w)) (by decide)

theorem exists_cons_of_member {m : String × Json} (member : Member m s) :
    ∃ d t, s = d :: t ∧ d ≠ '{' := by
  obtain ⟨before, -, -, -⟩ := member
  simpa using exists_cons_of_blank before (by decide)

theorem exists_cons_of_members {ms : List (String × Json)} (members : Members ms s) :
    ∃ d t, s = d :: t ∧ d ≠ '{' := by
  cases members with
  | last member => exact exists_cons_of_member member
  | next member rest =>
    obtain ⟨d, t, rfl, other⟩ := exists_cons_of_member member
    exact ⟨d, _, rfl, other⟩

/-- Inside the braces of an object there is no second brace at the beginning. -/
theorem exists_inside {ms : List (String × Json)} (written : Value (.object ms) s) :
    ∃ inside, s = '{' :: (inside ++ ['}']) ∧ (inside ++ ['}']).head? ≠ some '{' := by
  cases written with
  | noMembers blank =>
    obtain ⟨d, t, cut, other⟩ := exists_cons_of_blank (c := '}') (s := []) blank (by decide)
    exact ⟨_, rfl, by simpa [cut] using other⟩
  | object members =>
    obtain ⟨d, t, rfl, other⟩ := exists_cons_of_members members
    exact ⟨_, rfl, by simpa using other⟩

theorem enclosed_iff {first last : List Char} :
    enclosed first last s = true ↔ first <+: s ∧ last <:+ s := by
  rw [enclosed, Bool.and_eq_true, List.isPrefixOf_iff_prefix, List.isSuffixOf_iff_suffix]

theorem inner_append (c d : Char) (s : List Char) : inner (c :: (s ++ [d])) = s := by
  rw [inner, List.drop_one, List.tail_cons, List.dropLast_concat]

/-- Compiler input is read between the extra braces, and of it the sources. -/
theorem entries?_of_input (inside : List Char) :
    entries? ('{' :: ('{' :: (inside ++ ['}']) ++ ['}'])) =
      ((parse? ('{' :: (inside ++ ['}']))).bind fun j ↦ j.get? "sources").bind Json.members? := by
  rw [entries?, if_pos, inner_append]
  exact enclosed_iff.mpr ⟨⟨_, rfl⟩, '{' :: '{' :: inside, by simp⟩

/-- An object whose text does not begin with two braces is read as it stands. -/
theorem entries?_of_object {inside : List Char} (other : (inside ++ ['}']).head? ≠ some '{') :
    entries? ('{' :: (inside ++ ['}'])) =
      (parse? ('{' :: (inside ++ ['}']))).bind Json.members? := by
  have single : ¬ enclosed ['{', '{'] ['}', '}'] ('{' :: (inside ++ ['}'])) = true := by
    intro doubled
    obtain ⟨⟨rest, begins⟩, -⟩ := enclosed_iff.mp doubled
    rw [List.cons_append, List.cons_inj_right] at begins
    exact other (begins ▸ rfl)
  rw [entries?, if_neg single, if_pos]
  exact enclosed_iff.mpr ⟨⟨_, rfl⟩, '{' :: inside, rfl⟩

/-- A value that is not nested too deeply is read from its text. -/
theorem exists_parse? {j : Json} (written : Value j s) (level : j.depth < maxDepth) :
    ∃ v, parse? s = some v ∧ settle? maxDepth j = some v := by
  obtain ⟨v, settled⟩ := Option.isSome_iff_exists.mp
    ((isSome_settle? maxDepth j).mpr ⟨readable_of_value written, .inr level⟩)
  have element : Element j s := by
    simpa using Element.intro blank_nil written blank_nil
  exact ⟨v, parse?_eq_some_iff.mpr ⟨j, element, level, settled⟩, settled⟩

/-- The entries of a text that lists files are taken in. -/
theorem exists_entries?_of_lists {entries : List (String × Json)} (lists : Lists entries s) :
    ∃ room out, entries? s = some out ∧ settleMembers? room entries [] = some out := by
  cases lists with
  | input sources written level =>
    obtain ⟨v, read, settled⟩ := exists_parse? written level
    obtain ⟨members, rfl, within⟩ := exists_of_settle?_object settled
    obtain ⟨y, item, found⟩ := exists_of_lastMember sources within
    obtain ⟨out, rfl, inside⟩ := exists_of_settle?_object item
    have member : (Json.object members).get? "sources" = some (.object out) := found
    obtain ⟨text, rfl, -⟩ := exists_inside written
    refine ⟨_, out, ?_, inside⟩
    rw [List.cons_append, entries?_of_input, read, Option.bind_some, member]
    rfl
  | files written level =>
    obtain ⟨v, read, settled⟩ := exists_parse? written level
    obtain ⟨out, rfl, inside⟩ := exists_of_settle?_object settled
    obtain ⟨text, rfl, other⟩ := exists_inside written
    refine ⟨_, out, ?_, inside⟩
    rw [entries?_of_object other, read]
    rfl

/-- The files of a text that holds them are found. -/
theorem mapM_entries?_of_holds (distinct : (files.map File.path).Nodup) (holds : Holds files s) :
    (entries? s).bind (fun es ↦ es.mapM File.ofEntry?) = some files := by
  obtain ⟨entries, lists, described⟩ := exists_lists_of_holds holds
  obtain ⟨room, out, found, settled⟩ := exists_entries?_of_lists lists
  rw [found, Option.bind_some]
  exact mapM_ofEntry?_of_describes distinct described settled

theorem exists_braces_of_holds (holds : Holds files s) : ∃ m, s = '{' :: (m ++ ['}']) := by
  cases holds with
  | input => exact ⟨_, rfl⟩
  | files _ written =>
    obtain ⟨inside, rfl, -⟩ := exists_inside written
    exact ⟨inside, rfl⟩

end Braces

/-- A text that holds files, with any white space around it, is unpacked to the files in their
order. -/
theorem unpack_of_holds {files : List File} (nonempty : files ≠ [])
    (distinct : (files.map File.path).Nodup) {s : List Char} (holds : Holds files s)
    {w w' : List Char} (before : ∀ c ∈ w, Text.isBlank c = true)
    (after : ∀ c ∈ w', Text.isBlank c = true) :
    unpack (String.ofList (w ++ s ++ w')) =
      String.join (files.map fun f ↦ "// File: " ++ f.path ++ "\n" ++ f.content ++ "\n\n") := by
  have trimmed : Text.trimmed (w ++ s ++ w') = s := by
    obtain ⟨m, rfl⟩ := exists_braces_of_holds holds
    exact Text.trimmed_append before (by decide) (by decide) after
  have found : files? (String.ofList (w ++ s ++ w')) = some files := by
    rw [files?, String.toList_ofList, trimmed, mapM_entries?_of_holds distinct holds]
    simp [nonempty]
  rw [unpack, found]
  rfl

/-- Compiler input whose first file has a brace, a quote and another brace for its content. -/
theorem unpack_of_holds_input :
    unpack ("\n\x7b\x7b\"runs\":[ ],\"sources\":\x7b\"B\":\x7b\"content\":" ++
        "\"\\u007b\\\"\x7d\"\x7d,\"A\":\x7b\"content\":\"\"\x7d\x7d\x7d\x7d\u00a0") =
      "// File: B\n\x7b\"\x7d\n\n// File: A\n\n\n" := by
  have member (name : String) {x : Json} {s : List Char} (value : Value x s)
      (plain : name.toList.all isPlain = true := by decide) :
      Member (name, x) ([] ++ '"' :: name.toList ++ '"' :: [] ++ ':' :: ([] ++ s ++ [])) :=
    .intro blank_nil (quoted_of_isPlain plain) blank_nil (.intro blank_nil value blank_nil)
  have quoted : Quoted "\x7b\"\x7d".toList "\\u007b\\\"\x7d".toList :=
    .unit rfl (.short rfl (quoted_of_isPlain (by decide)))
  have first := Value.object (.last (member "content" (.text quoted)))
  have second := Value.object (.last (member "content" (.text (t := "") .nil)))
  have sources := Value.object (.next (member "B" first) (.last (member "A" second)))
  have runs : Value (.array []) _ := .noItems (w := [' ']) (by simp [Blank, Space])
  have written := Value.object (.next (member "runs" runs) (.last (member "sources" sources)))
  have described : Describes
      [("B", .object [("content", .text "\x7b\"\x7d")]), ("A", .object [("content", .text "")])]
      [⟨"B", "\x7b\"\x7d"⟩, ⟨"A", ""⟩] := by
    refine ⟨by decide, ?_⟩
    simp only [List.forall_mem_cons]
    exact ⟨⟨_, ⟨[], _, rfl, by decide⟩, [], [], rfl, by decide⟩,
      ⟨_, ⟨[_], [], rfl, by decide⟩, [], [], rfl, by decide⟩, by simp⟩
  have holds : Holds _ _ := .input ⟨[_], [], rfl, by decide⟩ described written (by decide)
  have before : ∀ c ∈ ['\n'], Text.isBlank c = true := List.forall_mem_singleton.mpr rfl
  have after : ∀ c ∈ ['\u00a0'], Text.isBlank c = true := List.forall_mem_singleton.mpr rfl
  have unpacked := unpack_of_holds (by decide) (by decide) holds before after
  refine (congrArg unpack ?_).trans (unpacked.trans ?_)
  · decide +kernel
  · decide +kernel

end ContractScan.SourceBundle
