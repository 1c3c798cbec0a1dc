import ContractScan.Proofs.Fetch.Contract
import ContractScan.Proofs.Fetch.SourceBundle
import ContractScan.Proofs.Traversal

/-!
# All of the files or the text itself

A text is unpacked to all the files that it lists, with their full contents and in their order, or
else it is kept as it stands: where it lists none, and where one of them has no content
(`SourceBundle.Unpacks`). What comes out begins with no brace, unless it is the text that came in,
so that nothing is unpacked twice (`SourceBundle.unpack_eq_iff`).
-/

namespace ContractScan.SourceBundle

open Json Grammar

/-- The entries give the file at the path the content. -/
def HasContent (entries : List (String × Json)) (path content : String) : Prop :=
  ∃ ms, LastMember path (.object ms) entries ∧ LastMember "content" (.text content) ms

/-- What a text is unpacked to. -/
inductive Unpacks (raw : String) : String → Prop
  /-- All files that the text lists, if there is one. -/
  | files {entries : List (String × Json)} {files : List File}
      (lists : Lists entries (Text.trimmed raw.toList)) (described : Describes entries files)
      (nonempty : files ≠ []) :
      Unpacks raw
        (String.join (files.map fun f ↦ "// File: " ++ f.path ++ "\n" ++ f.content ++ "\n\n"))
  /-- The text lists no files, as one that is no JSON. -/
  | unlisted (none : ∀ entries, ¬Lists entries (Text.trimmed raw.toList)) : Unpacks raw raw
  /-- The text could list files, but there is none. -/
  | noFile (lists : Lists [] (Text.trimmed raw.toList)) : Unpacks raw raw
  /-- One of the files that the text lists has no content. -/
  | incomplete {entries : List (String × Json)} {path : String}
      (lists : Lists entries (Text.trimmed raw.toList)) (mem : path ∈ entries.map Prod.fst)
      (lacking : ∀ content, ¬HasContent entries path content) : Unpacks raw raw

/-! ### From texts to entries -/

section Entries

variable {s : List Char} {entries out : List (String × Json)}

theorem exists_of_element {j : Json} (element : Element j s) :
    ∃ w t w', s = w ++ t ++ w' ∧ Blank w ∧ Value j t ∧ Blank w' := by
  cases element with
  | intro before value after => exact ⟨_, _, _, rfl, before, value, after⟩

/-- There is no white space around braces. -/
theorem value_of_element {j : Json} {m : List Char} (element : Element j ('{' :: (m ++ ['}']))) :
    Value j ('{' :: (m ++ ['}'])) := by
  obtain ⟨w, t, w', text, before, value, after⟩ := exists_of_element element
  have front : w = [] := by
    cases w with
    | nil => rfl
    | cons c w =>
      cases (List.cons.inj text).1
      exact absurd (before '{' (.head w)) (by decide)
  have back : w' = [] := by
    rcases List.eq_nil_or_concat w' with nil | ⟨w', c, rfl⟩
    · exact nil
    · have ends : ('{' :: m) ++ ['}'] = (w ++ t ++ w') ++ [c] := by
        rw [List.cons_append, text, List.concat_eq_append, List.append_assoc _ w']
      cases List.append_inj_right' ends rfl
      exact absurd (after '}' (by simp)) (by decide)
  rw [text, front, back, List.nil_append, List.append_nil]
  exact value

/-- A text in two pairs of braces stands in braces without the first of them. -/
theorem exists_of_enclosed (doubled : enclosed ['{', '{'] ['}', '}'] s = true) :
    ∃ m, s = '{' :: ('{' :: (m ++ ['}']) ++ ['}']) := by
  obtain ⟨⟨r, rfl⟩, ⟨t, ends⟩⟩ := enclosed_iff.mp doubled
  match t, ends with
  | [], ends => simp at ends
  | [c], ends => simp at ends
  | c :: d :: t, ends =>
    simp only [List.cons_append, List.nil_append, List.cons.injEq] at ends
    obtain ⟨-, -, rfl⟩ := ends
    exact ⟨t, by simp⟩

theorem exists_of_enclosed_single (single : enclosed ['{'] ['}'] s = true) :
    ∃ m, s = '{' :: (m ++ ['}']) := by
  obtain ⟨⟨r, rfl⟩, ⟨t, ends⟩⟩ := enclosed_iff.mp single
  match t, ends with
  | [], ends => simp at ends
  | c :: t, ends =>
    simp only [List.cons_append, List.nil_append, List.cons.injEq] at ends
    obtain ⟨-, rfl⟩ := ends
    exact ⟨t, rfl⟩

/-- What is taken in as the entries of a text are entries by which it lists files. -/
theorem exists_lists_of_entries? (found : entries? s = some out) :
    ∃ room entries, Lists entries s ∧ settleMembers? room entries [] = some out := by
  rw [entries?] at found
  split at found
  next doubled =>
    obtain ⟨m, rfl⟩ := exists_of_enclosed doubled
    rw [inner_append] at found
    obtain ⟨v, sources, members⟩ := Option.bind_eq_some_iff.mp found
    obtain ⟨j, read, member⟩ := Option.bind_eq_some_iff.mp sources
    obtain ⟨k, element, level, settled⟩ := parse?_eq_some_iff.mp read
    cases v with
    | object _ =>
      cases members
      cases j with
      | object js =>
        obtain ⟨ms, rfl, within⟩ := exists_of_settle?_eq_object settled
        obtain ⟨x, last, item⟩ := exists_lastMember_of_lookup within member
        obtain ⟨entries, rfl, inside⟩ := exists_of_settle?_eq_object item
        exact ⟨_, entries, .input last (value_of_element element) level, inside⟩
      | _ => cases member
    | _ => cases members
  next =>
    split at found
    next single =>
      obtain ⟨m, rfl⟩ := exists_of_enclosed_single single
      obtain ⟨v, read, members⟩ := Option.bind_eq_some_iff.mp found
      obtain ⟨k, element, level, settled⟩ := parse?_eq_some_iff.mp read
      cases v with
      | object _ =>
        cases members
        obtain ⟨entries, rfl, inside⟩ := exists_of_settle?_eq_object settled
        exact ⟨_, entries, .files (value_of_element element) level, inside⟩
      | _ => cases members
    next => cases found

end Entries

/-! ### From entries to files -/

section Files

variable {room : Nat} {entries out : List (String × Json)} {files : List File}

/-- Nothing is taken in of nothing only. -/
theorem eq_nil_of_settleMembers? (settled : settleMembers? room entries [] = some []) :
    entries = [] := by
  refine List.eq_nil_iff_forall_not_mem.mpr fun e mem ↦ ?_
  have there := (mem_map_fst_of_settleMembers? settled).mpr (.inr (List.mem_map_of_mem mem))
  cases there

/-- An entry is a file after it is taken in just when the entries give the file its content. -/
theorem ofEntry?_eq_some_iff (settled : settleMembers? room entries [] = some out)
    {e : String × Json} {f : File} (mem : e ∈ out) :
    File.ofEntry? e = some f ↔ f.path = e.1 ∧ HasContent entries e.1 f.content := by
  have found := Keyed.lookup_of_mem (nodup_of_settleMembers? (by simp) settled) mem
  constructor
  · intro file
    obtain ⟨c, content, rfl⟩ := Option.map_eq_some_iff.mp file
    obtain ⟨t, member, text⟩ := Option.bind_eq_some_iff.mp content
    obtain ⟨x, last, item⟩ := exists_lastMember_of_lookup settled found
    refine ⟨rfl, ?_⟩
    cases value : e.2 with
    | object js =>
      rw [value] at item member
      obtain ⟨ms, rfl, within⟩ := exists_of_settle?_eq_object item
      obtain ⟨z, inside, kept⟩ := exists_lastMember_of_lookup within member
      cases t with
      | text _ =>
        cases text
        cases eq_of_settle?_eq_text kept
        exact ⟨ms, last, inside⟩
      | _ => cases text
    | _ =>
      rw [value] at member
      cases member
  · rintro ⟨path, ms, last, content⟩
    obtain ⟨y, item, also⟩ := exists_of_lastMember last settled
    cases found.symm.trans also
    have file := ofEntry?_of_content content item
    rwa [path] at file

/-- The files that the entries are read to are the ones that they describe. -/
theorem describes_of_mapM (settled : settleMembers? room entries [] = some out)
    (read : out.mapM File.ofEntry? = some files) : Describes entries files where
  paths := by
    have same : ∀ e ∈ out, ∀ f, File.ofEntry? e = some f → f.path = e.1 :=
      fun _ mem _ file ↦ ((ofEntry?_eq_some_iff settled mem).mp file).1
    rw [← map_fst_of_settleMembers?_nil settled, map_eq_map_of_mapM read same]
  contents := by
    intro f mem
    obtain ⟨e, there, file⟩ := exists_of_mem_mapM read mem
    obtain ⟨path, content⟩ := (ofEntry?_eq_some_iff settled there).mp file
    rw [path]
    exact content

end Files

/-! ### What comes out -/

variable {raw : String}

/-- The files that are found in a text are the ones that it holds. -/
theorem files?_eq_some_iff {files : List File} :
    files? raw = some files ↔
      files ≠ [] ∧
        ∃ entries, Lists entries (Text.trimmed raw.toList) ∧ Describes entries files := by
  have some_iff : files? raw = some files ↔
      files ≠ [] ∧ (entries? (Text.trimmed raw.toList)).bind (·.mapM File.ofEntry?) =
        some files := by
    rw [files?, Option.filter_eq_some_iff, and_comm]
    simp
  rw [some_iff, and_congr_right_iff]
  intro _
  constructor
  · intro found
    obtain ⟨out, entries, read⟩ := Option.bind_eq_some_iff.mp found
    obtain ⟨room, entries, lists, settled⟩ := exists_lists_of_entries? entries
    exact ⟨entries, lists, describes_of_mapM settled read⟩
  · rintro ⟨entries, lists, described⟩
    obtain ⟨room, out, found, settled⟩ := exists_entries?_of_lists lists
    have distinct : (files.map File.path).Nodup := by
      rw [← described.paths, ← map_fst_of_settleMembers?_nil settled]
      exact nodup_of_settleMembers? (by simp) settled
    rw [found, Option.bind_some]
    exact mapM_ofEntry?_of_describes distinct described settled

theorem unpack_of_files?_eq_none (none : files? raw = none) : unpack raw = raw := by
  rw [unpack, none]

theorem files?_eq_none_of_mapM {out : List (String × Json)}
    (found : entries? (Text.trimmed raw.toList) = some out)
    (incomplete : out.mapM File.ofEntry? = none) : files? raw = none := by
  rw [files?, found, Option.bind_some, incomplete]
  rfl

/-- What a text is unpacked to is one of the outcomes. -/
theorem unpacks_unpack (raw : String) : Unpacks raw (unpack raw) := by
  cases found : files? raw with
  | some files =>
    obtain ⟨nonempty, entries, lists, described⟩ := files?_eq_some_iff.mp found
    rw [unpack, found]
    exact .files lists described nonempty
  | none =>
    rw [unpack_of_files?_eq_none found]
    cases listed : entries? (Text.trimmed raw.toList) with
    | none =>
      refine .unlisted fun entries lists ↦ ?_
      obtain ⟨room, out, some, -⟩ := exists_entries?_of_lists lists
      cases listed.symm.trans some
    | some out =>
      obtain ⟨room, entries, lists, settled⟩ := exists_lists_of_entries? listed
      cases read : out.mapM File.ofEntry? with
      | none =>
        obtain ⟨e, mem, lacking⟩ := mapM_eq_none_iff.mp read
        have there : e.1 ∈ entries.map Prod.fst := by
          simpa using (mem_map_fst_of_settleMembers? settled).mp (List.mem_map_of_mem mem)
        refine .incomplete lists there fun content has ↦ ?_
        have file := (ofEntry?_eq_some_iff (f := ⟨e.1, content⟩) settled mem).mpr ⟨rfl, has⟩
        cases lacking.symm.trans file
      | some files =>
        -- only the files of a text without a single one are not found
        have nil : files = [] := by
          by_contra nonempty
          have also := files?_eq_some_iff.mpr
            ⟨nonempty, entries, lists, describes_of_mapM settled read⟩
          cases found.symm.trans also
        have none : out = [] := by
          rw [nil] at read
          simpa using mapM_eq_some_iff.mp read
        exact .noFile (eq_nil_of_settleMembers? (none ▸ settled) ▸ lists)

/-- There is one outcome. -/
theorem eq_unpack_of_unpacks {out : String} (h : Unpacks raw out) : out = unpack raw := by
  cases h with
  | files lists described nonempty =>
    rw [unpack, files?_eq_some_iff.mpr ⟨nonempty, _, lists, described⟩]
    rfl
  | unlisted none =>
    refine (unpack_of_files?_eq_none (Option.eq_none_iff_forall_ne_some.mpr ?_)).symm
    intro files found
    obtain ⟨-, entries, lists, -⟩ := files?_eq_some_iff.mp found
    exact none entries lists
  | noFile lists =>
    obtain ⟨room, out, found, settled⟩ := exists_entries?_of_lists lists
    cases settled
    refine (unpack_of_files?_eq_none ?_).symm
    rw [files?, found]
    rfl
  | incomplete lists mem lacking =>
    obtain ⟨room, out, found, settled⟩ := exists_entries?_of_lists lists
    obtain ⟨e, there, rfl⟩ :=
      List.mem_map.mp ((mem_map_fst_of_settleMembers? settled).mpr (.inr mem))
    have read : out.mapM File.ofEntry? = none := by
      refine mapM_eq_none_iff.mpr ⟨e, there, Option.eq_none_iff_forall_ne_some.mpr fun f file ↦ ?_⟩
      exact lacking f.content ((ofEntry?_eq_some_iff settled there).mp file).2
    exact (unpack_of_files?_eq_none (files?_eq_none_of_mapM found read)).symm

/-- A text that begins with a slash lists no files. -/
theorem files?_of_slash {t : List Char} (text : raw.toList = '/' :: t) : files? raw = none := by
  have kept : Text.trimmed ('/' :: t) = '/' :: t.rdropWhile Text.isBlank :=
    Text.trim_append (s := ['/']) (List.cons_ne_nil _ _) (List.forall_mem_singleton.mpr (by decide))
  have entries : entries? ('/' :: t.rdropWhile Text.isBlank) = none := by
    simp [entries?, enclosed, List.isPrefixOf]
  rw [files?, text, kept, entries]
  rfl

/-- What comes out of a bundle begins with the header of its first file. -/
theorem unpack_unpack (raw : String) : unpack (unpack raw) = unpack raw := by
  cases found : files? raw with
  | none => rw [unpack_of_files?_eq_none found, unpack_of_files?_eq_none found]
  | some files =>
    obtain ⟨nonempty, -⟩ := files?_eq_some_iff.mp found
    cases files with
    | nil => exact absurd rfl nonempty
    | cons f files =>
      have out : unpack raw = String.join ((f :: files).map File.layOut) := by rw [unpack, found]
      have begins : ∃ t, (unpack raw).toList = '/' :: t := by
        rw [out, List.map_cons, String.join_cons, File.layOut]
        simp only [String.toList_append]
        exact ⟨_, rfl⟩
      obtain ⟨t, begins⟩ := begins
      exact unpack_of_files?_eq_none (files?_of_slash begins)

/-- The extra braces stand apart from the text between them, which begins and ends on a
character. -/
theorem isValid_of_enclosed
    (doubled : enclosed ['{', '{'] ['}', '}'] (Text.trim raw).toList = true) :
    1 < (Text.trim raw).utf8ByteSize - 1 ∧ String.Pos.Raw.IsValid (Text.trim raw) ⟨1⟩ ∧
      String.Pos.Raw.IsValid (Text.trim raw) ⟨(Text.trim raw).utf8ByteSize - 1⟩ := by
  obtain ⟨m, text⟩ := exists_of_enclosed doubled
  have braces : '{'.utf8Size = 1 ∧ '}'.utf8Size = 1 := by decide
  have last : (Text.trim raw).utf8ByteSize - 1 = Text.size ('{' :: '{' :: (m ++ ['}'])) := by
    rw [← Text.size_toList, text]
    simp only [List.cons_append, Text.size_cons, Text.size_append, Text.size_nil, braces]
    omega
  refine ⟨?_, ?_, ?_⟩
  · rw [last]
    simp only [Text.size_cons, Text.size_append, braces]
    omega
  · have first : String.Pos.Raw.IsValid (Text.trim raw) ⟨Text.size ['{']⟩ := Text.isValid_size text
    exact first
  · rw [last]
    exact Text.isValid_size (s := ['}']) text

/-- A text is unpacked to all of its files or else kept as it is. Inside its braces it is cut
between characters, only a blank text comes out blank, and what comes out is not unpacked further. -/
theorem unpack_eq_iff (raw : String) :
    (∀ out, unpack raw = out ↔ Unpacks raw out) ∧
    (enclosed ['{', '{'] ['}', '}'] (Text.trim raw).toList = true →
      1 < (Text.trim raw).utf8ByteSize - 1 ∧ String.Pos.Raw.IsValid (Text.trim raw) ⟨1⟩ ∧
        String.Pos.Raw.IsValid (Text.trim raw) ⟨(Text.trim raw).utf8ByteSize - 1⟩) ∧
    (Text.allBlank (unpack raw) = true → Text.allBlank raw = true) ∧
    unpack (unpack raw) = unpack raw := by
  refine ⟨fun out ↦ ⟨?_, ?_⟩, isValid_of_enclosed, ?_, unpack_unpack raw⟩
  · rintro rfl
    exact unpacks_unpack raw
  · exact fun h ↦ (eq_unpack_of_unpacks h).symm
  · intro blank
    by_contra said
    exact Bool.eq_false_iff.mp (allBlank_unpack (Bool.eq_false_iff.mpr said)) blank

/-- The content of a file is another bundle. It is not unpacked again. -/
theorem unpack_eq_iff_nested :
    let raw := "\x7b\x7b\"sources\":\x7b\"A\":\x7b\"content\":" ++
      "\"\x7b\\\"B\\\":\x7b\\\"content\\\":\\\"é\\\"\x7d\x7d\"\x7d\x7d\x7d\x7d\n"
    let out := "// File: A\n\x7b\"B\":\x7b\"content\":\"é\"\x7d\x7d\n\n"
    Unpacks raw out ∧ ¬Unpacks raw raw ∧ unpack out = out ∧
      String.Pos.Raw.IsValid (Text.trim raw) ⟨(Text.trim raw).utf8ByteSize - 1⟩ := by
  intro raw out
  obtain ⟨outcome, cut, -, again⟩ := unpack_eq_iff raw
  have unpacked : unpack raw = out := by decide +kernel
  refine ⟨(outcome out).mp unpacked, fun kept ↦ ?_, unpacked ▸ again, (cut (by decide +kernel)).2.2⟩
  have same : out = raw := unpacked.symm.trans ((outcome raw).mpr kept)
  exact absurd same (by decide +kernel)

end ContractScan.SourceBundle
