import ContractScan.Proofs.Text.Trim
import ContractScan.Proofs.Text.Utf8
import ContractScan.Report.Listing

/-!
# Colours as decoration

With colours a report has terminal sequences besides its text. Without them it is the report that is
written without colours, whatever the styles of its pieces, if no text holds an escape character
(`unstyle_render`). The texts of the program itself hold none, so that only those of an analysis or
a contract count (`unstyle_reports`).
-/

namespace ContractScan

namespace Report

/-- The text without its terminal sequences: an escape character with a bracket goes, and so does
all that follows up to the next `m`. -/
def unstyled : List Char → List Char
  | '\x1b' :: '[' :: s =>
    match _mark : s.dropWhile (· != 'm') with
    | [] => '\x1b' :: '[' :: unstyled s
    | _ :: rest => unstyled rest
  | c :: s => c :: unstyled s
  | [] => []
termination_by s => s.length
decreasing_by
  · simp only [List.length_cons]
    omega
  · have shorter := (List.dropWhile_suffix (· != 'm') (l := s)).length_le
    rw [_mark] at shorter
    simp only [List.length_cons] at shorter ⊢
    omega
  · exact Nat.lt_add_one _

/-- The text without its terminal sequences. -/
def unstyle (s : String) : String := String.ofList (unstyled s.toList)

/-- The text holds no escape character. -/
def EscapeFree (s : String) : Prop := '\x1b' ∉ s.toList

/-- The bytes of a text are at hand, its characters are not. -/
instance (s : String) : Decidable (EscapeFree s) :=
  decidable_of_iff ('\x1b'.toUInt8 ∉ s.toByteArray.data.toList)
    (not_congr (Text.mem_toByteArray_iff (by decide) s))

section Sequences

variable {s t : List Char}

theorem unstyled_nil : unstyled [] = [] := by
  rw [unstyled]

theorem unstyled_cons {c : Char} (h : c ≠ '\x1b') (s : List Char) :
    unstyled (c :: s) = c :: unstyled s := by
  rw [unstyled]
  rintro s rfl
  exact absurd rfl h

/-- A text without sequences stays as it is. -/
theorem unstyled_append (h : '\x1b' ∉ t) (s : List Char) : unstyled (t ++ s) = t ++ unstyled s := by
  induction t with
  | nil => rfl
  | cons c t ih =>
    rw [List.mem_cons, not_or] at h
    rw [List.cons_append, unstyled_cons (Ne.symm h.1), ih h.2, List.cons_append]

/-- A sequence goes as a whole. -/
theorem unstyled_sequence {codes : String} (h : 'm' ∉ codes.toList) (s : List Char) :
    unstyled (sequence codes ++ s) = unstyled s := by
  have stop : (codes.toList ++ 'm' :: s).dropWhile (· != 'm') = 'm' :: s := by
    rw [List.dropWhile_append_of_pos, List.dropWhile_cons_of_neg]
    · simp
    · intro c mem
      rw [bne_iff_ne]
      rintro rfl
      exact h mem
  simp only [sequence, List.cons_append, List.append_assoc, List.nil_append]
  rw [unstyled]
  split
  next none =>
    rw [stop] at none
    cases none
  next rest found =>
    rw [stop] at found
    cases found
    rfl

theorem reopened_of_not_mem (opening : List Char) (h : '\x1b' ∉ t) : reopened opening t = t := by
  induction t with
  | nil => rfl
  | cons c t ih =>
    rw [List.mem_cons, not_or] at h
    rw [reopened, ih h.2]
    rintro s rfl
    exact absurd rfl h.1

theorem not_mem_codes (style : Style) : 'm' ∉ style.codes.toList := by
  cases style <;> decide

end Sequences

/-- A piece with colours is its text, once the sequences are gone. -/
theorem unstyled_piece {p : Piece} (h : EscapeFree p.text) (s : List Char) :
    unstyled (p.render true ++ s) = p.render false ++ unstyled s := by
  have plain : p.render false = p.text.toList := rfl
  rw [plain, Piece.render]
  split
  next =>
    have last : 'm' ∉ "0".toList := by decide
    dsimp only
    rw [reopened_of_not_mem _ h, List.append_assoc, List.append_assoc,
      unstyled_sequence (not_mem_codes p.style), unstyled_append h, unstyled_sequence last]
  next => exact unstyled_append h s

theorem unstyled_line {l : Line} (h : ∀ p ∈ l, EscapeFree p.text) (s : List Char) :
    unstyled (l.flatMap (Piece.render true) ++ s) =
      l.flatMap (Piece.render false) ++ unstyled s := by
  induction l with
  | nil => rfl
  | cons p l ih =>
    rw [List.flatMap_cons, List.flatMap_cons, List.append_assoc, List.append_assoc,
      unstyled_piece (h p (.head l)), ih fun q mem ↦ h q (.tail p mem)]

/-- No text of the lines holds an escape character. -/
def NoEscapes (lines : List Line) : Prop := ∀ l ∈ lines, ∀ p ∈ l, EscapeFree p.text

instance (lines : List Line) : Decidable (NoEscapes lines) :=
  inferInstanceAs (Decidable (∀ l ∈ lines, ∀ p ∈ l, EscapeFree p.text))

/-- Lines with colours are the lines without, once the sequences are gone. -/
theorem unstyle_render {lines : List Line} (h : NoEscapes lines) :
    unstyle (render true lines) = render false lines := by
  rw [unstyle, render, render, String.toList_ofList]
  congr 1
  induction lines with
  | nil => exact unstyled_nil
  | cons l lines ih =>
    have newline : '\n' ≠ '\x1b' := by decide
    rw [List.flatMap_cons, List.flatMap_cons, List.append_assoc, unstyled_line (h l (.head lines)),
      List.append_assoc, List.singleton_append, unstyled_cons newline,
      ih fun l' mem ↦ h l' (.tail l mem)]
    rfl

/-! ### Texts without escape characters -/

theorem escapeFree_append {s t : String} :
    EscapeFree (s ++ t) ↔ EscapeFree s ∧ EscapeFree t := by
  rw [EscapeFree, String.toList_append, List.mem_append, not_or]
  rfl

theorem escapeFree_padded {s : String} (h : EscapeFree s) (width : Nat) :
    EscapeFree (padded width s) := by
  refine escapeFree_append.mpr ⟨h, ?_⟩
  rw [EscapeFree, String.toList_ofList]
  intro mem
  exact absurd (List.eq_of_mem_replicate mem) (by decide)

theorem escapeFree_repr (n : Nat) : EscapeFree n.repr := by
  rw [EscapeFree, Nat.toList_repr]
  intro mem
  have digit := Nat.isDigit_of_mem_toDigits (by decide) (by decide) mem
  exact absurd digit (by decide)

theorem escapeFree_intercalate {between : String} (h : EscapeFree between) {ss : List String}
    (each : ∀ s ∈ ss, EscapeFree s) : EscapeFree (between.intercalate ss) := by
  induction ss with
  | nil => exact List.not_mem_nil
  | cons s ss ih =>
    obtain ⟨first, rest⟩ := List.forall_mem_cons.mp each
    cases ss with
    | nil => rwa [String.intercalate_singleton]
    | cons t ss =>
      rw [String.intercalate_cons_cons]
      exact escapeFree_append.mpr ⟨escapeFree_append.mpr ⟨first, h⟩, ih rest⟩

/-- The lines of a text hold nothing that the text does not. -/
theorem escapeFree_of_mem_lines {s : String} (h : EscapeFree s) {l : List Char}
    (mem : l ∈ Text.lines s.toList) : EscapeFree (String.ofList l) := by
  rw [EscapeFree, String.toList_ofList]
  intro within
  have part {l : List Char} (mem : l ∈ s.toList.splitOn '\n') : '\x1b' ∉ l :=
    fun within ↦ h (Text.mem_of_mem_splitOnP mem within)
  rcases List.mem_append.mp mem with ended | last
  · obtain ⟨l, inside, rfl⟩ := List.mem_map.mp ended
    exact part (List.dropLast_subset _ inside) ((Text.chomp_prefix l).subset within)
  · obtain ⟨found, -⟩ := Option.filter_eq_some_iff.mp (Option.mem_toList.mp last)
    exact part (List.mem_of_getLast? found) within

theorem escapeFree_entries {swc cwe : Option String}
    (h : ∀ s ∈ swc.toList ++ cwe.toList, EscapeFree s) : EscapeFree (entries swc cwe) := by
  rw [entries]
  split
  next => decide
  next ids _ =>
    have comma : EscapeFree ", " := by decide
    have row := escapeFree_intercalate comma h
    exact escapeFree_append.mpr ⟨escapeFree_append.mpr ⟨by decide, row⟩, by decide⟩

theorem noEscapes_append {ls ms : List Line} :
    NoEscapes (ls ++ ms) ↔ NoEscapes ls ∧ NoEscapes ms :=
  List.forall_mem_append

theorem noEscapes_cons {l : Line} {ls : List Line} :
    NoEscapes (l :: ls) ↔ (∀ p ∈ l, EscapeFree p.text) ∧ NoEscapes ls :=
  List.forall_mem_cons

theorem noEscapes_nil : NoEscapes [] := List.forall_mem_nil _

end Report

theorem Chain.escapeFree_title (c : Chain) : Report.EscapeFree c.title := by
  cases c <;> decide

theorem Severity.escapeFree_name (s : Severity) : Report.EscapeFree s.name := by
  cases s <;> decide

theorem Network.escapeFree_title (n : Network) : Report.EscapeFree n.title := by
  cases n <;> decide

theorem Network.escapeFree_explorerPage (n : Network) : Report.EscapeFree n.explorerPage := by
  cases n <;> decide

/-- The texts of a finding that are reported, with its source lines or without. -/
def Finding.texts (snippets : Bool) (f : Finding) : List String :=
  [f.weakness, f.description] ++ (f.swc.toList ++ f.cwe.toList) ++
    if snippets then [f.snippet, f.recommendation] else []

/-- The texts of an analysis that are reported. -/
def Analysis.texts (a : Analysis) (threshold : Severity) (snippets : Bool) : List String :=
  a.context.language :: (a.context.framework.toList ++
    (a.atLeast threshold).flatMap (Finding.texts snippets))

/-- The texts of a contract that are reported. -/
def Contract.texts (c : Contract) : List String := [c.name, c.compiler, c.page]

namespace Report

/-! ### The parts of a report on an analysis -/

theorem noEscapes_header {c : Context} (language : EscapeFree c.language)
    (framework : ∀ s ∈ c.framework.toList, EscapeFree s) : NoEscapes (header c) := by
  have framework : EscapeFree ((c.framework.map (", " ++ ·)).getD "") := by
    cases named : c.framework with
    | none => decide
    | some f => exact escapeFree_append.mpr ⟨by decide, framework f (by simp [named])⟩
  rw [header, noEscapes_cons]
  constructor
  · simp +decide [Piece.bold, Piece.plain, escapeFree_append, language, framework,
      c.chain.escapeFree_title]
  · cases c.chain <;> decide

theorem noEscapes_block {snippets : Bool} {f : Finding}
    (h : ∀ s ∈ f.texts snippets, EscapeFree s) : NoEscapes (block snippets f) := by
  rw [Finding.texts, List.forall_mem_append, List.forall_mem_append] at h
  obtain ⟨⟨named, ids⟩, more⟩ := h
  obtain ⟨weakness, description⟩ : EscapeFree f.weakness ∧ EscapeFree f.description := by
    simpa using named
  have line : EscapeFree ("line " ++ (f.line.map toString).getD "?") := by
    refine escapeFree_append.mpr ⟨by decide, ?_⟩
    cases f.line with
    | none => decide
    | some n => exact escapeFree_repr n
  rw [block, noEscapes_cons]
  constructor
  · simp +decide [title, Severity.label, Piece.bold, Piece.plain, escapeFree_append,
      escapeFree_padded f.severity.escapeFree_name, escapeFree_padded line, weakness, description,
      escapeFree_entries ids]
  · cases snippets with
    | false => exact noEscapes_nil
    | true =>
      obtain ⟨snippet, recommendation⟩ : EscapeFree f.snippet ∧ EscapeFree f.recommendation := by
        simpa using more
      rw [if_pos rfl, details, noEscapes_append]
      constructor
      · intro l mem
        obtain ⟨r, shown, rfl⟩ := List.mem_map.mp mem
        simp +decide [Piece.plain, escapeFree_of_mem_lines snippet shown]
      · simp +decide [noEscapes_cons, Piece.plain, escapeFree_append, recommendation]

theorem noEscapes_totals (s : Summary) : NoEscapes (totals s) := by
  have counts : EscapeFree (", ".intercalate (Severity.all.map fun v ↦
      (s.count v).repr ++ " " ++ Text.lowerAscii v.name)) := by
    refine escapeFree_intercalate (by decide) ?_
    intro t mem
    obtain ⟨v, -, rfl⟩ := List.mem_map.mp mem
    have name : EscapeFree (Text.lowerAscii v.name) := by cases v <;> decide
    simp +decide [escapeFree_append, escapeFree_repr, name]
  simp +decide [totals, noEscapes_cons, Piece.bold, Piece.plain, escapeFree_append,
    escapeFree_repr, counts, s.risk.escapeFree_name]

theorem noEscapes_hidden (total shown : Nat) (t : Severity) : NoEscapes (hidden total shown t) := by
  rw [hidden]
  split
  · simp +decide [noEscapes_cons, Piece.plain, escapeFree_append,
      escapeFree_repr, t.escapeFree_name]
  · exact noEscapes_nil

theorem noEscapes_warning (s : Summary) : NoEscapes (warning s) := by
  rw [warning]
  split <;> decide

end Report

theorem Analysis.noEscapes_report {a : Analysis} {t : Severity} {snippets : Bool}
    (h : ∀ s ∈ a.texts t snippets, Report.EscapeFree s) :
    Report.NoEscapes (a.report t snippets) := by
  rw [texts, List.forall_mem_cons, List.forall_mem_append] at h
  obtain ⟨language, framework, findings⟩ := h
  simp only [report, Report.listing, Report.noEscapes_append]
  refine ⟨⟨⟨⟨Report.noEscapes_header language framework, ?_, ?_⟩, Report.noEscapes_totals _⟩,
    Report.noEscapes_hidden _ _ _⟩, Report.noEscapes_warning _⟩
  · split <;> decide
  · intro l mem
    obtain ⟨f, shown, mem⟩ := List.mem_flatMap.mp mem
    have clean : ∀ s ∈ f.texts snippets, Report.EscapeFree s :=
      fun s mem ↦ findings s (List.mem_flatMap.mpr ⟨f, shown, mem⟩)
    exact Report.noEscapes_block clean l mem

theorem Contract.noEscapes_report {c : Contract} (h : ∀ s ∈ c.texts, Report.EscapeFree s) :
    Report.NoEscapes c.report := by
  obtain ⟨name, compiler, page⟩ :
      Report.EscapeFree c.name ∧ Report.EscapeFree c.compiler ∧ Report.EscapeFree c.page := by
    simpa [texts] using h
  have verified : Report.EscapeFree
      (if c.verified then (⟨.brightGreen, "verified"⟩ : Report.Piece)
        else ⟨.yellow, "unverified"⟩).text := by
    split <;> decide
  simp +decide [report, Report.noEscapes_cons, Report.Piece.bold, Report.Piece.plain,
    Report.escapeFree_append, Report.escapeFree_repr, name, compiler, page,
    c.network.escapeFree_title, verified]

theorem Rule.noEscapes_report (only : Option RuleSet) : Report.NoEscapes (Rule.report only) := by
  have headings : ∀ s : RuleSet, Report.EscapeFree s.label := by
    intro s
    cases s <;> decide
  have rules : ∀ r ∈ catalog, Report.EscapeFree r.id ∧ Report.EscapeFree r.description ∧
      ∀ s ∈ r.swc.toList ++ r.cwe.toList, Report.EscapeFree s := by decide +kernel
  intro l mem
  obtain ⟨s, -, mem⟩ := List.mem_flatMap.mp mem
  rcases List.mem_cons.mp mem with rfl | listed
  · simpa using headings s
  · obtain ⟨r, inside, rfl⟩ := List.mem_map.mp listed
    obtain ⟨id, description, ids⟩ := rules r (List.mem_of_mem_filter inside)
    simp +decide [entry, Severity.label, Report.Piece.plain, Report.escapeFree_append,
      Report.escapeFree_padded r.severity.escapeFree_name, Report.escapeFree_padded id, description,
      Report.escapeFree_entries ids]

theorem Network.noEscapes_report : Report.NoEscapes Network.report := by
  intro l mem
  obtain ⟨n, -, rfl⟩ := List.mem_map.mp mem
  have service : Report.EscapeFree n.service := by cases n <;> decide
  simp +decide [entry, Report.Piece.bold, Report.Piece.plain, Report.escapeFree_append,
    Report.escapeFree_padded n.escapeFree_title, Report.escapeFree_padded service,
    n.escapeFree_explorerPage]

theorem KnownContract.mem_all_of_mem_on {c : KnownContract} {network : Option Network}
    (h : c ∈ on network) : c ∈ all := by
  cases network with
  | none => exact h
  | some n => exact (List.mem_filter.mp h).1

theorem KnownContract.noEscapes_report (network : Option Network) :
    Report.NoEscapes (KnownContract.report network) := by
  have known : ∀ c ∈ all, Report.EscapeFree c.name ∧ Report.EscapeFree c.address ∧
      Report.EscapeFree c.description := by decide +kernel
  intro l mem
  obtain ⟨c, listed, mem⟩ := List.mem_flatMap.mp mem
  obtain ⟨name, address, description⟩ := known c (mem_all_of_mem_on listed)
  have marked : Report.EscapeFree (if c.popular then "* " else "  ") := by split <;> decide
  have both : Report.NoEscapes c.entry := by
    simp +decide [entry, page, Report.noEscapes_cons, Report.Piece.bold, Report.Piece.plain,
      Report.escapeFree_append, Report.escapeFree_padded name,
      Report.escapeFree_padded c.network.escapeFree_title, address, description, marked,
      c.network.escapeFree_explorerPage]
  exact both l mem

namespace Report

/-- With colours each report says what it says without, and in the same columns: deleting the
terminal sequences leaves the report without colours, whatever an analysis or a contract holds, if
no text of it that is reported has an escape character. -/
theorem unstyle_reports :
    (∀ (a : Analysis) (t : Severity) (snippets : Bool),
      (∀ s ∈ a.texts t snippets, EscapeFree s) →
      unstyle (render true (a.report t snippets)) = render false (a.report t snippets)) ∧
    (∀ c : Contract, (∀ s ∈ c.texts, EscapeFree s) →
      unstyle (render true c.report) = render false c.report) ∧
    (∀ only : Option RuleSet,
      unstyle (render true (Rule.report only)) = render false (Rule.report only)) ∧
    unstyle (render true Network.report) = render false Network.report ∧
    ∀ network : Option Network,
      unstyle (render true (KnownContract.report network)) =
        render false (KnownContract.report network) := by
  refine ⟨?_, ?_, ?_, ?_, ?_⟩
  · intro a t snippets h
    exact unstyle_render (Analysis.noEscapes_report h)
  · intro c h
    exact unstyle_render (Contract.noEscapes_report h)
  · intro only
    exact unstyle_render (Rule.noEscapes_report only)
  · exact unstyle_render Network.noEscapes_report
  · intro network
    exact unstyle_render (KnownContract.noEscapes_report network)

/-- An analysis with a finding that has neither line nor entries, and a contract without a name. -/
theorem unstyle_reports_seed :
    let seed : Finding := {
      weakness := "Seed", severity := .high, line := none, snippet := ">>> let seed = b\"§\";"
      description := "Weak seed", explanation := "", recommendation := "Use a random one"
      cwe := none, swc := none }
    let a : Analysis := {
      findings := [seed], context := ⟨.unknown, "rust", none⟩
      summary := Summary.ofFindings [seed], codeHash := "" }
    let c : Contract := {
      address := "0x0", source := "", name := "", compiler := "v0.8", network := .bsc
      verified := false, page := "p", abi := none, constructorArguments := none }
    (∀ s ∈ a.texts .high true, EscapeFree s) ∧ (∀ s ∈ c.texts, EscapeFree s) ∧
      unstyle (render true (a.report .high true)) = render false (a.report .high true) ∧
      unstyle (render true c.report) =
        "Contract:  (unverified)\n" ++
        "Network: Binance Smart Chain\n" ++
        "Compiler: v0.8\n" ++
        "Explorer: p\n" ++
        "Source: 0 lines\n" := by
  intro seed a c
  have analysis : ∀ s ∈ a.texts .high true, EscapeFree s := by decide +kernel
  have contract : ∀ s ∈ c.texts, EscapeFree s := by decide +kernel
  obtain ⟨ofAnalysis, ofContract, -, -, -⟩ := unstyle_reports
  exact ⟨analysis, contract, ofAnalysis a .high true analysis,
    (ofContract c contract).trans (by decide +kernel)⟩

/-- What looks like a sequence in a text of its own would go as well. -/
example : unstyle "a\x1b[0mb\x1b[1" = "ab\x1b[1" := by
  decide +kernel

end Report

end ContractScan
