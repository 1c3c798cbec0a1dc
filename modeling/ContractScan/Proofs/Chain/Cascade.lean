import ContractScan.Chain.Classify
import ContractScan.Proofs.Text.Mention

/-!
# The row of signs

The signs by which a source is classified stand in a row, and the first that is there decides
(`classify_eq_context`). Signs in a source are still there when text is added before or behind it,
so none that stands later in the row ever comes to decide (`classify_append`).
-/

namespace ContractScan

/-- The signs by which a source is classified, as they are looked for. -/
inductive Sign
  | solanaWords
  | bscHost
  | polygonHost
  | avalancheHost
  | bscWords
  | polygonWords
  | pragma
  /-- There is no other sign. -/
  | nothing
deriving DecidableEq, Repr

namespace Sign

/-- The place in the row, from 1 on. -/
def number : Sign → Nat
  | .solanaWords => 1
  | .bscHost => 2
  | .polygonHost => 3
  | .avalancheHost => 4
  | .bscWords => 5
  | .polygonWords => 6
  | .pragma => 7
  | .nothing => 8

/-- The signs in a row. -/
def all : List Sign := [.solanaWords, .bscHost, .polygonHost, .avalancheHost, .bscWords,
  .polygonWords, .pragma, .nothing]

/-- The sign is there, in the source or in the host that it comes from. -/
def isThere (source host : String) : Sign → Bool
  | .solanaWords =>
    Context.mentionsAny ["use anchor", "program!", "declare_id", "solana_program"] source
  | .bscHost => Context.mentionsAny ["bscscan.com", "bsc"] host
  | .polygonHost => Context.mentionsAny ["polygonscan.com", "polygon"] host
  | .avalancheHost => Context.mentionsAny ["snowtrace.io", "avalanche"] host
  | .bscWords => Context.mentionsAny ["pancakeswap", "bep-20", "bep20"] source
  | .polygonWords => Context.mentionsAny ["matic", "polygon"] source
  | .pragma => Text.mentions source "pragma solidity"
  | .nothing => true

/-- The first sign of the row that is there. -/
def deciding (source host : String) : Sign := (all.find? (isThere source host)).getD .nothing

/-- What a source is written for if the sign decides. -/
def context (source : String) : Sign → Context
  | .solanaWords =>
    ⟨.solana, "rust", some (if Text.mentions source "anchor" then "anchor" else "native")⟩
  | .bscHost | .bscWords => ⟨.bsc, "solidity", none⟩
  | .polygonHost | .polygonWords => ⟨.polygon, "solidity", none⟩
  | .avalancheHost => ⟨.avalanche, "solidity", none⟩
  | .pragma => ⟨.ethereum, "solidity", none⟩
  | .nothing => ⟨.ethereum, "unknown", none⟩

/-- The sign is one of the host. -/
def isOfHost : Sign → Bool
  | .bscHost | .polygonHost | .avalancheHost => true
  | _ => false

variable {source whole host : String} {g : Sign}

theorem find?_all (source host : String) :
    all.find? (isThere source host) = some (deciding source host) := by
  have found : (all.find? (isThere source host)).isSome = true :=
    List.find?_isSome.mpr ⟨.nothing, by decide, rfl⟩
  obtain ⟨g, first⟩ := Option.isSome_iff_exists.mp found
  rw [deciding, first, Option.getD_some]

/-- The sign that decides is there. -/
theorem isThere_deciding (source host : String) :
    (deciding source host).isThere source host = true :=
  List.find?_some (find?_all source host)

/-- No sign before the one that decides is there. -/
theorem number_deciding_le (there : g.isThere source host = true) :
    (deciding source host).number ≤ g.number := by
  obtain ⟨-, before, after, row, absent⟩ :=
    List.find?_eq_some_iff_append.mp (find?_all source host)
  have mem : g ∈ all := by cases g <;> decide
  have ascending : all.Pairwise fun g g' ↦ g.number ≤ g'.number := by decide
  rw [row] at mem ascending
  rcases List.mem_append.mp mem with early | late
  · exact absurd (absent g early) (by simp [there])
  · rcases List.mem_cons.mp late with rfl | later
    · exact Nat.le_refl _
    · exact (List.pairwise_cons.mp (List.pairwise_append.mp ascending).2.1).1 g later

/-- A sign of a part of a source is one of the source. -/
theorem isThere_of_isInfix (part : source.toList <:+: whole.toList)
    (there : g.isThere source host = true) : g.isThere whole host = true := by
  have any (ws : List String) (mentioned : Context.mentionsAny ws source = true) :
      Context.mentionsAny ws whole = true := by
    obtain ⟨w, mem, found⟩ := List.any_eq_true.mp mentioned
    exact List.any_eq_true.mpr ⟨w, mem, Text.mentions_of_isInfix part found⟩
  cases g with
  | solanaWords | bscWords | polygonWords => exact any _ there
  | pragma => exact Text.mentions_of_isInfix part there
  | bscHost | polygonHost | avalancheHost | nothing => exact there

theorem number_inj {g g' : Sign} : g.number = g'.number ↔ g = g' := by
  cases g <;> cases g' <;> simp [number]

theorem eq_solanaWords (first : g.number ≤ Sign.solanaWords.number) : g = .solanaWords := by
  cases g with
  | solanaWords => rfl
  | _ => exact absurd first (by decide)

/-- The signs of the host come directly after the words of Solana programs. -/
theorem isOfHost_iff :
    g.isOfHost = true ↔ g ≠ .solanaWords ∧ g.number ≤ Sign.avalancheHost.number := by
  cases g <;> decide

theorem isThere_of_isOfHost (ofHost : g.isOfHost = true) (source whole : String) :
    g.isThere whole host = g.isThere source host := by
  cases g with
  | bscHost | polygonHost | avalancheHost => rfl
  | _ => cases ofHost

/-- Only a program for Anchor has that framework. -/
theorem framework_context : (g.context source).framework = some "anchor" ↔
    g = .solanaWords ∧ Text.mentions source "anchor" = true := by
  cases g <;> simp [context]

/-- What the host tells does not depend on the source. -/
theorem context_of_isOfHost (ofHost : g.isOfHost = true) :
    g.context whole = g.context source := by
  cases g with
  | bscHost | polygonHost | avalancheHost => rfl
  | _ => cases ofHost

/-- Where the host decides, it does so whatever is added that is no word of Solana programs. -/
theorem deciding_of_isOfHost (part : source.toList <:+: whole.toList)
    (ofHost : (deciding source host).isOfHost = true)
    (noSolana : Context.ofSolanaWords? whole = none) :
    deciding whole host = deciding source host := by
  have no_later : (deciding whole host).number ≤ (deciding source host).number :=
    number_deciding_le (isThere_of_isInfix part (isThere_deciding source host))
  have there := isThere_deciding whole host
  have other : deciding whole host ≠ .solanaWords := by
    intro first
    rw [first, isThere] at there
    rw [Context.ofSolanaWords?, if_pos there] at noSolana
    cases noSolana
  have ofHost' : (deciding whole host).isOfHost = true :=
    isOfHost_iff.mpr ⟨other, Nat.le_trans no_later (isOfHost_iff.mp ofHost).2⟩
  rw [isThere_of_isOfHost ofHost' source whole] at there
  exact number_inj.mp (Nat.le_antisymm no_later (number_deciding_le there))

end Sign

/-- The first sign of the row decides what a source is written for. -/
theorem classify_eq_context (source : String) (origin : Option String) :
    classify source origin =
      (Sign.deciding source (Context.originHost (origin.getD ""))).context source := by
  simp only [classify, Sign.deciding, Sign.all, Context.ofSolanaWords?, Context.ofHost?,
    Context.ofChainWords?, Context.fallback, List.find?_cons, Sign.isThere]
  -- on both sides the same signs are looked for, one after the other
  split_ifs <;> simp_all [Sign.context, Context.plain]

/-- Text that is added to a source before or behind it never makes a sign decide that stands later
in the row. What is a program for Anchor stays one, and where the host decides only words of Solana
programs can change anything. -/
theorem classify_append (before source after : String) (origin : Option String) :
    let whole := before ++ source ++ after
    let host := Context.originHost (origin.getD "")
    let sign := Sign.deciding source host
    let sign' := Sign.deciding whole host
    classify source origin = sign.context source ∧ classify whole origin = sign'.context whole ∧
      sign'.number ≤ sign.number ∧
      ((classify source origin).framework = some "anchor" →
        classify whole origin = ⟨.solana, "rust", some "anchor"⟩) ∧
      (sign.isOfHost = true → Context.ofSolanaWords? whole = none →
        classify whole origin = classify source origin) := by
  intro whole host sign sign'
  have part : source.toList <:+: whole.toList := by
    rw [String.toList_append, String.toList_append]
    exact List.infix_append ..
  have told : classify source origin = sign.context source := classify_eq_context source origin
  have told' : classify whole origin = sign'.context whole := classify_eq_context whole origin
  have no_later : sign'.number ≤ sign.number :=
    Sign.number_deciding_le (Sign.isThere_of_isInfix part (Sign.isThere_deciding source host))
  refine ⟨told, told', no_later, ?_, ?_⟩
  · intro anchor
    rw [told, Sign.framework_context] at anchor
    obtain ⟨first, mentioned⟩ := anchor
    have first' : sign' = .solanaWords := by
      rw [first] at no_later
      exact Sign.eq_solanaWords no_later
    rw [told', first', Sign.context, if_pos (Text.mentions_of_isInfix part mentioned)]
  · intro ofHost noSolana
    have same : sign' = sign := Sign.deciding_of_isOfHost part ofHost noSolana
    rw [told, told', same]
    exact Sign.context_of_isOfHost ofHost

/-- A comment on another chain does not count against the host, and none makes a program one without
Anchor. -/
theorem classify_append_comment :
    let contract := "contract Router {}"
    let commented := "pragma solidity ^0.8.0; " ++ contract ++ " // as on PancakeSwap"
    let program := "use anchor_lang::prelude::*;"
    let page := some "polygonscan.com"
    (Sign.deciding contract (Context.originHost "polygonscan.com")).isOfHost = true ∧
      Context.ofSolanaWords? commented = none ∧
      classify commented page = classify contract page ∧
      classify commented none = ⟨.bsc, "solidity", none⟩ ∧
      (classify program page).framework = some "anchor" ∧
      classify ("// native" ++ program ++ commented) page = ⟨.solana, "rust", some "anchor"⟩ := by
  intro contract commented program page
  have ofHost :
      (Sign.deciding contract (Context.originHost "polygonscan.com")).isOfHost = true := by
    decide +kernel
  have noSolana : Context.ofSolanaWords? commented = none := by decide +kernel
  have anchor : (classify program page).framework = some "anchor" := by decide +kernel
  obtain ⟨-, -, -, -, kept⟩ :=
    classify_append "pragma solidity ^0.8.0; " contract " // as on PancakeSwap" page
  obtain ⟨-, -, -, stays, -⟩ := classify_append "// native" program commented page
  exact ⟨ofHost, noSolana, kept ofHost noSolana, by decide +kernel, anchor, stays anchor⟩

end ContractScan
