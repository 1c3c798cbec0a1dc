import ContractScan.Chain.Classify

/-!
# The words that classify a source

Of a source only the words it mentions decide about its chain, and only those of a short list.
-/

namespace ContractScan

/-- The words that are looked for in sources. -/
def Context.words : List String := [
  "use anchor", "program!", "declare_id", "solana_program", "anchor", "pancakeswap", "bep-20",
  "bep20", "matic", "polygon", "pragma solidity"]

/-- Sources that mention the same of these words are classified alike. -/
theorem classify_congr {source source' : String}
    (h : ∀ w ∈ Context.words, Text.mentions source w = Text.mentions source' w)
    (origin : Option String) : classify source origin = classify source' origin := by
  have any (ws : List String) (known : ∀ w ∈ ws, w ∈ Context.words) :
      Context.mentionsAny ws source = Context.mentionsAny ws source' := by
    rw [Context.mentionsAny, Context.mentionsAny, Bool.eq_iff_iff, List.any_eq_true,
      List.any_eq_true]
    constructor
    · rintro ⟨w, mem, found⟩
      exact ⟨w, mem, h w (known w mem) ▸ found⟩
    · rintro ⟨w, mem, found⟩
      exact ⟨w, mem, (h w (known w mem)).symm ▸ found⟩
  rw [classify, classify, Context.ofSolanaWords?, Context.ofSolanaWords?, Context.ofChainWords?,
    Context.ofChainWords?, Context.fallback, Context.fallback, any _ (by decide),
    any _ (by decide), any _ (by decide), h "anchor" (by decide), h "pragma solidity" (by decide)]

end ContractScan
