import ContractScan.Chain.Classify
import ContractScan.Proofs.Network.Address
import ContractScan.Proofs.Text.Mention

/-!
# Sources that come from a page of an explorer

The page of an explorer is read twice: for the network to ask, by a table of hosts, and for the
chain of the source, by words in the host. Both readings agree wherever the first has an answer
(`classify_of_ofPage?`), since a host of the table with any `www.` in front mentions just the words
that the host itself does (`Context.ofHost?_of_ofExplorerHost?`).
-/

namespace ContractScan

/-- No word that begins with neither `w` nor a point reaches into a `www.` in front. -/
theorem Text.hasInfix_withoutWww {c : Char} (other : c ≠ 'w' ∧ c ≠ '.') (w s : List Char) :
    hasInfix (c :: w) (Network.withoutWww s) = hasInfix (c :: w) s := by
  fun_induction Network.withoutWww s with
  | case1 s ih =>
    have starts : (c == 'w') = false ∧ (c == '.') = false := by simpa using other
    simp only [hasInfix, List.isPrefixOf, starts, Bool.false_and, Bool.false_or, ih]
  | case2 => rfl

namespace Network

/-- The chain, if any, that is told from the hosts of the network's explorers. -/
def hostChain? : Network → Option Chain
  | .bsc => some .bsc
  | .polygon => some .polygon
  | .avalanche => some .avalanche
  | .ethereum | .solana => none

/-- The host of a page is one that the table of hosts gives to the network. -/
theorem exists_host_of_ofPage? {u a : String} {n : Network} (page : ofPage? u = some (a, n)) :
    ∃ host, (Url.parse? (Text.trimmed u.toList)).bind Url.host = some host ∧
      ofExplorerHost? host.render = some n := by
  obtain ⟨url, -, read, -, ⟨host, there, known⟩, -⟩ := exists_of_ofPage? page
  exact ⟨host, by rw [read, Option.bind_some, there], known⟩

/-- A host of the table mentions a word just when its entry does. -/
theorem exists_entry_of_ofExplorerHost? {host : List Char} {n : Network}
    (known : ofExplorerHost? host = some n) :
    ∃ entry ∈ n.explorerHosts, ∀ (c : Char) (w : List Char), c ≠ 'w' ∧ c ≠ '.' →
      Text.mentions (String.ofList host) (String.ofList (c :: w)) =
        Text.mentions entry (String.ofList (c :: w)) := by
  have lower : ∀ n ∈ all, ∀ entry ∈ n.explorerHosts,
      entry.toList.map Char.toLower = entry.toList := by decide +kernel
  have listed : n ∈ all := by cases n <;> decide
  have mem := List.find?_some known
  rw [List.contains_iff_mem] at mem
  refine ⟨_, mem, fun c w other ↦ ?_⟩
  rw [Text.mentions, Text.mentions, lower n listed _ mem]
  simp only [String.toList_ofList]
  exact (Text.hasInfix_withoutWww other w _).symm

end Network

/-- The words in a host of an explorer tell the chain of the explorer's network, where there is one
that they can tell. -/
theorem Context.ofHost?_of_ofExplorerHost? {host : List Char} {n : Network}
    (known : Network.ofExplorerHost? host = some n) :
    ofHost? (String.ofList host) = n.hostChain?.map fun chain ↦ plain chain "solidity" := by
  obtain ⟨entry, mem, same⟩ := Network.exists_entry_of_ofExplorerHost? known
  have words : ∀ w ∈ ["bscscan.com", "bsc", "polygonscan.com", "polygon", "snowtrace.io",
      "avalanche"], Text.mentions (String.ofList host) w = Text.mentions entry w := by
    simp only [List.forall_mem_cons]
    exact ⟨same 'b' _ (by decide), same 'b' _ (by decide), same 'p' _ (by decide),
      same 'p' _ (by decide), same 's' _ (by decide), same 'a' _ (by decide), by simp⟩
  simp only [List.forall_mem_cons] at words
  have entries : ∀ n ∈ Network.all, ∀ entry ∈ n.explorerHosts,
      ofHost? entry = n.hostChain?.map fun chain ↦ plain chain "solidity" := by decide +kernel
  rw [← entries n (by cases n <;> decide) entry mem]
  simp only [ofHost?, mentionsAny, List.any_cons, List.any_nil, words]
  rfl

/-- Of an origin that is the page of an explorer the classification sees the host, and of the host
the chain that it tells. -/
theorem Context.ofHost?_originHost {u a : String} {n : Network}
    (page : Network.ofPage? u = some (a, n)) :
    ofHost? (originHost u) = n.hostChain?.map fun chain ↦ plain chain "solidity" := by
  obtain ⟨host, read, known⟩ := Network.exists_host_of_ofPage? page
  rw [originHost, read]
  exact ofHost?_of_ofExplorerHost? known

/-- Without Solana words and without an origin only chain words and a pragma are left. -/
theorem classify_none {source : String} (noSolana : Context.ofSolanaWords? source = none) :
    classify source none = (Context.ofChainWords? source).getD (Context.fallback source) := by
  have nowhere : Context.ofHost? (Context.originHost "") = none := by decide +kernel
  rw [classify, noSolana, Option.none_or, Option.getD_none, nowhere, Option.none_or]

/-- Neither chain words nor a pragma tell of Avalanche. -/
theorem chain_classify_none_ne_avalanche {source : String}
    (noSolana : Context.ofSolanaWords? source = none) :
    (classify source none).chain ≠ .avalanche := by
  have words : ∀ c ∈ Context.ofChainWords? source, c.chain ≠ .avalanche := by
    intro c mem
    rw [Context.ofChainWords?] at mem
    split_ifs at mem <;> cases mem <;> decide
  rw [classify_none noSolana]
  cases told : Context.ofChainWords? source with
  | some c => exact words c told
  | none => exact Chain.noConfusion

/-- A source that comes from a page of an explorer, and has no words of Solana programs, is one for
the explorer's chain where hosts tell it, whatever other chains the source speaks of. From any other
explorer it is what it would be without an origin, and never one for Avalanche. -/
theorem classify_of_ofPage? {u a source : String} {n : Network}
    (page : Network.ofPage? u = some (a, n)) (noSolana : Context.ofSolanaWords? source = none) :
    (∀ chain ∈ n.hostChain?, classify source (some u) = ⟨chain, "solidity", none⟩) ∧
      (n.hostChain? = none → classify source (some u) = classify source none ∧
        (classify source (some u)).chain ≠ .avalanche) := by
  have told : classify source (some u) =
      ((n.hostChain?.map fun chain ↦ Context.plain chain "solidity").or
        (Context.ofChainWords? source)).getD (Context.fallback source) := by
    rw [classify, noSolana, Option.none_or, Option.getD_some, Context.ofHost?_originHost page]
  constructor
  · intro chain named
    rw [told, named, Option.map_some, Option.some_or, Option.getD_some]
    rfl
  · intro unnamed
    have same : classify source (some u) = classify source none := by
      rw [told, unnamed, Option.map_none, Option.none_or, classify_none noSolana]
    refine ⟨same, ?_⟩
    rw [same]
    exact chain_classify_none_ne_avalanche noSolana

/-- A page on Polygon's explorer whose path and query speak of other chains, as the source does. -/
theorem classify_of_ofPage?_polygon :
    let page := "https://www.polygonscan.com/bsc/avalanche/address/0x1?at=snowtrace.io"
    let source := "contract Router { /* PancakeSwap */ }"
    Network.ofPage? page = some ("0x1", .polygon) ∧ Context.ofSolanaWords? source = none ∧
      classify source (some page) = ⟨.polygon, "solidity", none⟩ ∧
      classify source none = ⟨.bsc, "solidity", none⟩ := by
  intro page source
  let parts : Url.Page := {
    scheme := "https".toList
    host := "www.polygonscan.com".toList
    path := ["bsc".toList, "avalanche".toList] ++ ["address".toList, "0x1".toList]
    web := .inr rfl
    plain := by decide +kernel
    ne_nil := List.cons_ne_nil _ _
    alphanum := by decide }
  have read : Network.ofPage? page = some ("0x1", .polygon) :=
    Network.ofPage?_text (t := "?at=snowtrace.io".toList) parts (by decide +kernel) rfl (by decide)
      (by decide) (by decide) (by simp [Url.endsPath])
  have noSolana : Context.ofSolanaWords? source = none := by decide +kernel
  obtain ⟨named, -⟩ := classify_of_ofPage? read noSolana
  exact ⟨read, noSolana, named .polygon rfl, by decide +kernel⟩

end ContractScan
