import ContractScan.Chain.Basic
import ContractScan.Text.Blank
import ContractScan.Text.LetterCase
import ContractScan.Url.Basic

/-!
# Classifying a source

The chain, language and framework of a source are told from words in it and from where it comes.
The first of an ordered row of signs decides: Solana words in the source, the host of the origin,
chain words in the source, a version pragma. Without any sign the chain is Ethereum and the
language unknown.
-/

namespace ContractScan

/-- What a source is written for. -/
structure Context where
  chain : Chain
  language : String
  framework : Option String
deriving DecidableEq, Repr

namespace Context

/-- The text holds one of the words, in any ASCII letter case. -/
def mentionsAny (words : List String) (s : String) : Bool :=
  words.any (Text.mentions s)

/-- A chain without a framework. -/
def plain (chain : Chain) (language : String) : Context := ⟨chain, language, none⟩

/-- The host of the origin if that is an absolute URL with a host, and otherwise all of it. -/
def originHost (origin : String) : String :=
  match (Url.parse? (Text.trimmed origin.toList)).bind Url.host with
  | some h => String.ofList h.render
  | none => origin

/-- What the words of Solana programs tell. -/
def ofSolanaWords? (source : String) : Option Context :=
  if mentionsAny ["use anchor", "program!", "declare_id", "solana_program"] source then
    some ⟨.solana, "rust", some (if Text.mentions source "anchor" then "anchor" else "native")⟩
  else none

/-- What the host of the origin tells. -/
def ofHost? (host : String) : Option Context :=
  if mentionsAny ["bscscan.com", "bsc"] host then some (plain .bsc "solidity")
  else if mentionsAny ["polygonscan.com", "polygon"] host then some (plain .polygon "solidity")
  else if mentionsAny ["snowtrace.io", "avalanche"] host then some (plain .avalanche "solidity")
  else none

/-- What chain words in the source tell. -/
def ofChainWords? (source : String) : Option Context :=
  if mentionsAny ["pancakeswap", "bep-20", "bep20"] source then some (plain .bsc "solidity")
  else if mentionsAny ["matic", "polygon"] source then some (plain .polygon "solidity")
  else none

/-- What is left: Ethereum, with a language if there is a version pragma. -/
def fallback (source : String) : Context :=
  plain .ethereum (if Text.mentions source "pragma solidity" then "solidity" else "unknown")

end Context

/-- What the source, which comes from `origin`, is written for. -/
def classify (source : String) (origin : Option String) : Context :=
  ((Context.ofSolanaWords? source).or
    ((Context.ofHost? (Context.originHost (origin.getD ""))).or
      (Context.ofChainWords? source))).getD (Context.fallback source)

end ContractScan
