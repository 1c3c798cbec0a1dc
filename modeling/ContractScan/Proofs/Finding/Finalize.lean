import ContractScan.Proofs.Finding.Distinct
import ContractScan.Proofs.Finding.Gravity

/-!
# Finalizing along the way

A list of findings may be finalized at any time while it grows: a last `Finding.finalize` gives
what it gives for all that was added. Sorting a part first changes neither which finding of a key
is kept nor the order within a severity.
-/

namespace ContractScan.Finding

/-- The kept findings, grouped by severity. -/
theorem finalize_eq (raw : List Finding) :
    finalize raw = Severity.grouped severity (distinct [] raw) :=
  Severity.mergeSort_rank severity (distinct [] raw)

/-- Finalizing keeps the first finding of each key. -/
theorem finalize_perm (raw : List Finding) : (finalize raw).Perm (distinct [] raw) :=
  List.mergeSort_perm _ _

/-- A finalized list has each key once. -/
theorem nodup_map_key_finalize (raw : List Finding) : ((finalize raw).map key).Nodup :=
  ((finalize_perm raw).map key).nodup_iff.mpr (nodup_map_key_distinct [] raw)

/-- Finalizing loses no key. -/
theorem mem_map_key_finalize (raw : List Finding) (k : Key) :
    k ∈ (finalize raw).map key ↔ k ∈ raw.map key := by
  rw [((finalize_perm raw).map key).mem_iff, mem_map_key_distinct]
  simp

/-- A finalized list is in order of gravity. -/
theorem pairwise_finalize (raw : List Finding) :
    (finalize raw).Pairwise fun f g ↦ f.severity.rank ≤ g.severity.rank := by
  have ordered := Severity.pairwise_grouped severity (l := distinct [] raw)
    (R := fun _ _ ↦ True) (List.pairwise_of_forall fun _ _ ↦ trivial)
  rw [finalize_eq]
  apply ordered.imp
  intro f g order
  omega

/-- In a finalized list every finding is the first of its key. -/
theorem distinct_finalize (raw : List Finding) : distinct [] (finalize raw) = finalize raw := by
  apply distinct_of_nodup (nodup_map_key_finalize raw)
  intro f _
  exact List.not_mem_nil

/-- What comes first may be finalized before. -/
theorem finalize_finalize_append (a b : List Finding) :
    finalize (finalize a ++ b) = finalize (a ++ b) := by
  have keys : distinct ((finalize a).map key ++ []) b = distinct (a.map key ++ []) b := by
    apply distinct_congr
    intro k
    rw [List.append_nil, List.append_nil, mem_map_key_finalize]
  calc finalize (finalize a ++ b)
      = Severity.grouped severity (finalize a ++ distinct (a.map key ++ []) b) := by
        rw [finalize_eq, distinct_append, distinct_finalize, keys]
    _ = Severity.grouped severity (distinct [] a ++ distinct (a.map key ++ []) b) := by
        rw [finalize_eq a, Severity.grouped_grouped_append]
    _ = finalize (a ++ b) := by rw [finalize_eq, distinct_append]

/-- What comes later may be finalized before. -/
theorem finalize_append_finalize (a b : List Finding) :
    finalize (a ++ finalize b) = finalize (a ++ b) := by
  have later : distinct (a.map key ++ []) (finalize b) =
      Severity.grouped severity (distinct (a.map key ++ []) b) := by
    rw [distinct_append_seen, distinct_append_seen, distinct_finalize, finalize_eq,
      Severity.filter_grouped_comm]
  rw [finalize_eq, distinct_append, later, Severity.grouped_append_grouped, ← distinct_append,
    ← finalize_eq]

/-- What may be done with a list of findings while it grows. -/
inductive Step
  /-- Findings are added at the end. -/
  | add (fs : List Finding)
  /-- The list is replaced by what would be reported of it. -/
  | finalize
deriving DecidableEq, Repr

namespace Step

/-- The list after the step. -/
def apply (fs : List Finding) : Step → List Finding
  | .add new => fs ++ new
  | .finalize => Finding.finalize fs

/-- The findings that the step adds. -/
def added : Step → List Finding
  | .add new => new
  | .finalize => []

/-- One step does not change what a last finalizing gives, whatever is added after it. -/
theorem finalize_apply (fs more : List Finding) (s : Step) :
    Finding.finalize (s.apply fs ++ more) = Finding.finalize (fs ++ s.added ++ more) := by
  cases s with
  | add new => rfl
  | finalize => rw [apply, added, List.append_nil, finalize_finalize_append]

end Step

/-- However a list grows and is finalized on the way, a last finalizing gives what it gives for
all that was added; so it may be done before or after a part is added, and a second time. -/
theorem finalize_run :
    (∀ (start : List Finding) (steps : List Step),
      finalize (steps.foldl Step.apply start) = finalize (start ++ steps.flatMap Step.added)) ∧
    (∀ a b : List Finding, finalize (finalize a ++ b) = finalize (a ++ b) ∧
      finalize (a ++ b) = finalize (a ++ finalize b)) ∧
    ∀ a : List Finding, finalize (finalize a) = finalize a := by
  refine ⟨?_, ?_, ?_⟩
  · intro start steps
    induction steps generalizing start with
    | nil => rw [List.foldl_nil, List.flatMap_nil, List.append_nil]
    | cons s steps ih =>
      rw [List.foldl_cons, ih, Step.finalize_apply, List.flatMap_cons, List.append_assoc]
  · intro a b
    exact ⟨finalize_finalize_append a b, (finalize_append_finalize a b).symm⟩
  · intro a
    have alone := finalize_finalize_append a []
    rwa [List.append_nil, List.append_nil] at alone

end ContractScan.Finding
