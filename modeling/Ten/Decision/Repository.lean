import Mathlib.Data.Prod.Lex
import Mathlib.Data.String.Basic
import Ten.Data.Merge
import Ten.Decision.Models

namespace Ten.Decision

open Data

/-! # Stored decisions

Both repositories hold one decision for each fingerprint and mode.  They order
decisions of one boundary by their identifiers: in memory by their text, and in the
database by their value. -/

inductive DecisionRepositoryKind where
  | inMemory | sqlAlchemy
deriving DecidableEq

structure SignalDecisionRepository where
  host : Host
  kind : DecisionRepositoryKind

def SignalDecision.storedKey (decision : SignalDecision) : String × DecisionMode :=
  (decision.inputFingerprint, decision.mode)

structure DecisionStore where
  decisions : List SignalDecision
  distinct : (decisions.map (·.storedKey)).Nodup

namespace DecisionStore

variable (store : DecisionStore)

def empty : DecisionStore := ⟨[], List.nodup_nil⟩

def findByFingerprint (fingerprint : String) (mode : DecisionMode) : Option SignalDecision :=
  store.decisions.find? fun decision => decision.storedKey = (fingerprint, mode)

/-- `save_decision`: the stored decision of the fingerprint where there is one. -/
def saveDecision (decision : SignalDecision) : SignalDecision × DecisionStore :=
  match absent : store.findByFingerprint decision.inputFingerprint decision.mode with
  | some existing => (existing, store)
  | none =>
      (decision, ⟨store.decisions ++ [decision], by
        rw [List.map_append, List.nodup_append]
        refine ⟨store.distinct, List.nodup_singleton _, ?_⟩
        intro key present other isOther
        obtain ⟨held, listed, rfl⟩ := List.mem_map.mp present
        rw [List.map_singleton, List.mem_singleton] at isOther
        rw [isOther]
        have unlike := List.find?_eq_none.mp absent held listed
        simpa [SignalDecision.storedKey] using unlike⟩)

def ofMode (mode : DecisionMode) : DecisionStore where
  decisions := store.decisions.filter (·.mode = mode)
  distinct := store.distinct.sublist (List.filter_sublist.map _)

end DecisionStore

namespace SignalDecisionRepository

variable (repository : SignalDecisionRepository)

def newestFirst (decisions : List SignalDecision) : List SignalDecision :=
  match repository.kind with
  | .inMemory => sortByKey (fun decision => OrderDual.toDual
      (toLex (decision.asOf, repository.host.uuidText decision.decisionId))) decisions
  | .sqlAlchemy => sortByKey (fun decision => OrderDual.toDual
      (toLex (decision.asOf, decision.decisionId.value))) decisions

def earlierDecisions (store : DecisionStore) (instrument : String)
    (timeframe : DecisionTimeframe) (boundary : Timestamp) : List SignalDecision :=
  repository.newestFirst (store.decisions.filter fun decision =>
    decision.instrument = instrument ∧ decision.timeframe = timeframe ∧ decision.asOf ≤ boundary)

def findRecentDecisions (store : DecisionStore) (instrument : String)
    (timeframe : DecisionTimeframe) (boundary : Timestamp) (limit : Nat) : List SignalDecision :=
  (repository.earlierDecisions store instrument timeframe boundary).take limit

theorem newestFirst_filter (kept : SignalDecision → Bool) (decisions : List SignalDecision) :
    repository.newestFirst (decisions.filter kept) =
      (repository.newestFirst decisions).filter kept := by
  unfold newestFirst
  cases repository.kind with
  | inMemory => exact (filter_sortByKey kept decisions).symm
  | sqlAlchemy => exact (filter_sortByKey kept decisions).symm

@[simp] theorem mem_newestFirst {decisions : List SignalDecision} {decision : SignalDecision} :
    decision ∈ repository.newestFirst decisions ↔ decision ∈ decisions := by
  unfold newestFirst
  cases repository.kind with
  | inMemory => exact mem_sortByKey
  | sqlAlchemy => exact mem_sortByKey

theorem earlierDecisions_ofMode (store : DecisionStore) (mode : DecisionMode)
    (instrument : String) (timeframe : DecisionTimeframe) (boundary : Timestamp) :
    repository.earlierDecisions (store.ofMode mode) instrument timeframe boundary =
      (repository.earlierDecisions store instrument timeframe boundary).filter (·.mode = mode) := by
  unfold earlierDecisions DecisionStore.ofMode
  rw [← newestFirst_filter, List.filter_filter, List.filter_filter]
  congr 1
  refine List.filter_congr fun decision _ => ?_
  rw [Bool.and_comm]

end SignalDecisionRepository

namespace DecisionStore

variable (store : DecisionStore)

theorem findByFingerprint_ofMode (fingerprint : String) (mode : DecisionMode) :
    (store.ofMode mode).findByFingerprint fingerprint mode =
      store.findByFingerprint fingerprint mode := by
  unfold findByFingerprint ofMode
  rw [List.find?_filter]
  congr 1
  funext decision
  simp only [SignalDecision.storedKey, Prod.mk.injEq]
  grind

end DecisionStore

end Ten.Decision
