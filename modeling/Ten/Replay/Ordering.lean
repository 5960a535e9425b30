import Ten.Data.Merge
import Ten.Replay.Models

namespace Ten.Replay

open Data

/-! # The order of a replay

What a run reads: its sources merged and grouped by timestamp, up to the end of the
sources or up to an exception. -/

/-- Groups of events, and the exception that reading on raises. -/
structure GroupStream where
  groups : List (List HistoricalEvent)
  ending : Option PythonException

def MergeFailure.raised : MergeFailure → PythonException
  | .regressed => replayError "ReplayOrderingError" "historical source ordering regressed"
  | .unordered => replayError "ReplayOrderingError" "historical source is not internally ordered"

def mergeEventSources (host : ReplayHost) (sources : List (List HistoricalEvent)) :
    List HistoricalEvent × Option PythonException :=
  let merged := merge (·.orderingKey host) (·.replayEventId host) sources
  (merged.1, merged.2.map MergeFailure.raised)

def groupTooLarge : PythonException :=
  replayError "ReplayOrderingError" "timestamp group exceeds configured limit"

/-- `timestamp_groups` with a group that is open already.  A group is yielded when the first
event of another moment arrives, and the last one when the events are exhausted. -/
def groupsFrom (limit : Nat) (ending : Option PythonException) :
    List HistoricalEvent → List HistoricalEvent → GroupStream
  | [], group => ⟨if ending = none ∧ group ≠ [] then [group] else [], ending⟩
  | event :: rest, group =>
      let closes := group.getLast?.any fun last => last.availableAt ≠ event.availableAt
      let grown := if closes then [event] else group ++ [event]
      let later := if limit < grown.length then ⟨[], some groupTooLarge⟩
        else groupsFrom limit ending rest grown
      if closes then { later with groups := group :: later.groups } else later

def timestampGroups (limit : Nat) (events : List HistoricalEvent × Option PythonException) :
    GroupStream :=
  groupsFrom limit events.2 events.1 []

def groupStream (host : ReplayHost) (limit : Nat) (sources : List (List HistoricalEvent)) :
    GroupStream :=
  timestampGroups limit (mergeEventSources host sources)

end Ten.Replay
