import Mathlib.Algebra.Order.Field.Rat
import Mathlib.Data.Prod.Lex
import Ten.Data.Merge
import Ten.Data.Table
import Ten.Runtime

namespace Ten.Integration

open Data

/-! # The integration outbox

The two repositories of outbox items, each call as one atomic step.  What an envelope holds
is left open. -/

structure OutboxItem (Envelope : Type) where
  outboxId : Uuid
  envelope : Envelope
  availableAt : Timestamp
  attempts : Nat := 0
  publishedAt : Option Timestamp := none
  lastErrorCode : Option String := none
deriving DecidableEq

variable {Envelope : Type}

def OutboxItem.place (item : OutboxItem Envelope) : Timestamp ×ₗ Nat :=
  toLex (item.availableAt, item.outboxId.value)

def SameItem (item other : OutboxItem Envelope) : Prop := item.outboxId = other.outboxId

instance : DecidableRel (@SameItem Envelope) :=
  fun item other => inferInstanceAs (Decidable (item.outboxId = other.outboxId))

def leaseDuration : Int := Timestamp.seconds 900

/-- `min(2 ** min(attempts, 8), 300)`. -/
def delaySeconds (attempts : Nat) : Nat := min (2 ^ min attempts 8) 300

namespace OutboxItem

variable (item : OutboxItem Envelope)

def published (now : Timestamp) : OutboxItem Envelope := { item with publishedAt := some now }

def failed (code : String) (wall : Timestamp) : OutboxItem Envelope :=
  { item with
    attempts := item.attempts + 1
    lastErrorCode := some code
    availableAt := wall + Timestamp.seconds (delaySeconds item.attempts) }

@[simp] theorem published_outboxId (now : Timestamp) :
    (item.published now).outboxId = item.outboxId := rfl

@[simp] theorem failed_outboxId (code : String) (wall : Timestamp) :
    (item.failed code wall).outboxId = item.outboxId := rfl

end OutboxItem

/-- The calls of the workers.  A worker is named by the identity of its repository. -/
inductive OutboxCall where
  | pending (worker : String) (now : Timestamp) (limit : Nat)
  | complete (worker : String) (outboxId : Uuid) (now : Timestamp)
  | fail (worker : String) (outboxId : Uuid) (code : String) (wall : Timestamp)

abbrev OutboxReply (Envelope : Type) := Except PythonException (List (OutboxItem Envelope))

/-! ## In memory -/

structure InMemoryOutbox (Envelope : Type) where
  items : Table (@SameItem Envelope)
  leases : Uuid → Option Timestamp

namespace InMemoryOutbox

variable (outbox : InMemoryOutbox Envelope)

def start (items : Table (@SameItem Envelope)) : InMemoryOutbox Envelope :=
  ⟨items, fun _ => none⟩

def claimed (now : Timestamp) (limit : Nat) : List (OutboxItem Envelope) :=
  (sortByKey OutboxItem.place (outbox.items.rows.filter fun item =>
    item.publishedAt = none ∧ item.availableAt ≤ now ∧
      (outbox.leases item.outboxId).getD now ≤ now)).take limit

def pending (now : Timestamp) (limit : Nat) : InMemoryOutbox Envelope :=
  { outbox with
    leases := fun id =>
      if (outbox.claimed now limit).any (·.outboxId = id) then some (now + leaseDuration)
      else outbox.leases id }

def settle (outboxId : Uuid) (change : OutboxItem Envelope → OutboxItem Envelope)
    (keeps : Table.KeepsIndexes SameItem change) : OutboxReply Envelope × InMemoryOutbox Envelope :=
  match outbox.items.find (·.outboxId = outboxId) with
  | none => (.error ⟨"KeyError", "outbox_id"⟩, outbox)
  | some _ =>
      (.ok [], { items := outbox.items.update (·.outboxId = outboxId) change keeps
                 leases := fun id => if id = outboxId then none else outbox.leases id })

def call : OutboxCall → OutboxReply Envelope × InMemoryOutbox Envelope
  | .pending _ now limit => (.ok (outbox.claimed now limit), outbox.pending now limit)
  | .complete _ outboxId now => outbox.settle outboxId (·.published now) fun _ _ => ⟨.rfl, .rfl⟩
  | .fail _ outboxId code wall => outbox.settle outboxId (·.failed code wall) fun _ _ => ⟨.rfl, .rfl⟩

end InMemoryOutbox

/-! ## In the database -/

structure OutboxRow (Envelope : Type) extends OutboxItem Envelope where
  claimedBy : Option String := none
  leaseExpiresAt : Option Timestamp := none

def SameRow (row other : OutboxRow Envelope) : Prop := row.outboxId = other.outboxId

structure SqlOutbox (Envelope : Type) where
  rows : Table (@SameRow Envelope)

namespace SqlOutbox

variable (outbox : SqlOutbox Envelope)

def start (items : Table (@SameItem Envelope)) : SqlOutbox Envelope where
  rows :=
    { rows := items.rows.map fun item => { toOutboxItem := item }
      consistent := List.pairwise_map.mpr items.consistent }

def claimedIds (now : Timestamp) (limit : Nat) : List Uuid :=
  ((sortByKey (fun row : OutboxRow Envelope => row.place) (outbox.rows.rows.filter fun row =>
    row.publishedAt = none ∧ row.availableAt ≤ now ∧ row.leaseExpiresAt.all (· ≤ now))).take
      limit).map (·.outboxId)

def claim (worker : String) (now : Timestamp) (limit : Nat) : SqlOutbox Envelope where
  rows := outbox.rows.update (fun row => (outbox.claimedIds now limit).contains row.outboxId)
    (fun row => { row with claimedBy := some worker, leaseExpiresAt := some (now + leaseDuration) })
    fun _ _ => ⟨.rfl, .rfl⟩

def reread (ids : List Uuid) : List (OutboxItem Envelope) :=
  (sortByKey (fun row : OutboxRow Envelope => row.place)
    (outbox.rows.rows.filter fun row => ids.contains row.outboxId)).map (·.toOutboxItem)

/-- `UPDATE .. WHERE outbox_id = .. AND claimed_by = ..`, which gives the item up. -/
def settle (worker : String) (outboxId : Uuid) (change : OutboxItem Envelope → OutboxItem Envelope)
    (keeps : ∀ item, (change item).outboxId = item.outboxId) : SqlOutbox Envelope where
  rows := outbox.rows.update
    (fun row => row.outboxId = outboxId ∧ row.claimedBy = some worker)
    (fun row => { toOutboxItem := change row.toOutboxItem })
    fun row other => by simp only [SameRow, keeps, and_self]

def call : OutboxCall → OutboxReply Envelope × SqlOutbox Envelope
  | .pending worker now limit =>
      (.ok ((outbox.claim worker now limit).reread (outbox.claimedIds now limit)),
        outbox.claim worker now limit)
  | .complete worker outboxId now =>
      (.ok [], outbox.settle worker outboxId (·.published now) fun _ => rfl)
  | .fail worker outboxId code wall =>
      (.ok [], outbox.settle worker outboxId (·.failed code wall) fun _ => rfl)

end SqlOutbox

end Ten.Integration
