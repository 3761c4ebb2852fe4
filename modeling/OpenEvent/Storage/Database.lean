import OpenEvent.Lib.SortedMap
import OpenEvent.Encoding
import OpenEvent.Status

/-!
RocksDB as the server uses it: three column families of byte keys in
lexicographic order, atomic write batches, snapshots, point reads and
iterators. Every read and every commit may fail; which ones do is given by
the environment of the call.
-/

namespace OpenEvent

inductive ColumnFamily where
  | metadata
  | messages
  | objects
deriving DecidableEq

abbrev KeyValueTable := SortedMap Bytes Bytes

structure Db where
  metadata : KeyValueTable
  messages : KeyValueTable
  objects : KeyValueTable

namespace Db

def empty : Db := ⟨SortedMap.empty, SortedMap.empty, SortedMap.empty⟩

def family (db : Db) : ColumnFamily → KeyValueTable
  | .metadata => db.metadata
  | .messages => db.messages
  | .objects => db.objects

def setFamily (db : Db) (table : KeyValueTable) : ColumnFamily → Db
  | .metadata => { db with metadata := table }
  | .messages => { db with messages := table }
  | .objects => { db with objects := table }

end Db

inductive BatchOperation where
  | put (family : ColumnFamily) (key value : Bytes)
  | delete (family : ColumnFamily) (key : Bytes)

abbrev WriteBatch := List BatchOperation

def Db.applyOperation (db : Db) : BatchOperation → Db
  | .put family key value => db.setFamily ((db.family family).put key value) family
  | .delete family key => db.setFamily ((db.family family).erase key) family

/-- All operations of a batch, in order. -/
def Db.write (db : Db) (batch : WriteBatch) : Db := batch.foldl Db.applyOperation db

/-- What a storage read of one call meets: whether `GetSnapshot` returns
nothing, which point reads fail, and after how many entries an iterator fails. -/
structure ReadFaults where
  snapshot : Bool := false
  get : ColumnFamily → Bytes → Option RocksStatus := fun _ _ => none
  iterator : ColumnFamily → Option (Nat × RocksStatus) := fun _ => none

/-- No read reports corruption of the database files. -/
structure ReadFaults.NoCorruption (faults : ReadFaults) : Prop where
  get : ∀ family key status, faults.get family key = some status → status.isCorruption = false
  iterator : ∀ family count status, faults.iterator family = some (count, status) →
    status.isCorruption = false

/-- `DB::Get`: a value, nothing for NotFound, or a failed read. -/
def Db.get (snapshot : Db) (faults : ReadFaults) (family : ColumnFamily) (key : Bytes) :
    Except RocksStatus (Option Bytes) :=
  match faults.get family key with
  | some status => .error status
  | none => .ok ((snapshot.family family).get key)

/-- The entries an iterator yields from `start` on, and the status it has once
it is no longer valid. -/
def Db.iterate (snapshot : Db) (faults : ReadFaults) (family : ColumnFamily) (start : Bytes) :
    List (Bytes × Bytes) × Option RocksStatus :=
  match faults.iterator family with
  | some (count, status) => (((snapshot.family family).seek start).take count, some status)
  | none => ((snapshot.family family).seek start, none)

/-- The result of `DB::Write`. A failed write has been applied as a whole or
not at all. -/
inductive CommitOutcome where
  | written
  | failed (applied : Bool) (status : RocksStatus)

def CommitOutcome.NoCorruption : CommitOutcome → Prop
  | .written => True
  | .failed _ status => status.isCorruption = false

def CommitOutcome.applies : CommitOutcome → Bool
  | .written => true
  | .failed applied _ => applied

end OpenEvent
