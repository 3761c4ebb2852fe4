import OpenEvent.Core.Mutations

/-!
`WriteObject` and `CleanupPreparingObject`. A call takes the coordinator mutex
twice, once to commit the PREPARING record and once to commit the object, and
writes the object file in between without it; a failure after the first commit
is cleaned up file first, record second.
-/

namespace OpenEvent.OpenEventCore

/-- Where a call is: waiting for the mutex, or at a system call. -/
inductive WriteObjectPhase where
  | prepare
  | writing (phase : ObjectFileStore.WritePhase)
  | commit
  | cleaning (phase : ObjectFileStore.CleanupPhase) (result : Status)
  | deletePreparing (result : Status)
deriving DecidableEq

structure WriteObjectCall where
  request : WriteObjectRequest
  object : StoredObject
  phase : WriteObjectPhase

/-- The checks on the request alone. -/
def writeObjectEntry (request : WriteObjectRequest) : Result Unit :=
  if request.principal = 0 then
    .error { code := .invalidArgument, message := "principal must be greater than 0" }
  else if request.name.isEmpty ∨ request.name.utf8ByteSize > kMaxObjectNameBytes ∨
      request.type.isEmpty ∨ request.type.utf8ByteSize > kMaxObjectTypeBytes ∨
      request.description.utf8ByteSize > kMaxObjectDescriptionBytes ∨ request.data = [] ∨
      request.data.length > kMaxObjectBytes then
    .error { code := .invalidArgument, message := "invalid object metadata or data size" }
  else .ok ()

/-- The object of a call before its id is assigned. -/
def newObject (request : WriteObjectRequest) (objectToken : String) : StoredObject :=
  { objectId := 0, objectToken, creatorPrincipal := request.principal, name := request.name,
    type := request.type, description := request.description,
    nbytes := UInt64.ofNat request.data.length }

/-- The first section: the batch with the PREPARING record, and the object with
the id assigned to it. -/
def prepareBatch (ext : Externals) (db : Db) (env : CallEnv) (request : WriteObjectRequest)
    (object : StoredObject) : Result (WriteBatch × StoredObject) := do
  let snapshot ← UnifiedStorage.createSnapshot db env.faults
  authenticate snapshot env.faults request.principal request.token
  let nextObjectId ← UnifiedStorage.getNextObjectId snapshot env.faults
  let object := { object with objectId := nextObjectId }
  let batch ← UnifiedStorage.putPreparingObject ext [] object
  let batch ← UnifiedStorage.setNextObjectId batch (object.objectId + 1)
  pure (batch, object)

/-- How a section of `WriteObject` goes on. -/
inductive WriteObjectProgress where
  | next (phase : WriteObjectPhase)
  | done (status : Status) (data : ResponseData)

def prepareSection (ext : Externals) (state : CoreState) (env : CallEnv)
    (request : WriteObjectRequest) (object : StoredObject) :
    CoreState × StoredObject × WriteObjectProgress :=
  match prepareBatch ext state.db env request object with
  | .error status => (state, object, .done status .empty)
  | .ok (batch, object) =>
      let (state, status) := commitBatch state batch env.commit
      if status.isOk then (state, object, .next (.writing .openTemporary))
      else (state, object, .done status .empty)

/-- A failure after the PREPARING commit: exit, or clean up. -/
def failPrepared (state : CoreState) (objectId : UInt64) (status : Status) :
    CoreState × WriteObjectProgress :=
  if status.isFatal then (fatalStorageError state status, .done status .empty)
  else (state, .next (.cleaning (.unlinkTemporary objectId []) status))

/-- The return of `WriteObjectFile`. -/
def afterFileWrite (state : CoreState) (objectId : UInt64) (status : Status) :
    CoreState × WriteObjectProgress :=
  if status.isOk then (state, .next .commit) else failPrepared state objectId status

/-- What the second section decides before its commit. -/
inductive CommitDecision where
  | commit (batch : WriteBatch)
  | fail (status : Status)
  | exit (status : Status)

def commitDecision (ext : Externals) (db : Db) (env : CallEnv) (request : WriteObjectRequest)
    (object : StoredObject) : CommitDecision :=
  match UnifiedStorage.createSnapshot db env.faults with
  | .error status => .fail status
  | .ok snapshot =>
      match authenticate snapshot env.faults request.principal request.token with
      | .error status => .fail status
      | .ok () =>
          match UnifiedStorage.getPreparingObject ext snapshot env.faults object.objectId with
          | .error status => if status.isFatal then .exit status else .fail status
          | .ok none =>
              .exit (.storageCorruption "commit object metadata"
                "preparing object metadata changed unexpectedly")
          | .ok (some preparing) =>
              if sameObject preparing object = false then
                .exit (.storageCorruption "commit object metadata"
                  "preparing object metadata changed unexpectedly")
              else
                match UnifiedStorage.putCommittedObject ext [] object with
                | .error status => .fail status
                | .ok batch => .commit batch

def commitSection (ext : Externals) (state : CoreState) (env : CallEnv)
    (request : WriteObjectRequest) (object : StoredObject) : CoreState × WriteObjectProgress :=
  match commitDecision ext state.db env request object with
  | .exit status => (fatalStorageError state status, .done status .empty)
  | .fail status => failPrepared state object.objectId status
  | .commit batch =>
      let (state, status) := commitBatch state batch env.commit
      if status.isOk then (state, .done .ok (.object object.objectId object.objectToken))
      else (fatalStorageError state status, .done status .empty)

/-- The return of `CleanupObjectFiles` inside `CleanupPreparingObject`. -/
def afterCleanup (state : CoreState) (status result : Status) : CoreState × WriteObjectProgress :=
  if status.isOk then (state, .next (.deletePreparing result))
  else if status.isFatal then (fatalStorageError state status, .done status .empty)
  else (state, .done status .empty)

def deletePreparingSection (state : CoreState) (env : CallEnv) (objectId : UInt64)
    (result : Status) : CoreState × WriteObjectProgress :=
  let (state, status) :=
    commitBatch state (UnifiedStorage.deletePreparingObject [] objectId) env.commit
  (state, .done (if status.isOk then result else status) .empty)

end OpenEvent.OpenEventCore
