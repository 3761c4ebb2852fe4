import OpenEvent.Storage.ObjectFileStore
import OpenEvent.Storage.UnifiedStorage

/-!
`RecoverPreparingObjects` as one call: the plan, the file cleanup and the commit,
with what each of them meets given by the environment. The process may be killed
between any two system calls; such an attempt has no status.
-/

namespace OpenEvent

namespace ObjectFileStore

/-- The system calls of `Cleanup` from a phase on. The process is killed where
the calls given end; there is no result for a call that cannot end as given. -/
def cleanupFrom (dir : ObjectDirectory) (phase : CleanupPhase) :
    List SyscallOutcome → Option (ObjectDirectory × Option Status)
  | [] => some (dir, none)
  | outcome :: rest =>
      match cleanupStep dir phase outcome with
      | none => none
      | some (dir, .next phase) => cleanupFrom dir phase rest
      | some (dir, .done status) => some (dir, some status)

/-- `Cleanup` of a list of object ids. -/
def cleanup (dir : ObjectDirectory) (objectIds : List UInt64) (calls : List SyscallOutcome) :
    Option (ObjectDirectory × Option Status) :=
  match cleanupStart objectIds with
  | .done status => some (dir, some status)
  | .next phase => cleanupFrom dir phase calls

end ObjectFileStore

/-- What one attempt of the recovery meets. Without a `commit` the process is
killed before the batch is written. -/
structure RecoveryEnv where
  faults : ReadFaults := {}
  calls : List SyscallOutcome
  commit : Option CommitOutcome

namespace UnifiedStorage

/-- `RecoverPreparingObjects`: the database and the directory it leaves, and the
status it returns if it is not killed. -/
def recoverPreparingObjects (ext : Externals) (db : Db) (dir : ObjectDirectory)
    (env : RecoveryEnv) : Option (Db × ObjectDirectory × Option Status) :=
  match planRecovery ext db env.faults with
  | .error status => some (db, dir, some status)
  | .ok objects =>
      if objects.isEmpty then some (db, dir, some .ok)
      else
        match ObjectFileStore.cleanup dir (objects.map (·.objectId)) env.calls with
        | none => none
        | some (dir, none) => some (db, dir, none)
        | some (dir, some status) =>
            if status.isOk = false then some (db, dir, some status)
            else
              match env.commit with
              | none => some (db, dir, none)
              | some outcome =>
                  let (db, status) := commit db (recoveryBatch objects) outcome
                  some (db, dir, some status)

end UnifiedStorage

end OpenEvent
