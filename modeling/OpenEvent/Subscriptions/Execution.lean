import OpenEvent.Subscriptions.SharedSnapshot

/-!
The steps of a process as a function, by which its runs can be executed.
-/

namespace OpenEvent

open OpenEventCore

/-- The choice of the next step of a process. -/
inductive ProcessAction where
  | serve (action : Action)
  | commitReturns
  | latch
  | unlock
  | refreshWake
  | refreshCreate (faults : ReadFaults)
  | refreshBreak
  | refreshStore
  | refreshFail
  | stop
  | acquireCall (id : Nat)
  | acquire (id : Nat)

namespace Process

/-- A step of the server, if it is possible and the process goes on. -/
def tryServe (ext : Externals) (process : Process) (action : Action) :
    Option (Running × Running × Server × Event) :=
  match process.server.mode, process.server.stepNoWrap ext action with
  | .running core, some (server, event) =>
      match server.mode with
      | .running core' => some (core, core', server, event)
      | _ => none
  | _, _ => none

def step (ext : Externals) (process : Process) (action : ProcessAction) :
    Option (Process × ProcessLabel) :=
  match action, process.server.mode, process.refresher with
  | .serve action, _, _ =>
      match process.tryServe ext action with
      | some (core, _, server, event) =>
          if action.locksCoordinator && process.locked then none
          else some (process.serve core.commitGeneration action event server, .served action event)
      | none => none
  | .commitReturns, .running core, _ =>
      if process.shared.commitGeneration ≠ core.commitGeneration then
        some ({ process with
          shared := { process.shared with commitGeneration := core.commitGeneration }
          returned := process.batches.length }, .silent)
      else none
  | .latch, .running core, _ =>
      match core.fatalError with
      | some status =>
          some ({ process with shared := { process.shared with fatalError := some status } },
            .silent)
      | none => none
  | .unlock, .running core, _ =>
      if process.locked = true ∧ process.shared.commitGeneration = core.commitGeneration ∧
          (core.fatalError.isSome → process.shared.fatalError.isSome) then
        some ({ process with locked := false, returned := process.batches.length }, .silent)
      else none
  | .refreshWake, _, .waiting =>
      some ({ process with refresher := process.shared.refreshWake }, .silent)
  | .refreshCreate faults, _, .loaded generation =>
      some ({ process with refresher := .created generation (process.createSnapshot faults) },
        .silent)
  | .refreshBreak, _, .created _ _ =>
      if process.shared.fatalError.isSome then some ({ process with refresher := .ended }, .silent)
      else none
  | .refreshStore, _, .created generation snapshot =>
      if process.shared.fatalError = none then
        some ({ process with
          shared := process.shared.refreshed generation snapshot
          refresher := SharedSnapshot.afterRefresh snapshot }, .silent)
      else none
  | .refreshFail, _, .failing status =>
      match process.tryServe ext (.fatalError status) with
      | some (core, core', server, event) =>
          some ({ process.serve core.commitGeneration (.fatalError status) event server with
            shared := { process.shared with fatalError := core'.fatalError }
            refresher := .ended }, .served (.fatalError status) event)
      | none => none
  | .stop, _, _ =>
      some ({ process with shared := { process.shared with stop := true } }, .silent)
  | .acquireCall id, _, _ =>
      match process.acquires id with
      | none => some (process.setAcquire id (some (.called, process.returned)), .silent)
      | some _ => none
  | .acquire id, _, _ =>
      match process.acquires id with
      | none => none
      | some (phase, begun) =>
          match process.shared.acquireStep phase with
          | none => none
          | some (.next phase') => some (process.setAcquire id (some (phase', begun)), .silent)
          | some (.done result) => some (process.setAcquire id none, .acquired id begun result)
  | _, _, _ => none

variable {ext : Externals} {process next : Process} {label : ProcessLabel}

theorem tryServe_some {action : Action} {core core' : Running} {server : Server} {event : Event}
    (h : process.tryServe ext action = some (core, core', server, event)) :
    process.server.mode = .running core ∧
      Server.Step ext process.server (action, event) server ∧ server.mode = .running core' := by
  unfold tryServe at h
  split at h
  · rename_i hmode hstep
    split at h
    · rename_i hnext
      cases h
      exact ⟨hmode, Server.stepNoWrap_step _ _ _ _ hstep, hnext⟩
    · cases h
  · cases h

theorem step_sound {action : ProcessAction} (h : process.step ext action = some (next, label)) :
    process.Step ext label next := by
  unfold step at h
  split at h
  · split at h
    · rename_i hserved
      obtain ⟨hmode, hstep, hnext⟩ := tryServe_some hserved
      split at h
      · cases h
      · rename_i hfree
        cases h
        refine .serve hmode hstep hnext ?_
        intro hlocks
        simpa [hlocks] using hfree
    · cases h
  · rename_i hmode
    split at h
    · rename_i hpending
      cases h
      exact .commitReturns hmode hpending
    · cases h
  · rename_i hmode
    split at h
    · rename_i hstatus
      cases h
      exact .latch hmode hstatus
    · cases h
  · rename_i hmode
    split at h
    · rename_i hfree
      cases h
      exact .unlock hmode hfree.1 hfree.2.1 hfree.2.2
    · cases h
  · rename_i hphase
    cases h
    exact .refreshWake hphase
  · rename_i hphase
    cases h
    exact .refreshCreate hphase
  · rename_i hphase
    split at h
    · rename_i hfatal
      cases h
      exact .refreshBreak hphase hfatal
    · cases h
  · rename_i hphase
    split at h
    · rename_i hnone
      cases h
      exact .refreshStore hphase hnone
    · cases h
  · rename_i hphase
    split at h
    · rename_i hserved
      obtain ⟨hmode, hstep, hnext⟩ := tryServe_some hserved
      cases h
      exact .refreshFail hphase hmode hstep hnext
    · cases h
  · cases h
    exact .stop
  · split at h
    · rename_i hfree
      cases h
      exact .acquireCall hfree
    · cases h
  · split at h
    · cases h
    · rename_i hcall
      split at h
      · cases h
      · rename_i hstep
        cases h
        exact .acquireNext hcall hstep
      · rename_i hstep
        cases h
        exact .acquireReturn hcall hstep
  · cases h

/-- The run that a list of choices makes. -/
theorem execute_steps {actions : List ProcessAction}
    {found : List (ProcessAction × ProcessLabel) × Process}
    (h : execute (step ext) process actions = some found) :
    Run (Process.Step ext) process (found.1.map Prod.snd) found.2 := by
  have hrun : Run (fun state label next => Process.Step ext state label.2 next) process found.1
      found.2 := execute_run (fun _ _ _ _ hstep => step_sound hstep) h
  exact hrun.map (fun _ _ _ hstep => hstep)

end Process

end OpenEvent
