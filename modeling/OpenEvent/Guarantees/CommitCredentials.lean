import OpenEvent.Credentials
import OpenEvent.Reference
import OpenEvent.Refinement.BatchWrites

/-!
Credentials at the commit point: every batch on behalf of a caller is applied
to a database that holds his credential, and the credentials that a database
holds are those that were issued and not deleted since.
-/

namespace OpenEvent

open OpenEventCore

/-- The credential that a request presents. -/
def OpenEventCore.Mutation.credential : Mutation → Option (UInt64 × Bytes)
  | .publish request => some (request.principal, request.token)
  | .publishAutoSeq request => some (request.principal, request.token)
  | .createChannel request => some (request.principal, request.token)
  | .addMember request => some (request.principal, request.token)
  | .removeMember request => some (request.principal, request.token)
  | _ => none

/-- The credential of the request on whose behalf a step applied a batch. -/
def Event.credential : Event → Option (UInt64 × Bytes)
  | .mutation operation true _ _ => operation.credential
  | .write call (some .prepare) _ => some (call.request.principal, call.request.token)
  | .write call (some .commit) _ => some (call.request.principal, call.request.token)
  | _ => none

/-- A committed `AddToken` that issued the credential; the token is made from the
random bytes of the step. -/
def Issues (principal : UInt64) (token : Bytes) (label : Action × Event) : Prop :=
  match label.2, label.1 with
  | .mutation (.addToken request) true _ _, .runMutation _ env =>
      request.principal = principal ∧ generateToken env.random = some (.ok token)
  | _, _ => False

/-- A committed `DeleteToken` of the credential. -/
def Deletes (principal : UInt64) (token : Bytes) (label : Action × Event) : Prop :=
  match label.2 with
  | .mutation (.deleteToken request) true _ _ =>
      request.principal = principal ∧ request.token = token
  | _ => False

section Steps

variable {ext : Externals} {server next : Server} {store : Store} {log : List EventMessage}
variable {action : Action} {event : Event} {effect : Effect} {principal : UInt64} {token : Bytes}

/-- The batch of a mutation, as the database after it has it. -/
theorem Server.step_mutation_writes {operation : Mutation} {status : Status} {data : ResponseData}
    (h : server.step ext action = some (next, .mutation operation true status data)) :
    ∃ id env tsMs batch answer, action = .runMutation id env ∧
      FullEffect ext server.db env tsMs operation batch answer ∧
      next.db = server.db.write batch := by
  obtain ⟨core, id, tsMs, env, rfl, _, hrun⟩ := Server.step_mutation_applied h
  obtain ⟨built, hbuilt, hends⟩ := Server.runMutation_ends hrun
  cases hends with
  | left happlied => cases happlied
  | committed _ _ _ hdb =>
      exact ⟨id, env, tsMs, _, _, rfl, mutationBatch_writes hbuilt, hdb⟩

/-- A batch is applied on behalf of a caller whose credential is valid then. -/
theorem Applies.credential_valid (h : Applies store event effect)
    (hcredential : event.credential = some (principal, token)) :
    store.tokens principal token = true := by
  cases h with
  | mutation hperforms =>
      cases hperforms with
      | publish htoken _ => cases hcredential; exact htoken
      | publishAutoSeq htoken => cases hcredential; exact htoken
      | createChannel htoken => cases hcredential; exact htoken
      | addMember htoken _ _ => cases hcredential; exact htoken
      | removeMember htoken _ _ => cases hcredential; exact htoken
      | _ => cases hcredential
  | prepare htoken => cases hcredential; exact htoken
  | commit htoken => cases hcredential; exact htoken
  | _ => cases hcredential

theorem hasCredential_put (db : Db) (principal other : UInt64) (token issued : Bytes) :
    (db.write [.put .metadata (tokenKey other issued) []]).HasCredential principal token ↔
      (other = principal ∧ issued = token) ∨ db.HasCredential principal token := by
  have hget : (db.write [.put .metadata (tokenKey other issued) []]).metadata =
      db.metadata.put (tokenKey other issued) [] := rfl
  rw [Db.HasCredential, hget]
  by_cases hkey : tokenKey principal token = tokenKey other issued
  · obtain ⟨rfl, rfl⟩ := tokenKey_injective hkey
    simp
  · have hother : ¬ (other = principal ∧ issued = token) := by
      rintro ⟨rfl, rfl⟩
      exact hkey rfl
    rw [SortedMap.get_put_of_ne _ _ hkey]
    simp [hother, Db.HasCredential]

theorem hasCredential_delete (db : Db) (principal other : UInt64) (token deleted : Bytes) :
    (db.write [.delete .metadata (tokenKey other deleted)]).HasCredential principal token ↔
      db.HasCredential principal token ∧ ¬ (other = principal ∧ deleted = token) := by
  have hget : (db.write [.delete .metadata (tokenKey other deleted)]).metadata =
      db.metadata.erase (tokenKey other deleted) := rfl
  rw [Db.HasCredential, hget, SortedMap.get_erase]
  by_cases hkey : tokenKey principal token = tokenKey other deleted
  · obtain ⟨rfl, rfl⟩ := tokenKey_injective hkey
    simp
  · have hother : ¬ (other = principal ∧ deleted = token) := by
      rintro ⟨rfl, rfl⟩
      exact hkey rfl
    simp [hkey, hother, Db.HasCredential]

/-- How one step changes whether a credential is stored. -/
theorem Sound.step_credential (h : Sound ext server store log)
    (hstep : server.step ext action = some (next, event)) (principal : UInt64) (token : Bytes) :
    next.db.HasCredential principal token ↔
      Issues principal token (action, event) ∨
        server.db.HasCredential principal token ∧ ¬ Deletes principal token (action, event) := by
  have hkept (hsame : next.db.HasCredential principal token ↔
      server.db.HasCredential principal token) (hissues : ¬ Issues principal token (action, event))
      (hdeletes : ¬ Deletes principal token (action, event)) :
      next.db.HasCredential principal token ↔ Issues principal token (action, event) ∨
        server.db.HasCredential principal token ∧ ¬ Deletes principal token (action, event) := by
    simp [hsame, hissues, hdeletes]
  cases Server.step_effect h.represents h.coherent.valid h.calls hstep with
  | unchanged hevent hdb =>
      refine hkept (by rw [hdb]) ?_ ?_
      · intro hissues
        unfold Issues at hissues
        split at hissues
        · rename_i heq _
          obtain rfl : event = _ := heq
          cases hevent
        · exact hissues
      · intro hdeletes
        unfold Deletes at hdeletes
        split at hdeletes
        · rename_i heq
          obtain rfl : event = _ := heq
          cases hevent
        · exact hdeletes
  | @applied effect happlies _ hdb =>
      have hsame (hsets : effect.setsToken principal token = none) :
          next.db.HasCredential principal token ↔
            server.db.HasCredential principal token := by
        rw [hdb.hasCredential_iff, h.represents.hasCredential_iff, store.apply_tokens, hsets]
        rfl
      cases happlies with
      | mutation hperforms =>
          cases hperforms with
          | @addToken request issued =>
              obtain ⟨id, env, tsMs, batch, answer, rfl, heffect, hwritten⟩ :=
                Server.step_mutation_writes hstep
              cases heffect with
              | @addToken _ generated hgenerated =>
                  rw [hwritten, hasCredential_put]
                  simp [Issues, Deletes, hgenerated]
          | @deleteToken request =>
              obtain ⟨id, env, tsMs, batch, answer, rfl, heffect, hwritten⟩ :=
                Server.step_mutation_writes hstep
              cases heffect with
              | deleteToken =>
                  rw [hwritten, hasCredential_delete]
                  simp [Issues, Deletes]
          | _ => exact hkept (hsame rfl) (fun hissues => hissues) (fun hdeletes => hdeletes)
      | _ => exact hkept (hsame rfl) (fun hissues => hissues) (fun hdeletes => hdeletes)

/-- A committed `DeleteToken` takes away the record of its own credential and
leaves every other record of every column family. -/
theorem Server.step_deleteToken {request : DeleteTokenRequest} {status : Status}
    {data : ResponseData}
    (h : server.step ext action = some (next, .mutation (.deleteToken request) true status data))
    (family : ColumnFamily) (key : Bytes)
    (hother : (family, key) ≠ (.metadata, tokenKey request.principal request.token)) :
    (next.db.family family).get key = (server.db.family family).get key := by
  obtain ⟨id, env, tsMs, batch, answer, rfl, heffect, hwritten⟩ := Server.step_mutation_writes h
  cases heffect with
  | deleteToken =>
      rw [hwritten]
      cases family with
      | metadata =>
          have hkey : key ≠ tokenKey request.principal request.token := by
            rintro rfl
            exact hother rfl
          exact (SortedMap.get_erase _ _ _).trans (if_neg hkey)
      | _ => rfl

end Steps

/-- What holds of the credentials at a state of a run and of the next step. -/
structure CredentialsHold (ext : Externals) (labels : List (Action × Event)) (server : Server) :
    Prop where
  stored : ∀ principal token, server.db.HasCredential principal token ↔
    Run.SetSince (Issues principal token) (Deletes principal token) labels
  presented : ∀ action event next principal token,
    Server.Step ext server (action, event) next →
    event.credential = some (principal, token) → server.db.HasCredential principal token
  untouched : ∀ action next request status data,
    Server.Step ext server (action, .mutation (.deleteToken request) true status data) next →
    (∀ principal token, (principal, token) ≠ (request.principal, request.token) →
      (next.db.HasCredential principal token ↔ server.db.HasCredential principal token)) ∧
    ∀ family key, (family, key) ≠ (.metadata, tokenKey request.principal request.token) →
      (next.db.family family).get key = (server.db.family family).get key

section Runs

variable {ext : Externals} {server next : Server} {store : Store} {log : List EventMessage}
variable {action : Action} {event : Event}

theorem initial_noCredential (ext : Externals) (eventMs : UInt64) (principal : UInt64)
    (token : Bytes) : ¬ (Server.initial ext eventMs).db.HasCredential principal token := by
  intro hstored
  have hvalid := ((initialStore_represents ext eventMs).hasCredential_iff principal token).mp
    hstored
  cases hvalid

/-- A batch of a request is applied to a database that has its credential. -/
theorem Sound.credential_presented (h : Sound ext server store log)
    (hstep : server.step ext action = some (next, event)) {principal : UInt64} {token : Bytes}
    (hcredential : event.credential = some (principal, token)) :
    server.db.HasCredential principal token := by
  rw [h.represents.hasCredential_iff]
  cases Server.step_effect h.represents h.coherent.valid h.calls hstep with
  | unchanged hevent _ =>
      unfold Event.credential at hcredential
      split at hcredential
      all_goals first | cases hevent | cases hcredential
  | applied happlies _ _ => exact happlies.credential_valid hcredential

/-- In every run, batches are applied with the credential of their request
present, and present are the credentials issued and not deleted since. -/
theorem credentials_at_commit (ext : Externals) {eventMs : UInt64}
    {labels : List (Action × Event)} {server : Server}
    (hrun : Run (Server.Step ext) (Server.initial ext eventMs) labels server) :
    CredentialsHold ext labels server := by
  obtain ⟨store, log, hsound⟩ := runs_sound hrun
  refine ⟨?_, ?_, ?_⟩
  · intro principal token
    refine hrun.holds_iff_setSince (P := fun state => ∃ store log, Sound ext state store log)
      (H := fun state => state.db.HasCredential principal token)
      ⟨_, _, initial_sound ext eventMs⟩ (initial_noCredential ext eventMs principal token) ?_
    rintro state label state' ⟨store, log, hstate⟩ hstep
    obtain ⟨store', log', hstate', _⟩ := hstate.step hstep
    exact ⟨⟨store', log', hstate'⟩, hstate.step_credential hstep.1 principal token⟩
  · intro action event next principal token hstep hcredential
    exact hsound.credential_presented hstep.1 hcredential
  · intro action next request status data hstep
    have hkeys := Server.step_deleteToken hstep.1
    refine ⟨?_, hkeys⟩
    intro principal token hother
    have hkey : tokenKey principal token ≠ tokenKey request.principal request.token := by
      intro heq
      obtain ⟨rfl, rfl⟩ := tokenKey_injective heq
      exact hother rfl
    have hsame : next.db.metadata.get (tokenKey principal token) =
        server.db.metadata.get (tokenKey principal token) :=
      hkeys .metadata (tokenKey principal token) (by simpa using hkey)
    rw [Db.HasCredential, Db.HasCredential, hsame]

/-- The credential that the session issues is stored at its end. -/
theorem session_credential_stored :
    Reference.sessionServer.db.HasCredential 7 Reference.credential ∧
      Run.SetSince (Issues 7 Reference.credential) (Deletes 7 Reference.credential)
        Reference.sessionLabels := by
  have hholds := credentials_at_commit Reference.externals Reference.session_run
  have hstored : Reference.sessionServer.db.HasCredential 7 Reference.credential := by
    have hsome : (Reference.sessionServer.db.metadata.get
        (tokenKey 7 Reference.credential)).isSome = true := by
      decide +kernel
    exact Option.isSome_iff_ne_none.mp hsome
  exact ⟨hstored, (hholds.stored 7 Reference.credential).mp hstored⟩

end Runs

end OpenEvent
