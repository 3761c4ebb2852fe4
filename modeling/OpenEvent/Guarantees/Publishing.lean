import OpenEvent.MessageLog
import OpenEvent.Reachable
import OpenEvent.Reference

/-!
The log only grows, and a uuid is published at most once: over any run of
requests, failed commits and restarts, and for any later request that carries
a uuid the log already has.
-/

namespace OpenEvent

open OpenEventCore

/-! ### Publish requests -/

/-- What the first checks of `Publish` and of `PublishAutoSeq` read. -/
structure PublishHeader where
  principal : UInt64
  token : Bytes
  uuid : UInt64
  recipients : List UInt64

def OpenEventCore.Mutation.publishHeader : Mutation → Option PublishHeader
  | .publish request =>
      some ⟨request.principal, request.token, request.uuid, request.recipients⟩
  | .publishAutoSeq request =>
      some ⟨request.principal, request.token, request.uuid, request.recipients⟩
  | _ => none

/-- The operations whose batch holds a message. -/
def OpenEventCore.Mutation.appendsMessage : Mutation → Bool
  | .publish _ | .publishAutoSeq _ | .createChannel _ | .addMember _ | .removeMember _ => true
  | .allocateUuids _ | .addToken _ | .deleteToken _ => false

/-- The uuid of a publish call whose batch the step applied. -/
def Event.publishedUuid : Event → Option UInt64
  | .mutation operation true _ _ => operation.publishHeader.map (·.uuid)
  | _ => none

/-- The step applied a batch with a message. -/
def Event.commitsMessage : Event → Bool
  | .mutation operation applied _ _ => applied && operation.appendsMessage
  | _ => false

/-- The messages before are the first messages after, byte for byte, and every
entry of the uuid index is still there, unchanged. -/
structure AppendOnly (before after : Db) : Prop where
  messages : before.messages.entries <+: after.messages.entries
  uuids : ∀ uuid, before.metadata.get (numericKey kUuidPrefix uuid) ≠ none →
    after.metadata.get (numericKey kUuidPrefix uuid) =
      before.metadata.get (numericKey kUuidPrefix uuid)

variable {ext : Externals} {server next : Server} {store store' : Store}
variable {log log' : List EventMessage} {event : Event} {effect : Effect}

/-! ### Runs only append -/

theorem Advances.log_grows (h : Advances store log event store' log') : log <+: log' := by
  cases h with
  | unchanged _ => exact List.prefix_refl _
  | applied _ _ => exact List.prefix_append _ _

/-- A longer log has the entries of the uuid index that a shorter one has. -/
theorem LogIndex.usedUuids_mono (h : LogIndex store log) (h' : LogIndex store' log')
    (hgrows : log <+: log') {uuid seq : UInt64} (hused : store.usedUuids uuid = some seq) :
    store'.usedUuids uuid = some seq := by
  obtain ⟨message, hat, huuid⟩ := (h.uuids uuid seq).mp hused
  refine (h'.uuids uuid seq).mpr ⟨message, ?_, huuid⟩
  obtain ⟨rest, rfl⟩ := hgrows
  rw [List.getElem?_append_left (List.getElem?_eq_some_iff.mp hat).1, hat]

theorem Sound.appendOnly (h : Sound ext server store log) (h' : Sound ext next store' log')
    (hgrows : log <+: log') : AppendOnly server.db next.db where
  messages := by
    rw [h.represents.messages_entries h.coherent.logIndex,
      h'.represents.messages_entries h'.coherent.logIndex]
    exact encodedLog_mono hgrows
  uuids uuid hsome := by
    have hbefore : server.db.metadata.get (numericKey kUuidPrefix uuid) =
        (store.usedUuids uuid).map encodeUint64 := h.represents.metadata (.uuid uuid)
    have hafter : next.db.metadata.get (numericKey kUuidPrefix uuid) =
        (store'.usedUuids uuid).map encodeUint64 := h'.represents.metadata (.uuid uuid)
    rw [hbefore, Ne, Option.map_eq_none_iff] at hsome
    obtain ⟨seq, hseq⟩ := Option.ne_none_iff_exists'.mp hsome
    have hkept := h.coherent.logIndex.usedUuids_mono h'.coherent.logIndex hgrows hseq
    rw [hbefore, hafter, hseq, hkept]

theorem Sound.run_grows {labels : List (Action × Event)} (h : Sound ext server store log)
    (hrun : Run (Server.Step ext) server labels next) :
    ∃ store' log', Sound ext next store' log' ∧ log <+: log' := by
  refine h.run (P := fun _ longer => log <+: longer) (List.prefix_refl log) hrun ?_
  intro _ _ effect _ _ hgrows
  exact hgrows.trans (List.prefix_append _ _)

/-! ### Each uuid and each seq is committed once -/

theorem Applies.publishedUuid (h : Applies store event effect) {uuid : UInt64}
    (hevent : event.publishedUuid = some uuid) :
    ∃ message, effect = .publish message ∧ message.uuid = uuid := by
  cases h with
  | mutation hperforms =>
      cases hperforms with
      | @publish request tsMs _ _ =>
          exact ⟨request.message tsMs, rfl, Option.some.inj hevent⟩
      | @publishAutoSeq request tsMs _ =>
          exact ⟨request.message (store.maxSeq + 1) tsMs, rfl, Option.some.inj hevent⟩
      | _ => cases hevent
  | _ => cases hevent

theorem Applies.messages_length (h : Applies store event effect) :
    effect.messages.length = if event.commitsMessage then 1 else 0 := by
  cases h with
  | mutation hperforms => cases hperforms <;> rfl
  | _ => rfl

theorem Event.publishedUuid_of_not_applied (h : event.applied = false) :
    event.publishedUuid = none := by
  cases event with
  | mutation mutation applied status data =>
      obtain rfl : applied = false := h
      rfl
  | _ => rfl

theorem Event.commitsMessage_of_not_applied (h : event.applied = false) :
    event.commitsMessage = false := by
  cases event with
  | mutation mutation applied status data =>
      obtain rfl : applied = false := h
      rfl
  | _ => rfl

/-- What the events of a run tell about the log it built. -/
structure CommitHistory (labels : List (Action × Event)) (store : Store)
    (log : List EventMessage) : Prop where
  count : (labels.filter (fun label => label.2.commitsMessage)).length + 1 = log.length
  published : (labels.filterMap (fun label => label.2.publishedUuid)).Nodup
  used : ∀ uuid ∈ labels.filterMap (fun label => label.2.publishedUuid),
    store.usedUuids uuid ≠ none

theorem CommitHistory.step {labels : List (Action × Event)} {label : Action × Event}
    (h : CommitHistory labels store log) (hcoherent : Coherent ext store log)
    (hcoherent' : Coherent ext store' log') (hadvances : Advances store log label.2 store' log') :
    CommitHistory (labels ++ [label]) store' log' := by
  have hkept (uuid : UInt64) (hused : store.usedUuids uuid ≠ none) :
      store'.usedUuids uuid ≠ none := by
    obtain ⟨seq, hseq⟩ := Option.ne_none_iff_exists'.mp hused
    simp [hcoherent.logIndex.usedUuids_mono hcoherent'.logIndex hadvances.log_grows hseq]
  cases hadvances with
  | unchanged hevent =>
      refine ⟨?_, ?_, ?_⟩
      · simpa [Event.commitsMessage_of_not_applied hevent] using h.count
      · simpa [Event.publishedUuid_of_not_applied hevent] using h.published
      · simpa [Event.publishedUuid_of_not_applied hevent] using h.used
  | @applied effect happlies hpermitted =>
      have hlength := happlies.messages_length
      refine ⟨?_, ?_, ?_⟩
      · rw [List.length_append, hlength, ← h.count, List.filter_append, List.length_append]
        cases hcommits : label.2.commitsMessage <;> simp [hcommits]
      · cases huuid : label.2.publishedUuid with
        | none => simpa [huuid] using h.published
        | some uuid =>
            obtain ⟨message, rfl, rfl⟩ := happlies.publishedUuid huuid
            cases hpermitted with
            | publish hallowed =>
                rw [List.filterMap_append, List.nodup_append]
                refine ⟨h.published, by simp [huuid], ?_⟩
                intro used hused other hother heq
                obtain rfl : other = message.uuid := by simpa [huuid] using hother
                exact h.used used hused (heq ▸ hallowed.uuid_unused)
      · intro uuid huuid
        rw [List.filterMap_append, List.mem_append] at huuid
        rcases huuid with hold | hnew
        · exact hkept uuid (h.used uuid hold)
        · have hpublished : label.2.publishedUuid = some uuid := by simpa using hnew
          obtain ⟨message, rfl, rfl⟩ := happlies.publishedUuid hpublished
          simp [Store.apply, Store.appendMessage, Store.putUsedUuid]

theorem run_commitHistory {eventMs : UInt64} {labels : List (Action × Event)}
    (hrun : Run (Server.Step ext) (Server.initial ext eventMs) labels server) :
    ∃ store log, Sound ext server store log ∧ CommitHistory labels store log := by
  refine hrun.history (P := fun labels server => ∃ store log, Sound ext server store log ∧
    CommitHistory labels store log) ?_ ?_
  · exact ⟨_, _, initial_sound ext eventMs, by simp, by simp, by simp⟩
  · rintro labels before label after _ ⟨store, log, hsound, hhistory⟩ hstep
    obtain ⟨store', log', hsound', hadvances⟩ := hsound.step hstep
    exact ⟨store', log', hsound',
      hhistory.step hsound.coherent hsound'.coherent hadvances⟩

/-! ### A uuid that has been used -/

/-- The answer to a publish request whose uuid is in use. -/
def uuidAlreadyUsed : Status :=
  { code := .alreadyExists, message := "uuid has already been used" }

theorem authenticate_of_credential (hdb : Represents ext server.db store)
    (hcoherent : Coherent ext store log) {principal : UInt64} {token : Bytes}
    (h : server.db.HasCredential principal token) :
    authenticate server.db {} principal token = .ok () := by
  have htoken := (hdb.hasCredential_iff principal token).mp h
  obtain ⟨hprincipal, hne⟩ := hcoherent.tokens principal token htoken
  have hread : UnifiedStorage.hasToken server.db {} principal token = .ok _ :=
    (hdb.reads_hasToken principal token).eq_ok
  simp only [authenticate, hprincipal, hne, if_false, hread, htoken]
  rfl

theorem validateAvailableUuid_of_used (hdb : Represents ext server.db store)
    (hcoherent : Coherent ext store log) {uuid seq : UInt64}
    (hused : store.usedUuids uuid = some seq) (huuid : uuid ≠ 0) :
    validateAvailableUuid server.db {} uuid = .error uuidAlreadyUsed := by
  obtain ⟨message, hat, rfl⟩ := (hcoherent.logIndex.uuids uuid seq).mp hused
  have hlt := hcoherent.logIndex.uuid_lt message (List.mem_of_getElem? hat)
  have hnext : UnifiedStorage.getNextUuid server.db {} = .ok _ := hdb.reads_getNextUuid.eq_ok
  have hread : UnifiedStorage.getUsedUuidSeq server.db {} message.uuid = .ok _ :=
    (hdb.reads_getUsedUuidSeq hcoherent.valid message.uuid).eq_ok
  simp only [validateAvailableUuid, huuid, if_false, hnext, hread, hused]
  simp [bind, Except.bind, UInt64.not_le.mpr hlt, uuidAlreadyUsed]
  rfl

/-- The section of either publish call, given what its first checks find. -/
theorem publish_batch_of_refused (ext : Externals) {mutation : Mutation} {header : PublishHeader}
    {env : CallEnv} (config : Config) (tsMs : UInt64)
    (hheader : mutation.publishHeader = some header) (hfaults : env.faults = {})
    (hactive : env.rpcBefore = .active)
    (hauthenticated : authenticate server.db {} header.principal header.token = .ok ())
    {status : Status}
    (hrefused : validateAvailableUuid server.db {} header.uuid = .error status) :
    mutation.batch ext config server.db env tsMs = some (.error { status }) := by
  have hsnapshot : UnifiedStorage.createSnapshot server.db {} = .ok server.db := rfl
  cases mutation with
  | publish request =>
      obtain rfl := Option.some.inj hheader
      simp only [Mutation.batch, publishBatch, hactive, checkRpcActive, hfaults, hsnapshot, plain,
        hauthenticated, hrefused, Fallible.ok_bind, Fallible.error_bind]
  | publishAutoSeq request =>
      obtain rfl := Option.some.inj hheader
      simp only [Mutation.batch, publishAutoSeqBatch, hactive, checkRpcActive, hfaults, hsnapshot,
        plain, hauthenticated, hrefused, Fallible.ok_bind, Fallible.error_bind]
  | _ => cases hheader

theorem publish_entry {mutation : Mutation} {header : PublishHeader}
    (hheader : mutation.publishHeader = some header) (hprincipal : header.principal ≠ 0)
    (hrecipients : 0 ∉ header.recipients) : mutation.entry = .ok () := by
  cases mutation with
  | publish request =>
      obtain rfl := Option.some.inj hheader
      simp only [Mutation.entry, publishEntry]
      simp_all
  | publishAutoSeq request =>
      obtain rfl := Option.some.inj hheader
      simp only [Mutation.entry, publishEntry]
      simp_all
  | _ => cases hheader

/-- A publish call with a principal and without zero recipients enters. -/
theorem publish_enters (ext : Externals) {core : Running} {mutation : Mutation}
    {header : PublishHeader} (hmode : server.mode = .running core)
    (hheader : mutation.publishHeader = some header) (hprincipal : header.principal ≠ 0)
    (hrecipients : 0 ∉ header.recipients) (havailable : core.fatalError = none) {id : Nat}
    (hfree : core.mutations id = none) (tsMs : UInt64) :
    server.step ext (.enterMutation id mutation tsMs) = some
      ({ server with mode := .running (core.setMutation id (some (mutation, tsMs))) },
        .silent) := by
  simp only [Server.step, hmode, hfree, Server.enterMutation, havailable, ensureAvailable,
    publish_entry hheader hprincipal hrecipients]

/-- The section of a publish call whose uuid is refused changes nothing but the calls in
flight. -/
theorem publish_refused {core : Running} {mutation : Mutation} {header : PublishHeader}
    {id : Nat} {tsMs : UInt64} {env : CallEnv} (hmode : server.mode = .running core)
    (hheader : mutation.publishHeader = some header)
    (hcall : core.mutations id = some (mutation, tsMs)) (hfaults : env.faults = {})
    (hactive : env.rpcBefore = .active)
    (hauthenticated : authenticate server.db {} header.principal header.token = .ok ())
    {status : Status}
    (hrefused : validateAvailableUuid server.db {} header.uuid = .error status) :
    server.step ext (.runMutation id env) = some
      ({ server with mode := .running (core.setMutation id none) },
        .mutation mutation false status .empty) := by
  have hbatch := publish_batch_of_refused ext core.config tsMs hheader hfaults hactive
    hauthenticated hrefused
  simp only [Server.step, hmode, hcall, Server.runMutation, hbatch]
  rfl

/-- What becomes of a publish call at a state of the server: the call enters,
and its section refuses the uuid and changes nothing but the calls in flight. -/
structure RefusesUuid (ext : Externals) (server : Server) (core : Running) (mutation : Mutation)
    (header : PublishHeader) : Prop where
  enters : ∀ id tsMs, core.fatalError = none → core.mutations id = none →
    server.step ext (.enterMutation id mutation tsMs) = some
      ({ server with mode := .running (core.setMutation id (some (mutation, tsMs))) }, .silent)
  refused : ∀ id tsMs env, core.mutations id = some (mutation, tsMs) → env.faults = {} →
    env.rpcBefore = .active → server.db.HasCredential header.principal header.token →
    server.step ext (.runMutation id env) = some
      ({ server with mode := .running (core.setMutation id none) },
        .mutation mutation false uuidAlreadyUsed .empty)

theorem Sound.refusesUuid (h : Sound ext server store log) {core : Running} {mutation : Mutation}
    {header : PublishHeader} (hmode : server.mode = .running core)
    (hheader : mutation.publishHeader = some header) (hprincipal : header.principal ≠ 0)
    (hrecipients : 0 ∉ header.recipients) (huuid : header.uuid ≠ 0) {seq : UInt64}
    (hused : server.db.MapsUuid header.uuid seq) :
    RefusesUuid ext server core mutation header where
  enters id tsMs havailable hfree :=
    publish_enters ext hmode hheader hprincipal hrecipients havailable hfree tsMs
  refused id tsMs env hcall hfaults hactive hcredential := by
    have hauthenticated := authenticate_of_credential h.represents h.coherent hcredential
    have hrefused := validateAvailableUuid_of_used h.represents h.coherent
      ((h.represents.mapsUuid_iff header.uuid seq).mp hused) huuid
    exact publish_refused hmode hheader hcall hfaults hactive hauthenticated hrefused

/-- Over every run the log only grows and no uuid is published twice; every
step that commits a message takes the next seq, and a request with a uuid that
the log has, other than the 0 of the initialization message, is answered
ALREADY_EXISTS. -/
theorem publishing_exactly_once (ext : Externals) {eventMs : UInt64}
    {first second : List (Action × Event)} {middle final : Server}
    (hfirst : Run (Server.Step ext) (Server.initial ext eventMs) first middle)
    (hsecond : Run (Server.Step ext) middle second final) :
    AppendOnly middle.db final.db ∧
      ((first ++ second).filterMap (fun label => label.2.publishedUuid)).Nodup ∧
      ((first ++ second).filter (fun label => label.2.commitsMessage)).length =
        (final.db.counter kMaxSeqKey).toNat ∧
      ∀ core mutation header seq, final.mode = .running core →
        Mutation.publishHeader mutation = some header → header.principal ≠ 0 →
        0 ∉ header.recipients → header.uuid ≠ 0 → middle.db.MapsUuid header.uuid seq →
        RefusesUuid ext final core mutation header := by
  obtain ⟨store, log, hsound⟩ := runs_sound hfirst
  obtain ⟨store', log', hsound', hgrows⟩ := hsound.run_grows hsecond
  have honly := hsound.appendOnly hsound' hgrows
  obtain ⟨store'', log'', hsound'', hhistory⟩ := run_commitHistory (hfirst.append hsecond)
  refine ⟨honly, hhistory.published, ?_, ?_⟩
  · have hcount := hhistory.count
    have hmaxSeq := hsound''.coherent.logIndex.maxSeq
    rw [hsound''.represents.counter_maxSeq]
    omega
  · intro core mutation header seq hmode hheader hprincipal hrecipients huuid hused
    have hlater : final.db.MapsUuid header.uuid seq := by
      rw [Db.MapsUuid, honly.uuids header.uuid (by rw [hused]; simp), hused]
    exact hsound'.refusesUuid hmode hheader hprincipal hrecipients huuid hlater

namespace Reference

/-- A request with the uuid of the session's first message. -/
def repeatedRequest : PublishRequest := ⟨7, credential, 1, 9, 1, [8], [], []⟩

def repeatedHeader : PublishHeader := ⟨7, credential, 1, [8]⟩

theorem publishedFirst_executes :
    (execute (Server.stepNoWrap externals) (Server.initial externals 5)
      (session.take 9)).isSome = true := by
  decide +kernel

/-- The server after the session's first message. -/
def publishedFirst : List (Action × Event) × Server := Option.get _ publishedFirst_executes

theorem publishedFirst_run :
    Run (Server.Step externals) (Server.initial externals 5) publishedFirst.1 publishedFirst.2 :=
  execute_run Server.stepNoWrap_step (Option.some_get publishedFirst_executes).symm

theorem publishedLater_executes :
    (execute (Server.stepNoWrap externals) publishedFirst.2 (session.drop 9)).isSome = true := by
  decide +kernel

def publishedLater : List (Action × Event) × Server := Option.get _ publishedLater_executes

theorem publishedLater_run :
    Run (Server.Step externals) publishedFirst.2 publishedLater.1 publishedLater.2 :=
  execute_run Server.stepNoWrap_step (Option.some_get publishedLater_executes).symm

end Reference

theorem publishing_once_in_session :
    ∃ core, Reference.publishedLater.2.mode = .running core ∧
      ((Reference.publishedFirst.1 ++ Reference.publishedLater.1).filterMap
        (fun label => label.2.publishedUuid)).Nodup ∧
      RefusesUuid Reference.externals Reference.publishedLater.2 core
        (.publish Reference.repeatedRequest) Reference.repeatedHeader := by
  obtain ⟨_, honce, _, hrefused⟩ := publishing_exactly_once Reference.externals
    Reference.publishedFirst_run Reference.publishedLater_run
  have hused : Reference.publishedFirst.2.db.MapsUuid 1 2 := by
    unfold Db.MapsUuid
    decide +kernel
  have hidle : Reference.idle Reference.publishedLater.2 = true := by decide +kernel
  obtain ⟨core, hmode, _, _⟩ := Reference.idle_running hidle
  exact ⟨core, hmode, honce, hrefused core (.publish Reference.repeatedRequest)
    Reference.repeatedHeader 2 hmode rfl (by decide) (by decide) (by decide) hused⟩

namespace Reference

/-- A request with the uuid of the initialization message. -/
def zeroUuidRequest : PublishRequest := ⟨7, credential, 0, 1, 0, [], [1], []⟩

def zeroUuidHeader : PublishHeader := ⟨7, credential, 0, []⟩

/-- The section of such a call answers INVALID_ARGUMENT before it reads the index. -/
theorem zeroUuid_not_refused {server : Server} {core : Running} {tsMs : UInt64}
    (hreachable : Reachable externals server) (hmode : server.mode = .running core)
    (hcall : core.mutations 0 = some (.publish zeroUuidRequest, tsMs))
    (hcredential : server.db.HasCredential 7 credential) :
    ¬ RefusesUuid externals server core (.publish zeroUuidRequest) zeroUuidHeader := by
  intro hrefuses
  obtain ⟨store, log, hsound⟩ := hreachable.sound
  have hauthenticated := authenticate_of_credential hsound.represents hsound.coherent hcredential
  have hinvalid : validateAvailableUuid server.db {} zeroUuidHeader.uuid =
      .error { code := .invalidArgument, message := "uuid must be allocated by the server" } := rfl
  have hanswer := hrefuses.refused 0 tsMs {} hcall rfl rfl hcredential
  cases hanswer.symm.trans (publish_refused hmode rfl hcall rfl rfl hauthenticated hinvalid)

/-- The call enters an idle server. -/
theorem zeroUuid_enters {server : Server} (hreachable : Reachable externals server)
    (hidle : idle server = true) : ∃ next core, Reachable externals next ∧
      next.mode = .running core ∧ core.fatalError = none ∧
      core.mutations 0 = some (.publish zeroUuidRequest, 11) ∧ next.db = server.db := by
  obtain ⟨core, hmode, havailable, hfree⟩ := idle_running hidle
  have hheader : Mutation.publishHeader (.publish zeroUuidRequest) = some zeroUuidHeader := rfl
  have henters := publish_enters externals hmode hheader (by decide) (by decide) havailable hfree 11
  have hstep : Server.Step externals server
      (.enterMutation 0 (.publish zeroUuidRequest) 11, .silent)
      { server with
        mode := .running (core.setMutation 0 (some (.publish zeroUuidRequest, 11))) } :=
    ⟨henters, NoWrap.refl _⟩
  obtain ⟨eventMs, labels, hrun⟩ := hreachable
  exact ⟨_, _, ⟨eventMs, _, hrun.snoc hstep⟩, rfl, havailable, by simp [Running.setMutation], rfl⟩

theorem tokenIssued_executes :
    (execute (Server.stepNoWrap externals) (Server.initial externals 5)
      (session.take 3)).isSome = true := by
  decide +kernel

/-- The server after the session's first call. -/
def tokenIssued : List (Action × Event) × Server := Option.get _ tokenIssued_executes

theorem tokenIssued_reachable : Reachable externals tokenIssued.2 :=
  ⟨5, tokenIssued.1,
    execute_run Server.stepNoWrap_step (Option.some_get tokenIssued_executes).symm⟩

/-- The uuid 0 has been consumed, at seq 0. -/
theorem zero_uuid_not_refused_as_used : ¬ ∀ server core mutation header seq,
    Reachable externals server → server.mode = .running core → core.fatalError = none →
    Mutation.publishHeader mutation = some header → header.principal ≠ 0 →
    0 ∉ header.recipients → server.db.MapsUuid header.uuid seq →
    RefusesUuid externals server core mutation header := by
  intro hclaim
  have hcredential : tokenIssued.2.db.HasCredential 7 credential := by
    unfold Db.HasCredential
    decide +kernel
  have hzero : tokenIssued.2.db.MapsUuid 0 0 := by
    unfold Db.MapsUuid
    decide +kernel
  obtain ⟨next, core, hreachable, hmode, havailable, hcall, hdb⟩ :=
    zeroUuid_enters tokenIssued_reachable (by decide +kernel)
  rw [← hdb] at hcredential hzero
  exact zeroUuid_not_refused hreachable hmode hcall hcredential
    (hclaim next core (.publish zeroUuidRequest) zeroUuidHeader 0 hreachable hmode
      havailable rfl (by decide) (by decide) hzero)

end Reference

end OpenEvent
