import OpenEvent.MessageLog
import OpenEvent.Reachable
import OpenEvent.Reference

/-!
The message log as the history of the channels: the stored channels are what
the log replays to, a step changes a channel exactly when it appends a system
message about it, and every business message was allowed by the channel as it
was at its seq.
-/

namespace OpenEvent

open OpenEventCore

/-- A `CreateChannel`, `AddMember` or `RemoveMember` whose batch the step
applied. -/
def Event.changesChannel : Event → Bool
  | .mutation (.createChannel _) applied _ _ => applied
  | .mutation (.addMember _) applied _ _ => applied
  | .mutation (.removeMember _) applied _ _ => applied
  | _ => false

/-- What a step does to the channels and to the log. -/
inductive ChannelStep (ext : Externals) (event : Event) (before after : Db) : Prop
  | quiet : event.changesChannel = false → after.log ext = before.log ext →
      (∀ channelId, after.channel ext channelId = before.channel ext channelId) →
      ChannelStep ext event before after
  | business {message : EventMessage} : event.changesChannel = false → message.principal ≠ 0 →
      after.log ext = before.log ext ++ [message] →
      (∀ channelId, after.channel ext channelId = before.channel ext channelId) →
      ChannelStep ext event before after
  | changed {message : EventMessage} : event.changesChannel = true → message.principal = 0 →
      message.channelId ≠ 0 → after.log ext = before.log ext ++ [message] →
      after.channel ext message.channelId ≠ before.channel ext message.channelId →
      (∀ channelId, channelId ≠ message.channelId →
        after.channel ext channelId = before.channel ext channelId) →
      ChannelStep ext event before after

variable {ext : Externals} {server next : Server} {store store' : Store}
variable {log log' : List EventMessage} {event : Event} {effect : Effect}

/-! ### One step -/

/-- What an effect does to the channels of the store and to the log. -/
inductive ChannelEffect (store : Store) (effect : Effect) : Prop
  | quiet : effect.messages = [] → (store.apply effect).channels = store.channels →
      ChannelEffect store effect
  | business {message : EventMessage} : effect.messages = [message] → message.principal ≠ 0 →
      (store.apply effect).channels = store.channels → ChannelEffect store effect
  | changed {message : EventMessage} {channel : ChannelInfo} : effect.messages = [message] →
      message.principal = 0 → message.channelId ≠ 0 →
      (store.apply effect).channels =
        Function.update store.channels message.channelId (some channel) →
      store.channels message.channelId ≠ some channel → ChannelEffect store effect

theorem MemberChange.ne {before after : ChannelInfo} {payload : Bytes}
    (h : MemberChange before after payload) : before ≠ after := by
  cases h with
  | added _ _ =>
      intro heq
      simpa using congrArg (fun channel : ChannelInfo => channel.members.length) heq
  | removed _ hmember _ =>
      intro heq
      have hlength := congrArg (fun channel : ChannelInfo => channel.members.length) heq
      have hpositive := List.length_pos_of_mem hmember
      simp only [List.length_erase_of_mem hmember] at hlength
      omega

theorem Permitted.channelEffect (h : Permitted store effect) (hcoherent : Coherent ext store log) :
    ChannelEffect store effect := by
  cases h with
  | allocateUuids _ => exact .quiet rfl rfl
  | publish hallowed => exact .business rfl hallowed.principal_ne rfl
  | @createChannel channel message hnew hmessage _ =>
      have hid : message.channelId = store.nextChannelId :=
        hmessage.channelId_eq.trans hnew.channelId_eq
      have habsent : store.channels message.channelId = none := by
        by_contra hsome
        have hlt := ((hcoherent.channelIndex.channels_iff _).mp
          (Option.isSome_iff_ne_none.mpr hsome)).2
        rw [hid] at hlt
        exact UInt64.lt_irrefl _ hlt
      refine @ChannelEffect.changed _ _ message channel rfl hmessage.principal_eq ?_ ?_
        (by rw [habsent]; simp)
      · rw [hid]
        exact hcoherent.channelIndex.nextChannelId
      · rw [hmessage.channelId_eq]
        rfl
  | @changeMembers before channel message hbefore hchange hmessage =>
      have hid : message.channelId = before.channelId :=
        hmessage.channelId_eq.trans hchange.channelId_eq
      have hexists := (hcoherent.channelIndex.channels_iff before.channelId).mp (by simp [hbefore])
      refine @ChannelEffect.changed _ _ message channel rfl hmessage.principal_eq
        (hid ▸ hexists.1) ?_ ?_
      · rw [hmessage.channelId_eq]
        rfl
      · rw [hid, hbefore]
        exact fun heq => hchange.ne (Option.some.inj heq)
  | addToken _ _ => exact .quiet rfl rfl
  | deleteToken => exact .quiet rfl rfl
  | prepareObject _ _ => exact .quiet rfl rfl
  | commitObject _ => exact .quiet rfl rfl
  | discardObjects => exact .quiet rfl (by rw [Store.discard_frame])

/-- The event of a step that appends a message tells which kind it is. -/
theorem Applies.changesChannel (h : Applies store event effect) (hpermitted : Permitted store effect) :
    event.changesChannel = true ↔ ∃ message ∈ effect.messages, message.principal = 0 := by
  cases h with
  | mutation hperforms =>
      cases hpermitted with
      | publish hallowed =>
          cases hperforms with
          | publish => simpa [Event.changesChannel, Effect.messages] using hallowed.principal_ne
          | publishAutoSeq =>
              simpa [Event.changesChannel, Effect.messages] using hallowed.principal_ne
      | _ => cases hperforms <;> simp [Event.changesChannel, Effect.messages, Store.announcement]
  | _ => simp [Event.changesChannel, Effect.messages]

theorem Event.changesChannel_of_not_applied (h : event.applied = false) :
    event.changesChannel = false := by
  unfold Event.changesChannel
  split <;> first | exact h | rfl

/-- The channels and the log before and after one step. -/
theorem Sound.channelStep (h : Sound ext server store log) (h' : Sound ext next store' log')
    (hadvances : Advances store log event store' log') :
    ChannelStep ext event server.db next.db := by
  have hlog := h.represents.log_eq h.coherent.logIndex
  have hlog' := h'.represents.log_eq h'.coherent.logIndex
  cases hadvances with
  | unchanged hevent =>
      refine .quiet (Event.changesChannel_of_not_applied hevent) (by rw [hlog, hlog']) ?_
      intro channelId
      rw [h.represents.channel_eq, h'.represents.channel_eq]
  | @applied effect happlies hpermitted =>
      have hkind := happlies.changesChannel hpermitted
      cases hpermitted.channelEffect h.coherent with
      | quiet hmessages hchannels =>
          refine .quiet ?_ (by rw [hlog, hlog', hmessages, List.append_nil]) ?_
          · rw [← Bool.not_eq_true, hkind, hmessages]
            simp
          · intro channelId
            rw [h.represents.channel_eq, h'.represents.channel_eq, hchannels]
      | business hmessages hprincipal hchannels =>
          refine .business ?_ hprincipal (by rw [hlog, hlog', hmessages]) ?_
          · rw [← Bool.not_eq_true, hkind, hmessages]
            simpa using hprincipal
          · intro channelId
            rw [h.represents.channel_eq, h'.represents.channel_eq, hchannels]
      | @changed message channel hmessages hprincipal hid hchannels hreal =>
          refine .changed ?_ hprincipal hid (by rw [hlog, hlog', hmessages]) ?_ ?_
          · rw [hkind, hmessages]
            simpa using hprincipal
          · rw [h.represents.channel_eq, h'.represents.channel_eq, hchannels,
              Function.update_self]
            exact hreal.symm
          · intro channelId hother
            rw [h.represents.channel_eq, h'.represents.channel_eq, hchannels,
              Function.update_of_ne hother]

/-! ### Refused calls -/

theorem commitBatch_status (state : CoreState) (batch : WriteBatch) (outcome : CommitOutcome) :
    (commitBatch state batch outcome).2.isOk = true ∨
      (commitBatch state batch outcome).2.requiresServerExit = true := by
  cases outcome with
  | written => exact Or.inl rfl
  | failed applied status =>
      right
      rw [commitBatch_failed]
      simp [rocksToStatus, Status.fatal, Status.withStorageDiagnostic]

/-- A call whose batch was applied succeeded, or its commit failed. -/
theorem Server.step_applied_status {action : Action} {mutation : Mutation} {status : Status}
    {data : ResponseData}
    (h : server.step ext action = some (next, .mutation mutation true status data)) :
    status.isOk = true ∨ status.requiresServerExit = true := by
  obtain ⟨core, id, tsMs, env, _, _, hrun⟩ := Server.step_mutation_applied h
  obtain ⟨built, _, hends⟩ := Server.runMutation_ends hrun
  cases hends with
  | left happlied => cases happlied
  | committed _ hstatus _ _ =>
      rw [hstatus]
      exact commitBatch_status _ _ _

/-- A call that did not apply its batch left the database as it was. -/
theorem Sound.unchanged_of_not_applied (h : Sound ext server store log) {action : Action}
    {mutation : Mutation} {status : Status} {data : ResponseData}
    (hstep : server.step ext action = some (next, .mutation mutation false status data)) :
    next.db = server.db := by
  cases Server.step_effect h.represents h.coherent.valid h.calls hstep with
  | unchanged _ hdb => exact hdb
  | applied happlies _ _ => cases happlies

/-- What a call that only reads or is refused leaves behind: nothing. -/
structure RefusedCalls (before after : Db) (event : Event) : Prop where
  unchanged : ∀ mutation status data, event = .mutation mutation false status data → after = before
  refused : ∀ mutation applied status data, event = .mutation mutation applied status data →
    status.isOk = false → status.requiresServerExit = false → applied = false

/-- In every state that runs reach, replaying the system messages of a channel
gives the stored channel; and every step appends a system message exactly when
it changes a channel, namely the one that the message is in. -/
theorem channels_are_event_sourced (ext : Externals) {server : Server}
    (h : Reachable ext server) :
    (∀ channelId, channelId ≠ 0 →
      channelAt (server.db.log ext) channelId = server.db.channel ext channelId) ∧
    ∀ label next, Server.Step ext server label next →
      ChannelStep ext label.2 server.db next.db ∧ RefusedCalls server.db next.db label.2 := by
  obtain ⟨store, log, hsound⟩ := h.sound
  constructor
  · intro channelId hne
    rw [hsound.represents.log_eq hsound.coherent.logIndex, hsound.represents.channel_eq,
      hsound.coherent.channelIndex.channels channelId hne]
  · intro label next hstep
    obtain ⟨store', log', hsound', hadvances⟩ := hsound.step hstep
    refine ⟨hsound.channelStep hsound' hadvances, ?_, ?_⟩
    · intro mutation status data hevent
      exact hsound.unchanged_of_not_applied (hevent ▸ hstep.1)
    · intro mutation applied status data hevent hnotOk hnotFatal
      cases applied with
      | false => rfl
      | true =>
          rcases Server.step_applied_status (hevent ▸ hstep.1) with hok | hfatal
          · rw [hok] at hnotOk
            cases hnotOk
          · rw [hfatal] at hnotFatal
            cases hnotFatal

namespace Reference

/-- After the session principals 9 and 10 join its channel, and principal 8 leaves. -/
def memberChanges : List Action :=
  [.enterMutation 0 (.addMember ⟨7, credential, 1, 9⟩) 15,
   .runMutation 0 {},
   .enterMutation 0 (.addMember ⟨7, credential, 1, 10⟩) 16,
   .runMutation 0 {},
   .enterMutation 0 (.removeMember ⟨7, credential, 1, 8⟩) 17,
   .runMutation 0 {}]

theorem memberChanges_executes :
    (execute (Server.stepNoWrap externals) sessionServer memberChanges).any (fun found =>
      (found.2.db.channel externals 1).map (·.members) = some [7, 9, 10]) = true := by
  decide +kernel

end Reference

theorem session_channels_replay : ∃ server channel, Reachable Reference.externals server ∧
    channelAt (server.db.log Reference.externals) 1 = some channel ∧
      channel.members = [7, 9, 10] := by
  obtain ⟨found, hfound, hmembers⟩ := (Option.any_eq_true _ _).mp Reference.memberChanges_executes
  obtain ⟨channel, hchannel, hlist⟩ := Option.map_eq_some_iff.mp (of_decide_eq_true hmembers)
  have hrun := Reference.session_run.append (execute_run Server.stepNoWrap_step hfound)
  have hreachable : Reachable Reference.externals found.2 := ⟨5, _, hrun⟩
  have hreplay := (channels_are_event_sourced Reference.externals hreachable).1 1 (by decide)
  exact ⟨found.2, channel, hreachable, hreplay.trans hchannel, hlist⟩

/-! ### The origin of messages -/

/-- The step of the run that appended a message at `position`. -/
structure AppendedBy (ext : Externals) (eventMs : UInt64) (labels : List (Action × Event))
    (position : Nat) (message : EventMessage) (label : Action × Event) : Prop where
  step : ∃ first second before after, labels = first ++ label :: second ∧
    Run (Server.Step ext) (Server.initial ext eventMs) first before ∧
    Server.Step ext before label after ∧ (before.db.log ext).length = position ∧
    after.db.log ext = before.db.log ext ++ [message]

theorem AppendedBy.snoc {eventMs : UInt64} {labels : List (Action × Event)} {position : Nat}
    {message : EventMessage} {label : Action × Event}
    (h : AppendedBy ext eventMs labels position message label) (last : Action × Event) :
    AppendedBy ext eventMs (labels ++ [last]) position message label := by
  obtain ⟨first, second, before, after, rfl, hrest⟩ := h.step
  exact ⟨first, second ++ [last], before, after, by simp, hrest⟩

/-- A step that appends a message has an event of the message's kind. -/
theorem ChannelStep.changesChannel_iff {before after : Db} (h : ChannelStep ext event before after)
    {message : EventMessage} (happend : after.log ext = before.log ext ++ [message]) :
    event.changesChannel = true ↔ message.principal = 0 := by
  cases h with
  | quiet _ hlog _ =>
      rw [hlog] at happend
      simpa using congrArg List.length happend
  | @business found hevent hprincipal hlog _ =>
      rw [hlog] at happend
      obtain rfl : found = message := by simpa using happend
      simp [hevent, hprincipal]
  | @changed found hevent hprincipal _ hlog _ _ =>
      rw [hlog] at happend
      obtain rfl : found = message := by simpa using happend
      simp [hevent, hprincipal]

/-- Every message but the first was appended by a step of the run. -/
theorem run_origin {eventMs : UInt64} {labels : List (Action × Event)}
    (hrun : Run (Server.Step ext) (Server.initial ext eventMs) labels server) :
    ∃ store log, Sound ext server store log ∧ log[0]? = some (initializationMessage eventMs) ∧
      ∀ position message, log[position]? = some message → position ≠ 0 →
        ∃ label, AppendedBy ext eventMs labels position message label := by
  refine hrun.history (P := fun labels server => ∃ store log, Sound ext server store log ∧
    log[0]? = some (initializationMessage eventMs) ∧
      ∀ position message, log[position]? = some message → position ≠ 0 →
        ∃ label, AppendedBy ext eventMs labels position message label) ?_ ?_
  · refine ⟨_, _, initial_sound ext eventMs, rfl, ?_⟩
    intro position message hat hne
    have hlt := (List.getElem?_eq_some_iff.mp hat).1
    simp at hlt
    omega
  · rintro labels before label after hbefore ⟨store, log, hsound, hfirst, horigin⟩ hstep
    obtain ⟨store', log', hsound', hadvances⟩ := hsound.step hstep
    have hold (position : Nat) (message : EventMessage) (hat : log[position]? = some message)
        (hne : position ≠ 0) :
        ∃ found, AppendedBy ext eventMs (labels ++ [label]) position message found := by
      obtain ⟨found, happended⟩ := horigin position message hat hne
      exact ⟨found, happended.snoc label⟩
    have hchannel := hsound.channelStep hsound' hadvances
    have hlog := hsound.represents.log_eq hsound.coherent.logIndex
    have hlog' := hsound'.represents.log_eq hsound'.coherent.logIndex
    have hnew {message : EventMessage} (happend : log' = log ++ [message]) :
        log'[0]? = some (initializationMessage eventMs) ∧
          ∀ position found, log'[position]? = some found → position ≠ 0 →
            ∃ cause, AppendedBy ext eventMs (labels ++ [label]) position found cause := by
      subst happend
      refine ⟨getElem?_append_iff.mpr (Or.inl hfirst), ?_⟩
      intro position found hat hne
      rcases getElem?_append_iff.mp hat with hin | ⟨rfl, rfl⟩
      · exact hold position found hin hne
      · exact ⟨label, labels, [], before, after, rfl, hbefore, hstep, by rw [hlog],
          by rw [hlog, hlog']⟩
    refine ⟨store', log', hsound', ?_⟩
    cases hchannel with
    | quiet _ hsame _ =>
        rw [hlog, hlog'] at hsame
        subst hsame
        exact ⟨hfirst, hold⟩
    | business _ _ happend _ => exact hnew (by rwa [hlog, hlog'] at happend)
    | changed _ _ _ happend _ _ => exact hnew (by rwa [hlog, hlog'] at happend)

/-! ### Authorisation -/

/-- The channel of a business message, as the messages before it leave it,
lets its author write and has its recipients as members. -/
structure Authorised (earlier : List EventMessage) (message : EventMessage)
    (channel : ChannelInfo) : Prop where
  exists_then : channelAt earlier message.channelId = some channel
  writable : channel.visibility = .visibilityPublic ∨ message.principal ∈ channel.members
  recipients : ∀ recipient ∈ message.recipients, recipient ≠ 0 ∧ recipient ∈ channel.members

theorem canWrite_cases {channel : ChannelInfo} {principal : UInt64}
    (h : canWrite channel principal = true) :
    channel.visibility = .visibilityPublic ∨ principal ∈ channel.members := by
  unfold canWrite at h
  split at h
  · cases h
  · split at h
    · exact Or.inl ‹_›
    · exact Or.inr (by simpa [isMember] using h)

theorem LegalNext.authorised {message : EventMessage} (h : LegalNext log message)
    (hprincipal : message.principal ≠ 0) : ∃ channel, Authorised log message channel := by
  cases h with
  | @business channel _ _ hat hwrite hrecipients =>
      exact ⟨channel, hat, canWrite_cases hwrite, hrecipients⟩
  | start hzero _ _ _ _ => exact absurd hzero hprincipal
  | change hzero _ _ _ _ => exact absurd hzero hprincipal

/-- Every business message in the log of a run was allowed when it was
committed; every other message is the initialization message or was appended
by a step that created a channel or changed its members. -/
theorem messages_were_authorised (ext : Externals) {eventMs : UInt64}
    {labels : List (Action × Event)} {server : Server}
    (hrun : Run (Server.Step ext) (Server.initial ext eventMs) labels server)
    {seq : UInt64} {message : EventMessage} (hmessage : server.db.message ext seq = some message) :
    (message.principal ≠ 0 →
      ∃ channel, Authorised ((server.db.log ext).take seq.toNat) message channel) ∧
    (message.principal = 0 →
      (seq = 0 ∧ message = initializationMessage eventMs) ∨
        message.channelId ≠ 0 ∧ (∃ label, AppendedBy ext eventMs labels seq.toNat message label) ∧
          ∀ label, AppendedBy ext eventMs labels seq.toNat message label →
            label.2.changesChannel = true) := by
  obtain ⟨store, log, hsound, hfirst, horigin⟩ := run_origin hrun
  have hlog := hsound.represents.log_eq hsound.coherent.logIndex
  rw [hsound.represents.message_eq, hsound.coherent.logIndex.messages] at hmessage
  have hlegal := hsound.coherent.wellFormed.legal hmessage
  constructor
  · intro hprincipal
    rcases hlegal with ⟨_, tsMs, rfl⟩ | ⟨_, hnext⟩
    · exact absurd rfl hprincipal
    · rw [hlog]
      exact hnext.authorised hprincipal
  · intro hprincipal
    rcases hlegal with ⟨hzero, _⟩ | ⟨hpositive, hnext⟩
    · left
      rw [hzero, hfirst] at hmessage
      exact ⟨UInt64.toNat_inj.mp hzero, (Option.some.inj hmessage).symm⟩
    · refine Or.inr ⟨hnext.channelId_ne, horigin _ message hmessage hpositive, ?_⟩
      intro label happended
      obtain ⟨first, second, before, after, _, hbefore, hstep, _, happend⟩ := happended.step
      have hreachable : Reachable ext before := ⟨eventMs, first, hbefore⟩
      obtain ⟨earlier, earlierLog, hsoundBefore⟩ := hreachable.sound
      obtain ⟨_, _, hsoundAfter, hadvances⟩ := hsoundBefore.step hstep
      exact ((hsoundBefore.channelStep hsoundAfter hadvances).changesChannel_iff happend).mpr
        hprincipal

theorem session_message_authorised :
    ∃ channel, Authorised ((Reference.sessionServer.db.log Reference.externals).take 2)
      { seq := 2, channelId := 1, principal := 7, recipients := [8], payload := [1, 2], tsMs := 13,
        uuid := 1 } channel := by
  have hmessage : Reference.sessionServer.db.message Reference.externals 2 =
      some { seq := 2, channelId := 1, principal := 7, recipients := [8], payload := [1, 2],
             tsMs := 13, uuid := 1 } := by
    decide +kernel
  exact (messages_were_authorised Reference.externals Reference.session_run hmessage).1 (by decide)

end OpenEvent
