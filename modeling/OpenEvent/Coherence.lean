import OpenEvent.Effects
import OpenEvent.PayloadTexts

/-!
The invariant of the abstract store: its maps and counters are those that its
message log determines. Every permitted effect keeps it.
-/

namespace OpenEvent

open OpenEventCore

theorem UInt64.toNat_add_one {value : UInt64} (h : value + 1 ≠ 0) :
    (value + 1).toNat = value.toNat + 1 := by
  have hlt := value.toNat_lt
  have hne : (value + 1).toNat ≠ 0 := fun heq => h (UInt64.toNat_inj.mp heq)
  rw [UInt64.toNat_add] at hne ⊢
  simp at hne ⊢
  omega

/-- The messages and the uuid index are those of the log. -/
structure LogIndex (store : Store) (log : List EventMessage) : Prop where
  maxSeq : store.maxSeq.toNat + 1 = log.length
  messages : ∀ seq, store.messages seq = log[seq.toNat]?
  uuids : ∀ uuid seq, store.usedUuids uuid = some seq ↔
    ∃ message, log[seq.toNat]? = some message ∧ message.uuid = uuid
  uuid_lt : ∀ message ∈ log, message.uuid < store.nextUuid

/-- The channels are those that the log replays to, under consecutive ids. -/
structure ChannelIndex (store : Store) (log : List EventMessage) : Prop where
  nextChannelId : store.nextChannelId ≠ 0
  channels : ∀ channelId, channelId ≠ 0 → store.channels channelId = channelAt log channelId
  channels_iff : ∀ channelId, (store.channels channelId).isSome ↔
    channelId ≠ 0 ∧ channelId < store.nextChannelId
  channelId_lt : ∀ message ∈ log, message.channelId < store.nextChannelId
  message_channel : ∀ message ∈ log, message.seq ≠ 0 → message.channelId ≠ 0

/-- The objects that messages refer to are committed, and no id is used twice. -/
structure ObjectIndex (store : Store) (log : List EventMessage) : Prop where
  nextObjectId : store.nextObjectId ≠ 0
  objectId_lt : ∀ key object, store.object key = some object → key.objectId < store.nextObjectId
  disjoint : ∀ objectId, store.preparing objectId ≠ none → store.committed objectId = none
  references : ∀ message ∈ log, ∀ key ∈ message.objectKeys, ∃ object,
    store.committed key.objectId = some object ∧ object.objectToken = key.objectToken

structure Coherent (ext : Externals) (store : Store) (log : List EventMessage) : Prop where
  logIndex : LogIndex store log
  channelIndex : ChannelIndex store log
  objectIndex : ObjectIndex store log
  wellFormed : WellFormedLog log
  tokens : ∀ principal token, store.tokens principal token = true → principal ≠ 0 ∧ token ≠ []
  valid : store.Valid ext

variable {ext : Externals} {store : Store} {log : List EventMessage}

theorem Coherent.nextUuid_ne (h : Coherent ext store log) : store.nextUuid ≠ 0 := by
  intro hzero
  obtain ⟨message, hmessage⟩ : ∃ message, message ∈ log := by
    have hlength := h.logIndex.maxSeq
    exact List.exists_mem_of_length_pos (by omega)
  have hlt := h.logIndex.uuid_lt message hmessage
  rw [hzero] at hlt
  exact UInt64.not_lt_zero hlt

/-! ### The log and its index -/

section Append

variable {message : EventMessage}

theorem LogIndex.seq_toNat (h : LogIndex store log) (hnext : NextMessage store message) :
    message.seq.toNat = log.length := by
  rw [hnext.seq_eq, UInt64.toNat_add_one (hnext.seq_eq ▸ hnext.seq_ne), h.maxSeq]

/-- The index after a message whose uuid was not in use. -/
theorem LogIndex.append {store' : Store} (h : LogIndex store log)
    (hnext : NextMessage store message) (hunused : store.usedUuids message.uuid = none)
    (hmaxSeq : store'.maxSeq = message.seq)
    (hmessages : store'.messages = (store.putMessage message).messages)
    (huuids : store'.usedUuids = (store.putUsedUuid message.uuid message.seq).usedUuids)
    (hnextUuid : store.nextUuid ≤ store'.nextUuid) (hlt : message.uuid < store'.nextUuid) :
    LogIndex store' (log ++ [message]) where
  maxSeq := by rw [hmaxSeq, h.seq_toNat hnext]; simp
  messages seq := by
    rw [hmessages]
    apply Option.ext
    intro found
    rw [getElem?_append_iff, ← h.messages seq, ← h.seq_toNat hnext]
    by_cases hseq : seq = message.seq
    · subst hseq
      have hnone : store.messages message.seq = none := by
        rw [h.messages, h.seq_toNat hnext]
        simp
      simp [Store.putMessage, hnone]
    · have hne : seq.toNat ≠ message.seq.toNat := fun heq => hseq (UInt64.toNat_inj.mp heq)
      simp [Store.putMessage, hseq, hne]
  uuids uuid seq := by
    rw [huuids]
    simp only [Store.putUsedUuid, getElem?_append_iff, ← h.seq_toNat hnext, UInt64.toNat_inj]
    by_cases huuid : uuid = message.uuid
    · subst huuid
      have habsent : ¬ ∃ found, log[seq.toNat]? = some found ∧ found.uuid = message.uuid := by
        rw [← h.uuids message.uuid seq, hunused]
        simp
      constructor
      · intro hseq
        exact ⟨message, Or.inr ⟨by simpa [eq_comm] using hseq, rfl⟩, rfl⟩
      · rintro ⟨found, hfound | ⟨hseq, rfl⟩, huuid⟩
        · exact absurd ⟨found, hfound, huuid⟩ habsent
        · simp [hseq]
    · rw [Function.update_of_ne huuid, h.uuids]
      constructor
      · rintro ⟨found, hfound, hfoundUuid⟩
        exact ⟨found, Or.inl hfound, hfoundUuid⟩
      · rintro ⟨found, hfound | ⟨_, rfl⟩, hfoundUuid⟩
        · exact ⟨found, hfound, hfoundUuid⟩
        · exact absurd hfoundUuid.symm huuid
  uuid_lt found hfound := by
    rcases List.mem_append.mp hfound with hold | hnew
    · exact UInt64.lt_of_lt_of_le (h.uuid_lt found hold) hnextUuid
    · obtain rfl := List.mem_singleton.mp hnew
      exact hlt

/-- A change that leaves messages and index alone may only raise `nextUuid`. -/
theorem LogIndex.frame {store' : Store} (h : LogIndex store log)
    (hmaxSeq : store'.maxSeq = store.maxSeq) (hmessages : store'.messages = store.messages)
    (huuids : store'.usedUuids = store.usedUuids) (hnextUuid : store.nextUuid ≤ store'.nextUuid) :
    LogIndex store' log where
  maxSeq := by rw [hmaxSeq, h.maxSeq]
  messages := by rw [hmessages]; exact h.messages
  uuids := by rw [huuids]; exact h.uuids
  uuid_lt message hmessage := UInt64.lt_of_lt_of_le (h.uuid_lt message hmessage) hnextUuid

end Append

/-! ### Channels -/

section Channels

variable {store' : Store} {message : EventMessage} {channel : ChannelInfo}

theorem ChannelIndex.frame (h : ChannelIndex store log)
    (hchannels : store'.channels = store.channels)
    (hnext : store'.nextChannelId = store.nextChannelId) : ChannelIndex store' log where
  nextChannelId := by rw [hnext]; exact h.nextChannelId
  channels := by rw [hchannels]; exact h.channels
  channels_iff := by rw [hchannels, hnext]; exact h.channels_iff
  channelId_lt := by rw [hnext]; exact h.channelId_lt
  message_channel := h.message_channel

theorem ChannelIndex.lt_of_some (h : ChannelIndex store log) {channelId : UInt64}
    (hchannel : store.channels channelId = some channel) :
    channelId ≠ 0 ∧ channelId < store.nextChannelId :=
  (h.channels_iff channelId).mp (by simp [hchannel])

/-- A message of an existing channel that replays to the channel as it is now. -/
private theorem ChannelIndex.append (h : ChannelIndex store log)
    (hnext : store'.nextChannelId = store.nextChannelId)
    (hchannel : store.channels message.channelId = some channel)
    (hsome : ∀ channelId, (store'.channels channelId).isSome = (store.channels channelId).isSome)
    (hat : ∀ channelId, channelId ≠ 0 →
      store'.channels channelId = channelAt (log ++ [message]) channelId) :
    ChannelIndex store' (log ++ [message]) := by
  obtain ⟨hne, hlt⟩ := h.lt_of_some hchannel
  refine ⟨by rw [hnext]; exact h.nextChannelId, hat, ?_, ?_, ?_⟩
  · intro channelId
    rw [hsome, hnext]
    exact h.channels_iff channelId
  · intro found hfound
    rw [hnext]
    rcases List.mem_append.mp hfound with hold | hnew
    · exact h.channelId_lt found hold
    · obtain rfl := List.mem_singleton.mp hnew
      exact hlt
  · intro found hfound hseq
    rcases List.mem_append.mp hfound with hold | hnew
    · exact h.message_channel found hold hseq
    · obtain rfl := List.mem_singleton.mp hnew
      exact hne

theorem ChannelIndex.appendBusiness (h : ChannelIndex store log)
    (hchannels : store'.channels = store.channels)
    (hnext : store'.nextChannelId = store.nextChannelId)
    (hchannel : store.channels message.channelId = some channel)
    (hprincipal : message.principal ≠ 0) : ChannelIndex store' (log ++ [message]) := by
  refine h.append hnext hchannel (fun channelId => by rw [hchannels]) ?_
  intro channelId hne
  rw [hchannels, channelAt_append_of_other (Or.inr hprincipal)]
  exact h.channels channelId hne

theorem ChannelIndex.appendChange (h : ChannelIndex store log) {before : ChannelInfo}
    {event : ChannelEvent} (hchannels : store'.channels = (store.putChannel channel).channels)
    (hnext : store'.nextChannelId = store.nextChannelId)
    (hbefore : store.channels message.channelId = some before)
    (hid : channel.channelId = message.channelId) (hprincipal : message.principal = 0)
    (hevent : decodeChannelEvent message.payload = some event)
    (hchange : changeChannel before event = some channel) :
    ChannelIndex store' (log ++ [message]) := by
  have hne := (h.lt_of_some hbefore).1
  refine h.append hnext hbefore ?_ ?_
  · intro channelId
    rw [hchannels]
    by_cases heq : channelId = channel.channelId
    · subst heq
      simp [Store.putChannel, hid, hbefore]
    · simp [Store.putChannel, heq]
  · intro channelId hzero
    rw [hchannels]
    by_cases heq : channelId = message.channelId
    · subst heq
      rw [channelAt_append_change ((h.channels _ hne).symm.trans hbefore) rfl hprincipal hevent
        hchange]
      simp [Store.putChannel, hid]
    · rw [channelAt_append_of_other (Or.inl (fun hsame => heq hsame.symm)), ← h.channels _ hzero]
      simp [Store.putChannel, hid, heq]

theorem ChannelIndex.no_messages (h : ChannelIndex store log) {message : EventMessage}
    (hmessage : message ∈ log) : message.channelId ≠ store.nextChannelId := by
  intro heq
  have hlt := h.channelId_lt message hmessage
  rw [heq] at hlt
  exact UInt64.lt_irrefl _ hlt

theorem ChannelIndex.appendStart (h : ChannelIndex store log) {event : ChannelEvent}
    (hchannels : store'.channels = (store.putChannel channel).channels)
    (hnext : store'.nextChannelId = store.nextChannelId + 1)
    (hmono : store.nextChannelId ≤ store'.nextChannelId)
    (hid : channel.channelId = store.nextChannelId) (hmessage : message.channelId = channel.channelId)
    (hprincipal : message.principal = 0)
    (hevent : decodeChannelEvent message.payload = some event)
    (hstart : startChannel channel.channelId event = some channel) :
    ChannelIndex store' (log ++ [message]) := by
  have hwrap : store.nextChannelId + 1 ≠ 0 := by
    intro hzero
    rw [hnext, hzero] at hmono
    exact h.nextChannelId (UInt64.le_zero_iff.mp hmono)
  have hsucc : ∀ channelId : UInt64, channelId < store'.nextChannelId ↔
      channelId < store.nextChannelId ∨ channelId = store.nextChannelId := by
    intro channelId
    rw [hnext, UInt64.lt_iff_toNat_lt, UInt64.lt_iff_toNat_lt, ← UInt64.toNat_inj,
      UInt64.toNat_add_one hwrap]
    omega
  refine ⟨by rw [hnext]; exact hwrap, ?_, ?_, ?_, ?_⟩
  · intro channelId hzero
    rw [hchannels]
    by_cases heq : channelId = channel.channelId
    · subst heq
      have hnew : systemMessages channel.channelId log = [] := by
        rw [systemMessages, List.filter_eq_nil_iff]
        intro found hfound
        simp [hid, h.no_messages hfound]
      rw [channelAt_append_start hnew hmessage hprincipal hevent hstart]
      simp [Store.putChannel]
    · rw [channelAt_append_of_other (Or.inl (fun hsame => heq (hsame.symm.trans hmessage))),
        ← h.channels _ hzero]
      simp [Store.putChannel, heq]
  · intro channelId
    rw [hchannels, hsucc]
    by_cases heq : channelId = channel.channelId
    · subst heq
      simp [Store.putChannel, hid, h.nextChannelId]
    · have hne : channelId ≠ store.nextChannelId := fun hsame => heq (hsame.trans hid.symm)
      simpa [Store.putChannel, heq, hne] using h.channels_iff channelId
  · intro found hfound
    rw [hsucc]
    rcases List.mem_append.mp hfound with hold | hlast
    · exact Or.inl (h.channelId_lt found hold)
    · obtain rfl := List.mem_singleton.mp hlast
      exact Or.inr (hmessage.trans hid)
  · intro found hfound hseq
    rcases List.mem_append.mp hfound with hold | hlast
    · exact h.message_channel found hold hseq
    · obtain rfl := List.mem_singleton.mp hlast
      rw [hmessage, hid]
      exact h.nextChannelId

end Channels

/-! ### Objects -/

section Objects

variable {store' : Store} {object : StoredObject}

theorem ObjectIndex.frame (h : ObjectIndex store log) (hpreparing : store'.preparing = store.preparing)
    (hcommitted : store'.committed = store.committed)
    (hnext : store'.nextObjectId = store.nextObjectId) : ObjectIndex store' log where
  nextObjectId := by rw [hnext]; exact h.nextObjectId
  objectId_lt key object hobject := by
    rw [hnext]
    refine h.objectId_lt key object ?_
    cases key with
    | preparing objectId => rwa [Store.object, hpreparing] at hobject
    | committed objectId => rwa [Store.object, hcommitted] at hobject
  disjoint := by rw [hpreparing, hcommitted]; exact h.disjoint
  references := by rw [hcommitted]; exact h.references

theorem ObjectIndex.append (h : ObjectIndex store log) {message : EventMessage}
    (hkeys : ∀ key ∈ message.objectKeys, ∃ object,
      store.committed key.objectId = some object ∧ object.objectToken = key.objectToken) :
    ObjectIndex store (log ++ [message]) :=
  { h with
    references := by
      intro found hfound
      rcases List.mem_append.mp hfound with hold | hlast
      · exact h.references found hold
      · obtain rfl := List.mem_singleton.mp hlast
        exact hkeys }

theorem ObjectIndex.prepare (h : ObjectIndex store log) (hid : object.objectId = store.nextObjectId)
    (hmono : store.nextObjectId ≤ object.objectId + 1) :
    ObjectIndex (store.apply (.prepareObject object)) log := by
  have hwrap : object.objectId + 1 ≠ 0 := by
    intro hzero
    rw [hzero] at hmono
    exact h.nextObjectId (UInt64.le_zero_iff.mp hmono)
  have hlt : object.objectId < object.objectId + 1 := by
    rw [UInt64.lt_iff_toNat_lt, UInt64.toNat_add_one hwrap]
    omega
  have hfresh : store.committed object.objectId = none := by
    cases hcommitted : store.committed object.objectId with
    | none => rfl
    | some stored =>
        have hbelow := h.objectId_lt (.committed object.objectId) stored hcommitted
        rw [← hid] at hbelow
        exact absurd hbelow (UInt64.lt_irrefl _)
  refine ⟨hwrap, ?_, ?_, h.references⟩
  · intro key found hfound
    change key.objectId < object.objectId + 1
    cases key with
    | preparing objectId =>
        by_cases heq : objectId = object.objectId
        · subst heq
          exact hlt
        · have hold : store.preparing objectId = some found := by
            simpa [Store.object, Store.apply, Store.setPreparing, heq] using hfound
          refine UInt64.lt_of_lt_of_le (h.objectId_lt (.preparing objectId) found hold) ?_
          exact hmono
    | committed objectId =>
        exact UInt64.lt_of_lt_of_le (h.objectId_lt (.committed objectId) found hfound) hmono
  · intro objectId hpreparing
    change store.committed objectId = none
    by_cases heq : objectId = object.objectId
    · rw [heq]
      exact hfresh
    · refine h.disjoint objectId ?_
      simpa [Store.apply, Store.setPreparing, heq] using hpreparing

theorem ObjectIndex.commit (h : ObjectIndex store log)
    (hprepared : store.preparing object.objectId = some object) :
    ObjectIndex (store.apply (.commitObject object)) log := by
  have hfresh : store.committed object.objectId = none := h.disjoint _ (by simp [hprepared])
  refine ⟨h.nextObjectId, ?_, ?_, ?_⟩
  · intro key found hfound
    change key.objectId < store.nextObjectId
    cases key with
    | preparing objectId =>
        by_cases heq : objectId = object.objectId
        · simp [Store.object, Store.apply, Store.setPreparing, Store.setCommitted, heq] at hfound
        · refine h.objectId_lt (.preparing objectId) found ?_
          simpa [Store.object, Store.apply, Store.setPreparing, Store.setCommitted, heq] using hfound
    | committed objectId =>
        by_cases heq : objectId = object.objectId
        · subst heq
          exact h.objectId_lt (.preparing object.objectId) object hprepared
        · refine h.objectId_lt (.committed objectId) found ?_
          simpa [Store.object, Store.apply, Store.setPreparing, Store.setCommitted, heq] using hfound
  · intro objectId hpreparing
    by_cases heq : objectId = object.objectId
    · simp [Store.apply, Store.setPreparing, Store.setCommitted, heq] at hpreparing
    · have hold : store.preparing objectId ≠ none := by
        simpa [Store.apply, Store.setPreparing, Store.setCommitted, heq] using hpreparing
      simpa [Store.apply, Store.setPreparing, Store.setCommitted, heq] using h.disjoint objectId hold
  · intro message hmessage key hkey
    obtain ⟨stored, hstored, htoken⟩ := h.references message hmessage key hkey
    have hne : key.objectId ≠ object.objectId := by
      intro heq
      simp [heq, hfresh] at hstored
    exact ⟨stored, by simpa [Store.apply, Store.setPreparing, Store.setCommitted, hne] using hstored,
      htoken⟩

theorem Store.discard_preparing (store : Store) (objectIds : List UInt64) (objectId : UInt64) :
    (store.apply (.discardObjects objectIds)).preparing objectId =
      if objectId ∈ objectIds then none else store.preparing objectId := by
  simp only [Store.apply]
  induction objectIds generalizing store with
  | nil => simp
  | cons first rest ih =>
      rw [List.foldl_cons, ih]
      by_cases hrest : objectId ∈ rest
      · simp [hrest]
      · by_cases heq : objectId = first
        · simp [heq, Store.setPreparing]
        · simp [hrest, heq, Store.setPreparing]

/-- Discarding objects changes PREPARING records only. -/
theorem Store.discard_frame (store : Store) (objectIds : List UInt64) :
    store.apply (.discardObjects objectIds) =
      { store with preparing := (store.apply (.discardObjects objectIds)).preparing } := by
  simp only [Store.apply]
  induction objectIds generalizing store with
  | nil => rfl
  | cons first rest ih =>
      rw [List.foldl_cons, ih]
      rfl

theorem ObjectIndex.discard (h : ObjectIndex store log) (objectIds : List UInt64) :
    ObjectIndex (store.apply (.discardObjects objectIds)) log := by
  have hpreparing := store.discard_preparing objectIds
  rw [store.discard_frame objectIds]
  refine ⟨h.nextObjectId, ?_, ?_, h.references⟩
  · intro key found hfound
    cases key with
    | preparing objectId =>
        refine h.objectId_lt (.preparing objectId) found ?_
        simp only [Store.object, hpreparing] at hfound
        split_ifs at hfound
        exact hfound
    | committed objectId => exact h.objectId_lt (.committed objectId) found hfound
  · intro objectId hsome
    refine h.disjoint objectId ?_
    simp only [hpreparing] at hsome
    split_ifs at hsome
    · exact absurd rfl hsome
    · exact hsome

end Objects

/-! ### Records that readers accept -/

section Records

variable {message : EventMessage} {channel : ChannelInfo}

theorem Store.Valid.putMessage (h : store.Valid ext)
    (hreserved : validReservedFields ext message.seq message = true)
    (hreferences : validObjectReferences message = true) (seq : UInt64) (found : EventMessage)
    (hfound : (store.putMessage message).messages seq = some found) :
    found.seq = seq ∧ validReservedFields ext seq found = true ∧
      validObjectReferences found = true := by
  by_cases hseq : seq = message.seq
  · subst hseq
    obtain rfl : message = found := by simpa [Store.putMessage] using hfound
    exact ⟨rfl, hreserved, hreferences⟩
  · exact h.message seq found (by simpa [Store.putMessage, hseq] using hfound)

theorem Store.Valid.putUsedUuid (h : store.Valid ext) {used usedSeq : UInt64}
    (hzero : used = 0 ↔ usedSeq = 0) (uuid seq : UInt64)
    (hfound : (store.putUsedUuid used usedSeq).usedUuids uuid = some seq) :
    uuid = 0 ↔ seq = 0 := by
  by_cases huuid : uuid = used
  · subst huuid
    obtain rfl : usedSeq = seq := by simpa [Store.putUsedUuid] using hfound
    exact hzero
  · exact h.uuid uuid seq (by simpa [Store.putUsedUuid, huuid] using hfound)

theorem Store.Valid.putChannel (h : store.Valid ext)
    (hstored : validStoredChannel ext channel = true) (channelId : UInt64) (found : ChannelInfo)
    (hfound : (store.putChannel channel).channels channelId = some found) :
    found.channelId = channelId ∧ validStoredChannel ext found = true := by
  by_cases hid : channelId = channel.channelId
  · subst hid
    obtain rfl : channel = found := by simpa [Store.putChannel] using hfound
    exact ⟨rfl, hstored⟩
  · exact h.channel channelId found (by simpa [Store.putChannel, hid] using hfound)

private theorem reserved_business (hallowed : PublishAllowed store message) :
    validReservedFields ext message.seq message = true := by
  obtain ⟨channel, _, _, hrecipients⟩ := hallowed.channel
  have hzero : (0 : UInt64) ∉ message.recipients := fun hmem => (hrecipients 0 hmem).1 rfl
  simp [validReservedFields, hallowed.seq_ne, hallowed.uuid_ne, hallowed.channelId_ne,
    hallowed.principal_ne, hzero]

private theorem references_business (h : store.Valid ext) (hallowed : PublishAllowed store message) :
    validObjectReferences message = true := by
  have hkeys : ∀ key ∈ message.objectKeys,
      key.objectId ≠ 0 ∧ isBase64UrlToken key.objectToken = true := by
    intro key hkey
    obtain ⟨object, hobject, htoken⟩ := hallowed.objectKeys key hkey
    have hvalid := h.object (.committed key.objectId) object hobject
    exact ⟨hvalid.objectId_ne, by rw [← htoken]; exact hvalid.token⟩
  simp only [validObjectReferences, Bool.not_eq_true', Bool.or_eq_false_iff, decide_eq_false_iff_not,
    not_lt, List.any_eq_false, Bool.or_eq_true, decide_eq_true_eq, Bool.not_eq_true']
  refine ⟨hallowed.objectKeys_le, ?_⟩
  intro key hkey hbad
  rcases hbad with hzero | htoken
  · exact (hkeys key hkey).1 hzero
  · rw [(hkeys key hkey).2] at htoken
    cases htoken

private theorem reserved_system (hsystem : SystemMessage store channel message)
    (hne : channel.channelId ≠ 0) (hpayload : validChannelSystemMessage ext message = true) :
    validReservedFields ext message.seq message = true := by
  have hid : message.channelId ≠ 0 := by rw [hsystem.channelId_eq]; exact hne
  simp [validReservedFields, hsystem.seq_ne, hsystem.uuid_ne, hid, hpayload, hsystem.recipients_eq]

private theorem references_system (hsystem : SystemMessage store channel message) :
    validObjectReferences message = true := by
  simp [validObjectReferences, hsystem.objectKeys_eq]

private theorem NewChannel.stored (hnew : NewChannel store channel)
    (hne : channel.channelId ≠ 0) : validStoredChannel ext channel = true := by
  obtain ⟨creator, hcreator, hzero, hmember⟩ := hnew.creator
  have hvisible := ext.visibility_declared channel.visibility hnew.visibility
  simp [validStoredChannel, hne, hcreator, hzero, hmember, hnew.name_ne, hnew.name_le,
    hnew.protocol_le, hnew.description_le, hvisible, hnew.members_ne]

private theorem MemberChange.stored {before : ChannelInfo} {payload : Bytes}
    (hchange : MemberChange before channel payload)
    (hstored : validStoredChannel ext before = true) : validStoredChannel ext channel = true := by
  simp only [validStoredChannel, Bool.and_eq_true] at hstored ⊢
  obtain ⟨⟨⟨⟨⟨⟨⟨hid, hcreator⟩, hname⟩, hnameLe⟩, hprotocol⟩, hdescription⟩, hvisible⟩, hzero⟩ := hstored
  cases hchange with
  | @added target htarget hnot =>
      refine ⟨⟨⟨⟨⟨⟨⟨hid, ?_⟩, hname⟩, hnameLe⟩, hprotocol⟩, hdescription⟩, hvisible⟩, ?_⟩
      · cases hsome : before.creator with
        | none => simp [hsome] at hcreator
        | some creator =>
            have hboth : creator ≠ 0 ∧ creator ∈ before.members := by simpa [hsome] using hcreator
            simp [hboth.1, hboth.2]
      · simpa [htarget.symm] using hzero
  | @removed target htarget hmember hother =>
      refine ⟨⟨⟨⟨⟨⟨⟨hid, ?_⟩, hname⟩, hnameLe⟩, hprotocol⟩, hdescription⟩, hvisible⟩, ?_⟩
      · cases hsome : before.creator with
        | none => simp [hsome] at hcreator
        | some creator =>
            have hboth : creator ≠ 0 ∧ creator ∈ before.members := by simpa [hsome] using hcreator
            have hne : creator ≠ target := fun heq => hother (by rw [hsome, heq])
            simp [hboth.1, (List.mem_erase_of_ne hne).mpr hboth.2]
      · have habsent : (0 : UInt64) ∉ before.members := by simpa using hzero
        simpa using fun hmem => habsent (List.mem_of_mem_erase hmem)

private theorem MemberChange.event {before : ChannelInfo} {payload : Bytes}
    (hchange : MemberChange before channel payload) :
    ∃ event, decodeChannelEvent payload = some event ∧
      changeChannel before event = some channel := by
  cases hchange with
  | added htarget hnot => exact ⟨_, decode_memberAdded _, by simp [changeChannel, hnot]⟩
  | removed htarget hmember hother =>
      exact ⟨_, decode_memberRemoved _, by simp [changeChannel, hmember]⟩

private theorem MemberChange.payload_valid {before : ChannelInfo}
    (hchange : MemberChange before channel message.payload)
    (hsystem : SystemMessage store channel message) :
    validChannelSystemMessage ext message = true := by
  generalize hpayload : message.payload = payload at hchange
  cases hchange with
  | added htarget hnot =>
      exact validChannelSystemMessage_memberChanged hsystem.recipients_eq hsystem.objectKeys_eq
        (Or.inl rfl) hpayload htarget
  | removed htarget hmember hother =>
      exact validChannelSystemMessage_memberChanged hsystem.recipients_eq hsystem.objectKeys_eq
        (Or.inr rfl) hpayload htarget

theorem MemberChange.channelId_eq {before : ChannelInfo} {payload : Bytes}
    (hchange : MemberChange before channel payload) : channel.channelId = before.channelId := by
  cases hchange <;> rfl

private theorem NewChannel.start (hnew : NewChannel store channel) :
    ∃ event, decodeChannelEvent (channelInitializedPayload channel) = some event ∧
      startChannel channel.channelId event = some channel := by
  obtain ⟨creator, hcreator, _, hmember⟩ := hnew.creator
  refine ⟨_, decode_channelInitialized channel hcreator (List.ne_nil_of_mem hmember)
    hnew.visibility, ?_⟩
  rw [startChannel, ← hcreator]

end Records

/-! ### Effects keep the invariant -/

theorem LogIndex.unused (h : LogIndex store log) {uuid : UInt64}
    (huuid : ¬ uuid < store.nextUuid) : store.usedUuids uuid = none := by
  cases hused : store.usedUuids uuid with
  | none => rfl
  | some seq =>
      obtain ⟨found, hfound, rfl⟩ := (h.uuids uuid seq).mp hused
      exact absurd (h.uuid_lt found (List.mem_of_getElem? hfound)) huuid

private theorem lt_add_one {value : UInt64} (h : value + 1 ≠ 0) : value < value + 1 := by
  rw [UInt64.lt_iff_toNat_lt, UInt64.toNat_add_one h]
  omega

private theorem Coherent.publish (h : Coherent ext store log) {message : EventMessage}
    (hallowed : PublishAllowed store message) :
    Coherent ext (store.apply (.publish message)) (log ++ [message]) := by
  obtain ⟨channel, hchannel, hwrite, hrecipients⟩ := hallowed.channel
  have hnext := hallowed.toNextMessage
  have hat := (h.channelIndex.channels _ hallowed.channelId_ne).symm.trans hchannel
  refine ⟨?_, ?_, ?_, ?_, h.tokens, ?_⟩
  · exact h.logIndex.append hnext hallowed.uuid_unused rfl rfl rfl (UInt64.le_refl _)
      hallowed.uuid_lt
  · exact h.channelIndex.appendBusiness rfl rfl hchannel hallowed.principal_ne
  · exact (h.objectIndex.append hallowed.objectKeys).frame rfl rfl rfl
  · exact .append h.wellFormed (h.logIndex.seq_toNat hnext) (.business hallowed.principal_ne
      hallowed.channelId_ne hat hwrite hrecipients)
  · exact ⟨h.valid.channel, fun key object hobject => h.valid.object key object (by
        cases key <;> exact hobject),
      h.valid.putMessage (reserved_business hallowed) (references_business h.valid hallowed),
      h.valid.putUsedUuid (iff_of_false hnext.uuid_ne hnext.seq_ne)⟩

/-- The parts of the invariant that both kinds of channel messages keep alike. -/
private theorem Coherent.system (h : Coherent ext store log) {channel : ChannelInfo}
    {message : EventMessage} (hsystem : SystemMessage store channel message)
    (hne : channel.channelId ≠ 0) (hstored : validStoredChannel ext channel = true)
    (hpayload : validChannelSystemMessage ext message = true) :
    LogIndex (store.appendChange channel message) (log ++ [message]) ∧
      ObjectIndex (store.appendChange channel message) (log ++ [message]) ∧
      (store.appendChange channel message).Valid ext := by
  have hnext := hsystem.toNextMessage
  have hlt := lt_add_one hsystem.uuid_next
  have hunused : store.usedUuids message.uuid = none := by
    rw [hsystem.uuid_eq]
    exact h.logIndex.unused (UInt64.lt_irrefl _)
  refine ⟨?_, ?_, ?_⟩
  · refine h.logIndex.append hnext hunused rfl rfl rfl ?_ hlt
    change store.nextUuid ≤ message.uuid + 1
    rw [← hsystem.uuid_eq]
    exact UInt64.le_of_lt hlt
  · have hkeys : ∀ key ∈ message.objectKeys, ∃ object,
        store.committed key.objectId = some object ∧ object.objectToken = key.objectToken := by
      simp [hsystem.objectKeys_eq]
    exact (h.objectIndex.append hkeys).frame rfl rfl rfl
  · exact ⟨h.valid.putChannel hstored, fun key object hobject => h.valid.object key object (by
        cases key <;> exact hobject),
      h.valid.putMessage (reserved_system hsystem hne hpayload) (references_system hsystem),
      h.valid.putUsedUuid (iff_of_false hnext.uuid_ne hnext.seq_ne)⟩

private theorem Coherent.createChannel (h : Coherent ext store log) {channel : ChannelInfo}
    {message : EventMessage} (hnew : NewChannel store channel)
    (hsystem : SystemMessage store channel message)
    (hpayload : message.payload = channelInitializedPayload channel)
    (hwrap : store.nextChannelId ≤ channel.channelId + 1) :
    Coherent ext (store.apply (.createChannel channel message)) (log ++ [message]) := by
  have hne : channel.channelId ≠ 0 := by
    rw [hnew.channelId_eq]
    exact h.channelIndex.nextChannelId
  obtain ⟨creator, hcreator, hzero, hmember⟩ := hnew.creator
  obtain ⟨event, hevent, hstart⟩ := hnew.start
  rw [← hpayload] at hevent
  obtain ⟨hlog, hobjects, hvalid⟩ := h.system hsystem hne (hnew.stored hne)
    (validChannelSystemMessage_initialized hsystem.recipients_eq hsystem.objectKeys_eq hpayload
      hcreator hzero (List.ne_nil_of_mem hmember) hnew.members_ne)
  refine ⟨hlog.frame rfl rfl rfl (UInt64.le_refl _), ?_, hobjects.frame rfl rfl rfl, ?_, h.tokens, ?_⟩
  · exact h.channelIndex.appendStart rfl (congrArg (· + 1) hnew.channelId_eq) hwrap
      hnew.channelId_eq hsystem.channelId_eq hsystem.principal_eq hevent hstart
  · refine .append h.wellFormed (h.logIndex.seq_toNat hsystem.toNextMessage) (.start
      hsystem.principal_eq (by rw [hsystem.channelId_eq]; exact hne) ?_ hevent
      (by rw [hsystem.channelId_eq]; exact hstart))
    intro other hother
    rw [hsystem.channelId_eq, hnew.channelId_eq]
    exact h.channelIndex.no_messages hother
  · exact ⟨hvalid.channel, fun key object hobject => hvalid.object key object (by
      cases key <;> exact hobject), hvalid.message, hvalid.uuid⟩

private theorem Coherent.changeMembers (h : Coherent ext store log) {before channel : ChannelInfo}
    {message : EventMessage} (hbefore : store.channels before.channelId = some before)
    (hchange : MemberChange before channel message.payload)
    (hsystem : SystemMessage store channel message) :
    Coherent ext (store.apply (.changeMembers channel message)) (log ++ [message]) := by
  have hid := hchange.channelId_eq
  have hmessage : message.channelId = before.channelId := hsystem.channelId_eq.trans hid
  have hne : before.channelId ≠ 0 := (h.channelIndex.lt_of_some hbefore).1
  have hstored := (h.valid.channel _ _ hbefore).2
  obtain ⟨event, hevent, hchanged⟩ := hchange.event
  obtain ⟨hlog, hobjects, hvalid⟩ := h.system hsystem (by rw [hid]; exact hne)
    (hchange.stored hstored) (hchange.payload_valid hsystem)
  rw [← hmessage] at hbefore hne
  refine ⟨hlog, ?_, hobjects, ?_, h.tokens, hvalid⟩
  · exact h.channelIndex.appendChange rfl rfl hbefore hsystem.channelId_eq.symm
      hsystem.principal_eq hevent hchanged
  · exact .append h.wellFormed (h.logIndex.seq_toNat hsystem.toNextMessage) (.change
      hsystem.principal_eq hne ((h.channelIndex.channels _ hne).symm.trans hbefore) hevent hchanged)

/-- An effect that appends no message and leaves channels alone. -/
private theorem Coherent.frame {store' : Store} (h : Coherent ext store log)
    (hmaxSeq : store'.maxSeq = store.maxSeq) (hmessages : store'.messages = store.messages)
    (huuids : store'.usedUuids = store.usedUuids) (hnextUuid : store.nextUuid ≤ store'.nextUuid)
    (hchannels : store'.channels = store.channels)
    (hnextChannelId : store'.nextChannelId = store.nextChannelId)
    (hobjects : ObjectIndex store' log)
    (hobject : ∀ key object, store'.object key = some object → ObjectValid key.objectId object)
    (htokens : ∀ principal token, store'.tokens principal token = true →
      principal ≠ 0 ∧ token ≠ []) : Coherent ext store' log :=
  ⟨h.logIndex.frame hmaxSeq hmessages huuids hnextUuid,
    h.channelIndex.frame hchannels hnextChannelId, hobjects, h.wellFormed, htokens,
    ⟨by rw [hchannels]; exact h.valid.channel, hobject, by rw [hmessages]; exact h.valid.message,
      by rw [huuids]; exact h.valid.uuid⟩⟩

private theorem Coherent.object_frame {store' : Store} (h : Coherent ext store log)
    (hpreparing : store'.preparing = store.preparing)
    (hcommitted : store'.committed = store.committed) (key : ObjectsKey) (object : StoredObject)
    (hobject : store'.object key = some object) : ObjectValid key.objectId object := by
  refine h.valid.object key object ?_
  cases key with
  | preparing objectId => rwa [Store.object, hpreparing] at hobject
  | committed objectId => rwa [Store.object, hcommitted] at hobject

private theorem Coherent.setToken (h : Coherent ext store log) {principal : UInt64} {token : Bytes}
    {present : Bool} (hvalid : present = true → principal ≠ 0 ∧ token ≠ []) :
    Coherent ext (store.setToken principal token present) log := by
  refine h.frame rfl rfl rfl (UInt64.le_refl _) rfl rfl (h.objectIndex.frame rfl rfl rfl)
    (h.object_frame rfl rfl) ?_
  intro other otherToken hfound
  rw [Store.setToken_tokens] at hfound
  split_ifs at hfound with hsame
  · obtain ⟨rfl, rfl⟩ := hsame
    exact hvalid hfound
  · exact h.tokens other otherToken hfound

private theorem Coherent.prepareObject (h : Coherent ext store log) {object : StoredObject}
    (hid : object.objectId = store.nextObjectId)
    (hvalid : object.objectId ≠ 0 → ObjectValid object.objectId object)
    (hwrap : store.nextObjectId ≤ object.objectId + 1) :
    Coherent ext (store.apply (.prepareObject object)) log := by
  have hne : object.objectId ≠ 0 := by
    rw [hid]
    exact h.objectIndex.nextObjectId
  refine h.frame rfl rfl rfl (UInt64.le_refl _) rfl rfl (h.objectIndex.prepare hid hwrap) ?_ h.tokens
  intro key found hfound
  cases key with
  | preparing objectId =>
      by_cases heq : objectId = object.objectId
      · subst heq
        obtain rfl : object = found := by
          simpa [Store.object, Store.apply, Store.setPreparing] using hfound
        exact hvalid hne
      · refine h.valid.object (.preparing objectId) found ?_
        simpa [Store.object, Store.apply, Store.setPreparing, heq] using hfound
  | committed objectId => exact h.valid.object (.committed objectId) found hfound

private theorem Coherent.commitObject (h : Coherent ext store log) {object : StoredObject}
    (hprepared : store.preparing object.objectId = some object) :
    Coherent ext (store.apply (.commitObject object)) log := by
  refine h.frame rfl rfl rfl (UInt64.le_refl _) rfl rfl (h.objectIndex.commit hprepared) ?_ h.tokens
  intro key found hfound
  cases key with
  | preparing objectId =>
      by_cases heq : objectId = object.objectId
      · simp [Store.object, Store.apply, Store.setPreparing, Store.setCommitted, heq] at hfound
      · refine h.valid.object (.preparing objectId) found ?_
        simpa [Store.object, Store.apply, Store.setPreparing, Store.setCommitted, heq] using hfound
  | committed objectId =>
      by_cases heq : objectId = object.objectId
      · subst heq
        obtain rfl : object = found := by
          simpa [Store.object, Store.apply, Store.setCommitted] using hfound
        exact h.valid.object (.preparing object.objectId) object hprepared
      · refine h.valid.object (.committed objectId) found ?_
        simpa [Store.object, Store.apply, Store.setPreparing, Store.setCommitted, heq] using hfound

private theorem Coherent.discardObjects (h : Coherent ext store log) (objectIds : List UInt64) :
    Coherent ext (store.apply (.discardObjects objectIds)) log := by
  have hobjects := h.objectIndex.discard objectIds
  have hpreparing := store.discard_preparing objectIds
  rw [store.discard_frame objectIds] at hobjects ⊢
  refine h.frame rfl rfl rfl (UInt64.le_refl _) rfl rfl hobjects ?_ h.tokens
  intro key found hfound
  cases key with
  | preparing objectId =>
      refine h.valid.object (.preparing objectId) found ?_
      simp only [Store.object, hpreparing] at hfound
      split_ifs at hfound
      exact hfound
  | committed objectId => exact h.valid.object (.committed objectId) found hfound

/-- Every effect that the server applies keeps the invariant, as long as no
counter wraps. -/
theorem Coherent.apply (h : Coherent ext store log) {effect : Effect}
    (hpermitted : Permitted store effect) (hwrap : store.NoWrap (store.apply effect)) :
    Coherent ext (store.apply effect) (log ++ effect.messages) := by
  cases hpermitted with
  | publish hallowed => exact h.publish hallowed
  | createChannel hnew hsystem hpayload =>
      exact h.createChannel hnew hsystem hpayload hwrap.nextChannelId
  | changeMembers hbefore hchange hsystem => exact h.changeMembers hbefore hchange hsystem
  | allocateUuids hne =>
      simp only [Effect.messages, List.append_nil]
      exact h.frame rfl rfl rfl hwrap.nextUuid rfl rfl (h.objectIndex.frame rfl rfl rfl)
        (h.object_frame rfl rfl) h.tokens
  | addToken hprincipal htoken =>
      simp only [Effect.messages, List.append_nil]
      exact h.setToken (fun _ => ⟨hprincipal, htoken⟩)
  | deleteToken =>
      simp only [Effect.messages, List.append_nil]
      exact h.setToken (fun hpresent => by cases hpresent)
  | prepareObject hid hvalid =>
      simp only [Effect.messages, List.append_nil]
      exact h.prepareObject hid hvalid hwrap.nextObjectId
  | commitObject hprepared =>
      simp only [Effect.messages, List.append_nil]
      exact h.commitObject hprepared
  | discardObjects =>
      simp only [Effect.messages, List.append_nil]
      exact h.discardObjects _

end OpenEvent
