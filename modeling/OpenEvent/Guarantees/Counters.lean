import OpenEvent.Guarantees.MemberSets
import OpenEvent.Guarantees.UuidOwnership
import OpenEvent.Refinement.Statuses

/-!
The four counters at the end of their range. An operation either leaves the
database as it was or moves counters up and hands out ids that nothing uses,
except where an unchecked addition wraps: `AllocateUuids` past 2^64 and the last
channel id and object id.
-/

namespace OpenEvent

open OpenEventCore Fallible

/-- The database has moved on: counters that changed went up, new messages, channels and objects
have ids that are not 0 and were not in use, and a start would accept it. -/
structure Db.MovedOn (ext : Externals) (before after : Db) : Prop where
  counters : ∀ key ∈ counterKeys, after.counter key = before.counter key ∨
    before.counter key < after.counter key ∧ after.counter key ≠ 0
  messages : ∀ seq message, after.message ext seq = some message →
    before.message ext seq = some message ∨ before.message ext seq = none ∧ seq ≠ 0 ∧
      message.uuid ≠ 0 ∧ ∀ used, ¬ before.MapsUuid message.uuid used
  channels : ∀ channelId channel, after.channel ext channelId = some channel →
    (∃ earlier, before.channel ext channelId = some earlier ∧ channel.SameBut earlier) ∨
      before.channel ext channelId = none ∧ channelId ≠ 0
  objects : ∀ objectId,
    (after.preparingObject ext objectId = before.preparingObject ext objectId ∧
      after.committedObject ext objectId = before.committedObject ext objectId) ∨
    objectId ≠ 0 ∧ before.preparingObject ext objectId = none ∧
      before.committedObject ext objectId = none
  validated : UnifiedStorage.validate ext after {} = .ok ()

/-- What the answer hands out is not 0 and was not in use. -/
def Db.Fresh (ext : Externals) (before : Db) : ResponseData → Prop
  | .uuids uuids => ∀ uuid ∈ uuids, uuid ≠ 0 ∧ ∀ used, ¬ before.MapsUuid uuid used
  | .seq seq => seq ≠ 0 ∧ before.message ext seq = none
  | .channel channel => channel.channelId ≠ 0 ∧ before.channel ext channel.channelId = none
  | .object objectId _ => objectId ≠ 0 ∧ before.preparingObject ext objectId = none ∧
      before.committedObject ext objectId = none
  | .token _ => True
  | .empty => True

/-- The database satisfies the storage invariants. -/
def Db.Coherent (ext : Externals) (db : Db) : Prop :=
  ∃ store log, Represents ext db store ∧ OpenEvent.Coherent ext store log

variable {ext : Externals} {before after : Db} {store : Store} {log : List EventMessage}
variable {effect : Effect}

theorem Coherent.validate (h : Coherent ext store log) (hdb : Represents ext before store) :
    UnifiedStorage.validate ext before {} = .ok () := by
  obtain ⟨value, hvalue, _⟩ := (h.reads_validate hdb).ok_of_no_faults
  exact hvalue

/-! ### Effects -/

/-- The effect does not take a counter past its end. -/
def Effect.Fits (store : Store) : Effect → Prop
  | .allocateUuids next => store.nextUuid < next
  | .createChannel channel _ => channel.channelId + 1 ≠ 0
  | .prepareObject object => object.objectId + 1 ≠ 0
  | _ => True

private theorem le_add_one {value : UInt64} (h : value + 1 ≠ 0) : value ≤ value + 1 := by
  rw [UInt64.le_iff_toNat_le, UInt64.toNat_add_one h]
  omega

theorem Permitted.noWrap (h : Permitted store effect) (hfits : effect.Fits store) :
    store.NoWrap (store.apply effect) := by
  have hrefl (value : UInt64) : value ≤ value := UInt64.le_refl value
  have hseq {message : EventMessage} (hnext : NextMessage store message) :
      store.maxSeq ≤ message.seq := by
    rw [hnext.seq_eq]
    exact le_add_one (hnext.seq_eq ▸ hnext.seq_ne)
  have huuid {channel : ChannelInfo} {message : EventMessage}
      (hsystem : SystemMessage store channel message) : store.nextUuid ≤ message.uuid + 1 := by
    rw [← hsystem.uuid_eq]
    exact le_add_one hsystem.uuid_next
  cases h with
  | allocateUuids _ => exact ⟨hrefl _, UInt64.le_of_lt hfits, hrefl _, hrefl _⟩
  | publish hallowed => exact ⟨hseq hallowed.toNextMessage, hrefl _, hrefl _, hrefl _⟩
  | createChannel hnew hsystem _ =>
      refine ⟨hseq hsystem.toNextMessage, huuid hsystem, ?_, hrefl _⟩
      rw [← hnew.channelId_eq]
      exact le_add_one hfits
  | changeMembers _ _ hsystem =>
      exact ⟨hseq hsystem.toNextMessage, huuid hsystem, hrefl _, hrefl _⟩
  | prepareObject hid _ =>
      refine ⟨hrefl _, hrefl _, hrefl _, ?_⟩
      rw [← hid]
      exact le_add_one hfits
  | discardObjects =>
      rw [store.discard_frame]
      exact ⟨hrefl _, hrefl _, hrefl _, hrefl _⟩
  | _ => exact ⟨hrefl _, hrefl _, hrefl _, hrefl _⟩

private theorem moved_up {first second : UInt64} (h : first ≤ second) :
    second = first ∨ first < second ∧ second ≠ 0 := by
  rw [UInt64.le_iff_toNat_le] at h
  rcases Nat.eq_or_lt_of_le h with heq | hlt
  · exact Or.inl (UInt64.toNat_inj.mp heq.symm)
  · refine Or.inr ⟨UInt64.lt_iff_toNat_lt.mpr hlt, ?_⟩
    rintro rfl
    exact Nat.not_lt_zero _ hlt

theorem Store.NoWrap.counters {store' : Store} (h : store.NoWrap store')
    (hdb : Represents ext before store) (hdb' : Represents ext after store') :
    ∀ key ∈ counterKeys, after.counter key = before.counter key ∨
      before.counter key < after.counter key ∧ after.counter key ≠ 0 := by
  intro key hkey
  simp only [counterKeys, List.mem_cons, List.not_mem_nil, or_false] at hkey
  rcases hkey with rfl | rfl | rfl | rfl
  · rw [hdb.counter_maxSeq, hdb'.counter_maxSeq]
    exact moved_up h.maxSeq
  · rw [hdb.counter_nextUuid, hdb'.counter_nextUuid]
    exact moved_up h.nextUuid
  · rw [hdb.counter_nextChannelId, hdb'.counter_nextChannelId]
    exact moved_up h.nextChannelId
  · rw [hdb.counter_nextObjectId, hdb'.counter_nextObjectId]
    exact moved_up h.nextObjectId

/-- The seq after the last one has no message. -/
theorem LogIndex.next_free (h : LogIndex store log) {message : EventMessage}
    (hnext : NextMessage store message) : store.messages message.seq = none := by
  rw [h.messages, h.seq_toNat hnext]
  exact List.getElem?_eq_none (Nat.le_refl _)

theorem ObjectIndex.next_free (h : ObjectIndex store log) :
    store.preparing store.nextObjectId = none ∧ store.committed store.nextObjectId = none := by
  have hfree (key : ObjectsKey) (hkey : key.objectId = store.nextObjectId) :
      store.object key = none := by
    cases hobject : store.object key with
    | none => rfl
    | some object =>
        have hlt := h.objectId_lt key object hobject
        rw [hkey] at hlt
        exact absurd hlt (UInt64.lt_irrefl _)
  exact ⟨hfree (.preparing store.nextObjectId) rfl, hfree (.committed store.nextObjectId) rfl⟩

/-- The effects of the operations on messages and channels, and of the first section of
`WriteObject`. -/
def Effect.Adds : Effect → Prop
  | .commitObject _ => False
  | .discardObjects _ => False
  | _ => True

/-- What an effect stores is new. -/
theorem Permitted.stores_new (h : Permitted store effect) (hadds : effect.Adds)
    (hcoherent : Coherent ext store log) :
    (∀ seq message, (store.apply effect).messages seq = some message →
      store.messages seq = some message ∨ store.messages seq = none ∧ seq ≠ 0 ∧
        message.uuid ≠ 0 ∧ store.usedUuids message.uuid = none) ∧
    ∀ objectId, ((store.apply effect).preparing objectId = store.preparing objectId ∧
      (store.apply effect).committed objectId = store.committed objectId) ∨
        objectId = store.nextObjectId := by
  have happended {message : EventMessage} (hnext : NextMessage store message)
      (hunused : store.usedUuids message.uuid = none) (seq : UInt64) (found : EventMessage)
      (hfound : Function.update store.messages message.seq (some message) seq = some found) :
      store.messages seq = some found ∨ store.messages seq = none ∧ seq ≠ 0 ∧
        found.uuid ≠ 0 ∧ store.usedUuids found.uuid = none := by
    by_cases heq : seq = message.seq
    · subst heq
      rw [Function.update_self] at hfound
      obtain rfl := Option.some.inj hfound
      exact Or.inr ⟨hcoherent.logIndex.next_free hnext, hnext.seq_ne, hnext.uuid_ne, hunused⟩
    · rw [Function.update_of_ne heq] at hfound
      exact Or.inl hfound
  have hsystem {channel : ChannelInfo} {message : EventMessage}
      (hmessage : SystemMessage store channel message) :
      store.usedUuids message.uuid = none := by
    apply hcoherent.logIndex.unused
    rw [hmessage.uuid_eq]
    exact UInt64.lt_irrefl _
  cases h with
  | publish hallowed =>
      exact ⟨happended hallowed.toNextMessage hallowed.uuid_unused, fun _ => Or.inl ⟨rfl, rfl⟩⟩
  | createChannel _ hmessage _ =>
      exact ⟨happended hmessage.toNextMessage (hsystem hmessage), fun _ => Or.inl ⟨rfl, rfl⟩⟩
  | changeMembers _ _ hmessage =>
      exact ⟨happended hmessage.toNextMessage (hsystem hmessage), fun _ => Or.inl ⟨rfl, rfl⟩⟩
  | @prepareObject object hid _ =>
      refine ⟨fun _ _ hfound => Or.inl hfound, ?_⟩
      intro objectId
      by_cases heq : objectId = store.nextObjectId
      · exact Or.inr heq
      · rw [← hid] at heq
        exact Or.inl ⟨Function.update_of_ne heq _ _, rfl⟩
  | commitObject _ => exact hadds.elim
  | discardObjects => exact hadds.elim
  | _ => exact ⟨fun _ _ hfound => Or.inl hfound, fun _ => Or.inl ⟨rfl, rfl⟩⟩

theorem Permitted.movedOn (h : Permitted store effect) (hadds : effect.Adds)
    (hfits : effect.Fits store) (hcoherent : Coherent ext store log)
    (hdb : Represents ext before store) (hdb' : Represents ext after (store.apply effect)) :
    before.MovedOn ext after := by
  have hwrap := h.noWrap hfits
  obtain ⟨hmessages, hobjects⟩ := h.stores_new hadds hcoherent
  have hcoherent' := hcoherent.apply h hwrap
  refine ⟨hwrap.counters hdb hdb', ?_, ?_, ?_, hcoherent'.validate hdb'⟩
  · intro seq message hmessage
    rw [hdb'.message_eq] at hmessage
    rw [hdb.message_eq]
    refine (hmessages seq message hmessage).imp_right ?_
    rintro ⟨hnone, hne, huuid, hunused⟩
    refine ⟨hnone, hne, huuid, fun used hused => ?_⟩
    rw [hdb.mapsUuid_iff, hunused] at hused
    cases hused
  · intro channelId channel hchannel
    have hid : channelId ≠ 0 := by
      rw [hdb'.channel_eq] at hchannel
      exact ((hcoherent'.channelIndex.channels_iff channelId).mp (by simp [hchannel])).1
    cases hearlier : before.channel ext channelId with
    | none => exact Or.inr ⟨rfl, hid⟩
    | some earlier =>
        rw [hdb.channel_eq] at hearlier
        obtain ⟨found, hfound, hsame⟩ := h.channel_kept hcoherent hearlier
        rw [hdb'.channel_eq, hfound] at hchannel
        obtain rfl := Option.some.inj hchannel
        exact Or.inl ⟨earlier, rfl, hsame⟩
  · intro objectId
    rw [hdb.preparingObject_eq, hdb.committedObject_eq, hdb'.preparingObject_eq,
      hdb'.committedObject_eq]
    refine (hobjects objectId).imp_right ?_
    rintro rfl
    exact ⟨hcoherent.objectIndex.nextObjectId, hcoherent.objectIndex.next_free⟩

/-- Two databases with the same store. -/
theorem Coherent.movedOn_same (h : Coherent ext store log) (hdb : Represents ext before store)
    (hdb' : Represents ext after store) : before.MovedOn ext after := by
  have hrefl (value : UInt64) : value ≤ value := UInt64.le_refl value
  have hwrap : store.NoWrap store := ⟨hrefl _, hrefl _, hrefl _, hrefl _⟩
  refine ⟨hwrap.counters hdb hdb', ?_, ?_, ?_, h.validate hdb'⟩
  · intro seq message hmessage
    rw [hdb'.message_eq] at hmessage
    rw [hdb.message_eq]
    exact Or.inl hmessage
  · intro channelId channel hchannel
    rw [hdb'.channel_eq] at hchannel
    rw [hdb.channel_eq]
    exact Or.inl ⟨channel, hchannel, .refl channel⟩
  · intro objectId
    rw [hdb.preparingObject_eq, hdb.committedObject_eq, hdb'.preparingObject_eq,
      hdb'.committedObject_eq]
    exact Or.inl ⟨rfl, rfl⟩

/-- What a mutation answers with is new, unless its allocation wrapped. -/
theorem Performs.fresh {operation : Mutation} {data : ResponseData}
    (h : Performs store operation effect data) (hpermitted : Permitted store effect)
    (hfits : effect.Fits store) (hcoherent : Coherent ext store log)
    (hdb : Represents ext before store) : before.Fresh ext data := by
  cases h with
  | @allocateUuids request =>
      intro uuid huuid
      obtain ⟨offset, hoffset, rfl⟩ := List.mem_map.mp huuid
      have hlt := List.mem_range.mp hoffset
      have hsum := toNat_add_of_le (UInt64.le_of_lt hfits)
      have hbound := (store.nextUuid + request.count.toUInt64).toNat_lt
      have hvalue : (store.nextUuid + UInt64.ofNat offset).toNat =
          store.nextUuid.toNat + offset := by
        rw [UInt64.toNat_add, UInt64.toNat_ofNat', Nat.mod_eq_of_lt (a := offset) (by omega),
          Nat.mod_eq_of_lt (by omega)]
      have hzero : store.nextUuid.toNat ≠ 0 :=
        fun heq => hcoherent.nextUuid_ne (UInt64.toNat_inj.mp heq)
      constructor
      · intro heq
        rw [heq] at hvalue
        exact hzero (by simp at hvalue; omega)
      · intro used hused
        have hunused : store.usedUuids (store.nextUuid + UInt64.ofNat offset) = none := by
          apply hcoherent.logIndex.unused
          rw [UInt64.lt_iff_toNat_lt, hvalue]
          omega
        rw [hdb.mapsUuid_iff, hunused] at hused
        cases hused
  | publishAutoSeq _ =>
      cases hpermitted with
      | publish hallowed =>
          refine ⟨hallowed.seq_ne, ?_⟩
          rw [hdb.message_eq]
          exact hcoherent.logIndex.next_free hallowed.toNextMessage
  | createChannel _ =>
      refine ⟨hcoherent.channelIndex.nextChannelId, ?_⟩
      rw [hdb.channel_eq]
      cases hchannel : store.channels store.nextChannelId with
      | none => exact hchannel
      | some channel =>
          exact absurd (hcoherent.channelIndex.lt_of_some hchannel).2 (UInt64.lt_irrefl _)
  | _ => exact True.intro

/-! ### Mutations -/

/-- What a call leaves: a failure that changed nothing, or a database that has moved on with an
answer that is new. -/
def NeverWraps (ext : Externals) (before after : Db) (status : Status) (data : ResponseData) : Prop :=
  status.isOk = false ∧ after = before ∨ before.MovedOn ext after ∧ before.Fresh ext data

/-- The call is accepted and one of its additions wraps. -/
def Overflows (ext : Externals) (state : CoreState) : Mutation → Prop
  | .allocateUuids request =>
      state.fatalError = none ∧ allocateUuidsEntry request = .ok () ∧
        2 ^ 64 < (state.db.counter kNextUuidKey).toNat + request.count.toNat
  | .createChannel request =>
      state.db.counter kNextChannelIdKey + 1 = 0 ∧ OtherwiseValid state {} request ∧
        ¬ BadMembers request ∧ ∃ env, NothingFails ext state.db env request
  | _ => False

section Mutations

variable {state : CoreState} {config : Config} {env : CallEnv} {tsMs : UInt64}

theorem available_none {fatalError : Option Status}
    (h : ensureAvailable fatalError = .ok ()) : fatalError = none := by
  cases fatalError with
  | none => rfl
  | some status => cases h

theorem createChannelEntry_valid {request : CreateChannelRequest}
    (h : createChannelEntry request = .ok ()) (havailable : state.fatalError = none)
    (hauth : authenticate state.db {} request.principal request.token = .ok ()) :
    OtherwiseValid state {} request := by
  unfold createChannelEntry at h
  split at h
  · cases h
  · rename_i hcheck
    simp only [not_or, not_lt] at hcheck
    obtain ⟨hprincipal, _, hname, hnameLe, hprotocol, hdescription, _⟩ := hcheck
    exact ⟨hprincipal, by simpa using hname, hnameLe, hprotocol, hdescription, h, havailable, rfl,
      hauth⟩

/-- An accepted credential is accepted wherever the same store is read and no read fails. -/
theorem authenticate_again (hdb : Represents ext before store) (hdb' : Represents ext after store)
    {faults : ReadFaults} {principal : UInt64} {token : Bytes}
    (h : authenticate before faults principal token = .ok ()) :
    authenticate after {} principal token = .ok () := by
  obtain ⟨hprincipal, htoken, hstored⟩ := authenticate_ok hdb h
  have hread := (@Represents.reads_hasToken ext _ _ {} hdb' principal token).eq_ok
  unfold authenticate
  rw [if_neg hprincipal, if_neg htoken, hread, hstored]
  rfl

/-- A `CreateChannel` that comes to its commit had nothing in its way. -/
theorem createChannelBatch_clear (hdb : Represents ext state.db store)
    {request : CreateChannelRequest} {batch : WriteBatch} {data : ResponseData}
    (havailable : state.fatalError = none) (hentry : createChannelEntry request = .ok ())
    (h : createChannelBatch ext state.db env request = .ok (batch, data)) :
    OtherwiseValid state {} request ∧ ¬ BadMembers request ∧
      ∃ env, NothingFails ext state.db env request := by
  obtain ⟨snapshot, hsnapshot, h⟩ := bind_ok h
  obtain rfl := createSnapshot_ok hsnapshot
  obtain ⟨_, hauth, h⟩ := bind_ok h
  obtain ⟨hmembers, h⟩ := guard_ok h
  obtain ⟨nextChannelId, hnextChannelId, h⟩ := bind_ok h
  obtain rfl := hdb.reads_getNextChannelId.of_ok (plain_ok hnextChannelId)
  obtain ⟨built, hbuilt, _⟩ := bind_ok h
  have hvalid := createChannelEntry_valid hentry havailable (authenticate_again hdb hdb (plain_ok hauth))
  obtain ⟨hsystem, _⟩ := buildChannelMutationBatch_ok hdb (plain_ok hbuilt)
  refine ⟨hvalid, ?_, { nowMs := env.nowMs }, ?_⟩
  · have hlisted := (@OtherwiseValid.entry state {} request hvalid).symm.trans hentry
    rintro (hzero | hlong | hset)
    · rw [if_pos (Or.inl hzero)] at hlisted
      cases hlisted
    · rw [if_pos (Or.inr hlong)] at hlisted
      cases hlisted
    · rw [← length_initialMembers] at hset
      exact hmembers hset
  · cases buildChannelMutationBatch_writes (plain_ok hbuilt) with
    | changed hmaxSeq hnextUuid hchannelRecord hrecord =>
        obtain rfl := hdb.reads_getMaxSeq.of_ok hmaxSeq
        obtain rfl := hdb.reads_getNextUuid.of_ok hnextUuid
        have hseq := hsystem.seq_ne
        have huuid := hsystem.uuid_next
        rw [hsystem.seq_eq] at hseq
        rw [hsystem.uuid_eq] at huuid
        refine ⟨rfl, rfl, ?_, ?_, ?_, ?_⟩
        · rw [hdb.counter_nextChannelId]
          exact Option.isSome_of_eq_some hchannelRecord
        · rw [hdb.counter_maxSeq, hdb.counter_nextUuid, hdb.counter_nextChannelId]
          exact Option.isSome_of_eq_some hrecord
        · rwa [hdb.counter_maxSeq]
        · rwa [hdb.counter_nextUuid]

/-- The addition of an accepted allocation wraps exactly when it overflows. -/
theorem allocateUuids_fits {request : AllocateUuidsRequest}
    (hentry : allocateUuidsEntry request = .ok ())
    (hne : store.nextUuid + request.count.toUInt64 ≠ 0) :
    store.nextUuid < store.nextUuid + request.count.toUInt64 ↔
      ¬ 2 ^ 64 < store.nextUuid.toNat + request.count.toNat := by
  have hcount : request.count.toNat ≠ 0 := by
    intro hzero
    rw [allocateUuidsEntry, if_pos (Or.inl (UInt32.toNat_inj.mp hzero))] at hentry
    cases hentry
  have hsum := UInt64.toNat_add store.nextUuid request.count.toUInt64
  have hsumNe : (store.nextUuid + request.count.toUInt64).toNat ≠ 0 :=
    fun hzero => hne (UInt64.toNat_inj.mp hzero)
  rw [UInt32.toNat_toUInt64] at hsum
  have hlt := store.nextUuid.toNat_lt
  have hcountLt := request.count.toNat_lt
  rw [UInt64.lt_iff_toNat_lt]
  omega

theorem Performs.fits (hdb : Represents ext state.db store) {operation : Mutation}
    {batch : WriteBatch} {answer : ResponseData}
    (havailable : ensureAvailable state.fatalError = .ok ()) (hentry : operation.entry = .ok ())
    (hbatch : operation.batch ext config state.db env tsMs = some (.ok (batch, answer)))
    (hspec : BatchSpec ext state.db store operation batch answer effect)
    (h : ¬ Overflows ext state operation) : effect.Fits store ∧ effect.Adds := by
  obtain ⟨hperforms, hpermitted, _⟩ := hspec
  cases hperforms with
  | allocateUuids =>
      cases hpermitted with
      | allocateUuids hne =>
          refine ⟨(allocateUuids_fits hentry hne).mpr (fun hover => h ?_), True.intro⟩
          refine ⟨available_none havailable, hentry, ?_⟩
          rwa [hdb.counter_nextUuid]
  | createChannel _ =>
      refine ⟨fun hwraps => h ?_, True.intro⟩
      obtain ⟨hvalid, hmembers, hclear⟩ := createChannelBatch_clear hdb
        (available_none havailable) hentry (Option.some.inj hbatch)
      refine ⟨?_, hvalid, hmembers, hclear⟩
      rw [hdb.counter_nextChannelId]
      exact hwraps
  | _ => exact ⟨True.intro, True.intro⟩

/-- A call that does not overflow never wraps. -/
theorem Mutation.call_neverWraps (hdb : Represents ext state.db store)
    (hcoherent : Coherent ext store log) {operation : Mutation}
    (hfits : ¬ Overflows ext state operation) {after : CoreState} {status : Status}
    {data : ResponseData}
    (h : operation.call ext config state env tsMs = some (after, status, data)) :
    NeverWraps ext state.db after.db status data := by
  cases Mutation.call_ends hdb hcoherent.valid h with
  | refused hrefused hsame => exact Or.inl ⟨hrefused, hsame⟩
  | nothing _ _ hsame hdata =>
      rw [hsame, hdata]
      exact Or.inr ⟨hcoherent.movedOn_same hdb hdb, True.intro⟩
  | applied havailable hentry hbatch hspec hwritten hdata =>
      obtain ⟨hfit, hadds⟩ := Performs.fits hdb havailable hentry hbatch hspec hfits
      rw [hwritten, hdata]
      refine Or.inr ⟨hspec.permitted.movedOn hadds hfit hcoherent hdb hspec.represents, ?_⟩
      split
      · exact hspec.performs.fresh hspec.permitted hfit hcoherent hdb
      · exact True.intro

/-- An allocation that overflows is answered OK. -/
theorem allocateUuids_accepted (hdb : Represents ext state.db store)
    {request : AllocateUuidsRequest} (h : Overflows ext state (.allocateUuids request)) :
    ∃ after data, (Mutation.allocateUuids request).call ext config state {} tsMs =
      some (after, .ok, data) := by
  obtain ⟨havailable, hentry, hover⟩ := h
  rw [hdb.counter_nextUuid] at hover
  have hne : store.nextUuid + request.count.toUInt64 ≠ 0 := by
    intro hzero
    have hsum := UInt64.toNat_add store.nextUuid request.count.toUInt64
    rw [hzero, UInt32.toNat_toUInt64] at hsum
    have hlt := store.nextUuid.toNat_lt
    have hcount := request.count.toNat_lt
    simp only [UInt64.toNat_zero] at hsum
    omega
  have hnext := (@Represents.reads_getNextUuid ext _ _ {} hdb).eq_ok
  have hbatch : ∃ batch data, allocateUuidsBatch state.db {} request = .ok (batch, data) := by
    have hsnapshot : UnifiedStorage.createSnapshot state.db {} = .ok state.db := rfl
    unfold allocateUuidsBatch
    rw [hsnapshot]
    simp only [plain, ok_bind]
    rw [hnext]
    simp only [ok_bind, UnifiedStorage.setNextUuid, hne, if_false]
    exact ⟨_, _, rfl⟩
  obtain ⟨batch, data, hbatch⟩ := hbatch
  refine ⟨(commitBatch state batch .written).1, data, ?_⟩
  unfold Mutation.call
  rw [havailable, Mutation.entry, hentry, Mutation.batch, hbatch]
  rfl

/-- The counters after a call that overflows are below those before it. -/
theorem Overflows.wraps (hdb : Represents ext state.db store) (hcoherent : Coherent ext store log)
    {operation : Mutation} (h : Overflows ext state operation) :
    ∃ env after status data, operation.call ext config state env tsMs =
      some (after, status, data) ∧ ¬ NeverWraps ext state.db after.db status data := by
  have hfails {operation : Mutation} {env : CallEnv} {after : CoreState} {data : ResponseData}
      (hcall : operation.call ext config state env tsMs = some (after, .ok, data))
      (hnothing : ∀ request, operation ≠ .removeMember request)
      (hcounters : ∀ effect answer, Performs store operation effect answer →
        Permitted store effect → Represents ext after.db (store.apply effect) →
        ∃ key ∈ counterKeys, after.db.counter key < state.db.counter key) :
      ∃ env after status data, operation.call ext config state env tsMs =
        some (after, status, data) ∧ ¬ NeverWraps ext state.db after.db status data := by
    refine ⟨env, after, .ok, data, hcall, ?_⟩
    rintro (⟨hrefused, _⟩ | ⟨hmoved, _⟩)
    · cases hrefused
    · cases Mutation.call_ends hdb hcoherent.valid hcall with
      | refused hrefused _ => cases hrefused
      | nothing hoperation _ _ _ => exact hnothing _ hoperation
      | applied _ _ _ hspec hwritten _ =>
          obtain ⟨hperforms, hpermitted, hstored⟩ := hspec
          rw [← hwritten] at hstored
          obtain ⟨key, hkey, hless⟩ := hcounters _ _ hperforms hpermitted hstored
          rcases hmoved.counters key hkey with hsame | ⟨hgreater, _⟩
          · rw [hsame] at hless
            exact UInt64.lt_irrefl _ hless
          · exact UInt64.lt_asymm hless hgreater
  cases operation with
  | allocateUuids request =>
      obtain ⟨after, data, hcall⟩ := allocateUuids_accepted hdb h
      refine hfails hcall (fun _ hother => by cases hother) ?_
      intro effect answer hperforms hpermitted hstored
      refine ⟨kNextUuidKey, by simp [counterKeys], ?_⟩
      obtain ⟨_, hentry, hover⟩ := h
      rw [hdb.counter_nextUuid] at hover ⊢
      rw [hstored.counter_nextUuid]
      cases hperforms with
      | allocateUuids =>
          show store.nextUuid + request.count.toUInt64 < store.nextUuid
          have hsum := UInt64.toNat_add store.nextUuid request.count.toUInt64
          have hcount := request.count.toNat_lt
          rw [UInt32.toNat_toUInt64] at hsum
          rw [UInt64.lt_iff_toNat_lt]
          omega
  | createChannel request =>
      obtain ⟨hlast, hvalid, hmembers, env, hclear⟩ := h
      have hvalid' : OtherwiseValid state env.faults request := by
        rw [hclear.faults]
        exact hvalid
      obtain ⟨after, data, hcall⟩ :=
        hvalid'.accepted hdb hcoherent.nextUuid_ne hmembers hclear config tsMs
      refine hfails hcall (fun _ hother => by cases hother) ?_
      intro effect answer hperforms hpermitted hstored
      refine ⟨kNextChannelIdKey, by simp [counterKeys], ?_⟩
      rw [hdb.counter_nextChannelId] at hlast ⊢
      rw [hstored.counter_nextChannelId]
      cases hperforms with
      | createChannel _ =>
          show store.nextChannelId + 1 < store.nextChannelId
          rw [hlast]
          exact UInt64.pos_iff_ne_zero.mpr hcoherent.channelIndex.nextChannelId
  | _ => exact h.elim

end Mutations

/-! ### WriteObject -/

/-- A server that serves no call. -/
def Server.idle (state : CoreState) (config : Config) (dir : ObjectDirectory) : Server :=
  { db := state.db, dir, mode := .running { config, fatalError := state.fatalError,
                                            commitGeneration := state.commitGeneration } }

/-- The steps that a `WriteObject` call takes after its entry. -/
def Action.OfWrite (id : Nat) : Action → Prop
  | .prepareWrite other _ => other = id
  | .fileCall other _ => other = id
  | .commitWrite other _ => other = id
  | .deletePreparing other _ => other = id
  | _ => False

def Server.CallStep (ext : Externals) (id : Nat) (server : Server) (label : Action × Event)
    (next : Server) : Prop :=
  server.step ext label.1 = some (next, label.2) ∧ label.1.OfWrite id

/-- However far a `WriteObject` call gets, the database has moved on, and what it answers is
new. -/
def WriteNeverWraps (ext : Externals) (server : Server) (id : Nat) (request : WriteObjectRequest) :
    Prop :=
  ∀ random entered event labels final,
    server.step ext (.enterWrite id request random) = some (entered, event) →
    Run (Server.CallStep ext id) entered labels final →
      server.db.MovedOn ext final.db ∧ ∀ action call applied status data,
        (action, Event.write call applied (some (status, data))) ∈ labels →
          server.db.Fresh ext data

/-- The call is accepted and takes the last object id. -/
structure WriteOverflows (ext : Externals) (state : CoreState) (request : WriteObjectRequest) :
    Prop where
  available : state.fatalError = none
  entry : writeObjectEntry request = .ok ()
  authenticated : authenticate state.db {} request.principal request.token = .ok ()
  wraps : state.db.counter kNextObjectIdKey + 1 = 0
  serializes : ∃ random objectToken, generateObjectToken random = some (.ok objectToken) ∧
    (ext.objectRecord.serializeToString { newObject request objectToken with
      objectId := state.db.counter kNextObjectIdKey }).isSome

/-- The store once a call has taken the next object id. -/
structure Store.Took (before after : Store) : Prop where
  messages : after.messages = before.messages
  channels : after.channels = before.channels
  maxSeq : after.maxSeq = before.maxSeq
  nextUuid : after.nextUuid = before.nextUuid
  nextChannelId : after.nextChannelId = before.nextChannelId
  nextObjectId : after.nextObjectId = before.nextObjectId + 1
  taken : before.nextObjectId + 1 ≠ 0
  preparing : ∀ objectId ≠ before.nextObjectId,
    after.preparing objectId = before.preparing objectId
  committed : ∀ objectId ≠ before.nextObjectId,
    after.committed objectId = before.committed objectId

namespace Store.Took

variable {store' : Store}

theorem prepared {object : StoredObject} (hid : object.objectId = store.nextObjectId)
    (hfits : store.nextObjectId + 1 ≠ 0) : store.Took (store.apply (.prepareObject object)) where
  messages := rfl
  channels := rfl
  maxSeq := rfl
  nextUuid := rfl
  nextChannelId := rfl
  nextObjectId := congrArg (· + 1) hid
  taken := hfits
  preparing _ hne := Function.update_of_ne (hid ▸ hne) _ _
  committed _ _ := rfl

theorem committing (h : store.Took store') {object : StoredObject}
    (hid : object.objectId = store.nextObjectId) :
    store.Took (store'.apply (.commitObject object)) where
  messages := h.messages
  channels := h.channels
  maxSeq := h.maxSeq
  nextUuid := h.nextUuid
  nextChannelId := h.nextChannelId
  nextObjectId := h.nextObjectId
  taken := h.taken
  preparing objectId hne :=
    (Function.update_of_ne (hid ▸ hne) _ _).trans (h.preparing objectId hne)
  committed objectId hne :=
    (Function.update_of_ne (hid ▸ hne) _ _).trans (h.committed objectId hne)

theorem discarding (h : store.Took store') {objectId : UInt64} (hid : objectId = store.nextObjectId) :
    store.Took (store'.apply (.discardObjects [objectId])) where
  messages := h.messages
  channels := h.channels
  maxSeq := h.maxSeq
  nextUuid := h.nextUuid
  nextChannelId := h.nextChannelId
  nextObjectId := h.nextObjectId
  taken := h.taken
  preparing other hne := (Function.update_of_ne (hid ▸ hne) _ _).trans (h.preparing other hne)
  committed other hne := h.committed other hne

theorem movedOn (h : store.Took store') (hcoherent : Coherent ext store log)
    {log' : List EventMessage} (hcoherent' : Coherent ext store' log')
    (hdb : Represents ext before store) (hdb' : Represents ext after store') :
    before.MovedOn ext after := by
  have hwrap : store.NoWrap store' := by
    refine ⟨h.maxSeq ▸ UInt64.le_refl _, h.nextUuid ▸ UInt64.le_refl _,
      h.nextChannelId ▸ UInt64.le_refl _, ?_⟩
    rw [h.nextObjectId]
    exact le_add_one h.taken
  refine ⟨hwrap.counters hdb hdb', ?_, ?_, ?_, hcoherent'.validate hdb'⟩
  · intro seq message hmessage
    rw [hdb'.message_eq, h.messages] at hmessage
    rw [hdb.message_eq]
    exact Or.inl hmessage
  · intro channelId channel hchannel
    rw [hdb'.channel_eq, h.channels] at hchannel
    refine Or.inl ⟨channel, ?_, .refl channel⟩
    rwa [hdb.channel_eq]
  · intro objectId
    rw [hdb.preparingObject_eq, hdb.committedObject_eq, hdb'.preparingObject_eq,
      hdb'.committedObject_eq]
    by_cases heq : objectId = store.nextObjectId
    · subst heq
      exact Or.inr ⟨hcoherent.objectIndex.nextObjectId, hcoherent.objectIndex.next_free⟩
    · exact Or.inl ⟨h.preparing objectId heq, h.committed objectId heq⟩

end Store.Took

/-- How far a call has got: it waits for its first section, it was refused, or it has taken its
id. -/
inductive CallProgress (state : CoreState) (before : Store) (request : WriteObjectRequest) :
    Store → Option WriteObjectCall → Prop
  | waiting {random : List GetrandomResult} {objectToken : String} : state.fatalError = none →
      generateObjectToken random = some (.ok objectToken) →
      CallProgress state before request before
        (some ⟨request, newObject request objectToken, .prepare⟩)
  | refused : CallProgress state before request before none
  | took {store : Store} {entry : Option WriteObjectCall} : before.Took store →
      (∀ call, entry = some call → call.phase ≠ .prepare ∧
        call.object.objectId = before.nextObjectId) →
      CallProgress state before request store entry

/-- A call runs alone from the store `before`. -/
structure CallAlone (ext : Externals) (state : CoreState) (before : Store)
    (request : WriteObjectRequest) (id : Nat) (server : Server) (core : Running) (store : Store) : Prop where
  mode : server.mode = .running core
  calls : server.CallsChecked
  represents : Represents ext server.db store
  coherent : ∃ log, Coherent ext store log
  progress : CallProgress state before request store (core.writes id)

/-- The answer of a call names the id it took, or nothing. -/
def Event.AnswersWith (objectId : UInt64) : Event → Prop
  | .write _ _ (some (_, data)) => data = .empty ∨ ∃ token, data = .object objectId token
  | _ => True

section WriteObject

variable {state : CoreState} {config : Config} {dir : ObjectDirectory} {env : CallEnv} {id : Nat}
variable {server next : Server} {core : Running} {start : Store} {request : WriteObjectRequest}
variable {call : WriteObjectCall}

/-- A first section that gets to its commit takes an id that fits, unless the call overflows. -/
theorem prepareBatch_fits (hdb : Represents ext state.db store)
    (hfits : ¬ WriteOverflows ext state request) (havailable : state.fatalError = none)
    (hentry : writeObjectEntry request = .ok ()) {random : List GetrandomResult}
    {objectToken : String} (hrandom : generateObjectToken random = some (.ok objectToken))
    {batch : WriteBatch} {object : StoredObject} (hbefore : Represents ext before store)
    (h : prepareBatch ext before env request (newObject request objectToken) =
      .ok (batch, object)) : store.nextObjectId + 1 ≠ 0 := by
  intro hwraps
  obtain ⟨snapshot, hsnapshot, h⟩ := bind_ok h
  obtain rfl := ((reads_createSnapshot before env.faults).of_ok hsnapshot).symm
  obtain ⟨_, hauth, h⟩ := bind_ok h
  obtain ⟨nextObjectId, hnext, h⟩ := bind_ok h
  obtain rfl := hbefore.reads_getNextObjectId.of_ok hnext
  obtain ⟨prepared, hprepared, _⟩ := bind_ok h
  obtain ⟨payload, hpayload, _⟩ := bind_ok hprepared
  refine hfits ⟨havailable, hentry, authenticate_again hbefore hdb hauth, ?_, random, objectToken,
    hrandom, ?_⟩
  · rw [hdb.counter_nextObjectId]
    exact hwraps
  · rw [hdb.counter_nextObjectId]
    unfold UnifiedStorage.serializeObject at hpayload
    split at hpayload
    · cases hpayload
    · rename_i hserialized
      exact Option.isSome_of_eq_some hserialized

theorem CallAlone.left (hcalls : next.CallsChecked) {log : List EventMessage}
    {after : CoreState} {entry : Option WriteObjectCall}
    (hnext : next = server.updated (core.setWrite id entry) after)
    (hdb : Represents ext after.db store) (hcoherent : Coherent ext store log)
    (hprogress : CallProgress state start request store entry) :
    CallAlone ext state start request id next ((core.setWrite id entry).withState after) store where
  mode := by
    rw [hnext]
    rfl
  calls := hcalls
  represents := by
    rw [hnext]
    exact hdb
  coherent := ⟨log, hcoherent⟩
  progress := by
    show CallProgress state start request store (Function.update core.writes id entry id)
    rwa [Function.update_self]

theorem CallAlone.prepare (h : CallAlone ext state start request id server core start)
    (hdb : Represents ext state.db start) (hfits : ¬ WriteOverflows ext state request) (hcalls : next.CallsChecked)
    (hcall : core.writes id = some call) (hphase : call.phase = .prepare) {event : Event}
    (hresult : (next, event) = server.prepareWrite ext core id call env) :
    ∃ core' store', CallAlone ext state start request id next core' store' ∧
      event.AnswersWith start.nextObjectId := by
  obtain ⟨log, hcoherent⟩ := h.coherent
  have hchecked := (h.calls core h.mode).writes id call hcall
  have hprogress := h.progress
  rw [hcall] at hprogress
  have hfit {batch : WriteBatch} {object : StoredObject}
      (hbatch : prepareBatch ext server.db env call.request call.object = .ok (batch, object)) :
      start.nextObjectId + 1 ≠ 0 := by
    cases hprogress with
    | waiting havailable hrandom =>
        exact prepareBatch_fits hdb hfits havailable hchecked.entry hrandom h.represents hbatch
    | took _ hpast => exact absurd hphase (hpast call rfl).1
  cases hbatch : prepareBatch ext server.db env call.request call.object with
  | error status =>
      rw [Server.prepareWrite_refused hbatch] at hresult
      obtain ⟨hnext, rfl⟩ := Prod.mk.inj hresult
      exact ⟨_, _, .left hcalls hnext h.represents hcoherent .refused, Or.inl rfl⟩
  | ok found =>
      have hfound := hfit hbatch
      have houtcome := @Server.prepareWrite_outcome ext server start core id call env
        h.represents hchecked
      have htook := @Store.Took.prepared start (call.assigned start).object rfl hfound
      rw [← hresult] at houtcome
      generalize hpair : (next, event) = pair at houtcome
      cases houtcome with
      | refused _ =>
          obtain ⟨hnext, rfl⟩ := Prod.mk.inj hpair
          exact ⟨_, _, .left hcalls hnext h.represents hcoherent .refused, Or.inl rfl⟩
      | notApplied hsame _ =>
          obtain ⟨hnext, rfl⟩ := Prod.mk.inj hpair
          exact ⟨_, _, .left hcalls hnext (hsame ▸ h.represents) hcoherent .refused, Or.inl rfl⟩
      | applied _ hpermitted hwritten _ =>
          obtain ⟨hnext, rfl⟩ := Prod.mk.inj hpair
          have hcoherent' := hcoherent.apply hpermitted (hpermitted.noWrap hfound)
          refine ⟨_, _, .left hcalls hnext hwritten hcoherent' (.took htook ?_), Or.inl rfl⟩
          rintro _ ⟨⟩
      | prepared _ hpermitted hwritten =>
          obtain ⟨hnext, rfl⟩ := Prod.mk.inj hpair
          have hcoherent' := hcoherent.apply hpermitted (hpermitted.noWrap hfound)
          refine ⟨_, _, .left hcalls hnext hwritten hcoherent' (.took htook ?_), True.intro⟩
          rintro _ ⟨⟩
          exact ⟨fun hother => (by cases hother), rfl⟩

/-- The sections and file calls after the first section. -/
theorem CallAlone.went_on (h : CallAlone ext state start request id server core store)
    (hcalls : next.CallsChecked) (hcall : core.writes id = some call)
    (hphase : call.phase ≠ .prepare) {event : Event}
    (houtcome : (∃ outcome, FileOutcome server core id call outcome (next, event)) ∨
      CommitOutcomes ext server store core id call (next, event) ∨
      ∃ answer, DeleteOutcome ext server store core id call answer (next, event)) :
    ∃ core' store', CallAlone ext state start request id next core' store' ∧
      event.AnswersWith start.nextObjectId := by
  obtain ⟨log, hcoherent⟩ := h.coherent
  have hprogress := h.progress
  rw [hcall] at hprogress
  obtain ⟨htook, hid⟩ : start.Took store ∧ call.object.objectId = start.nextObjectId := by
    cases hprogress with
    | waiting _ _ => exact absurd rfl hphase
    | took htook hpast => exact ⟨htook, (hpast call rfl).2⟩
  have hgone {store' : Store} (htook : start.Took store') :
      CallProgress state start request store' none := .took htook (fun _ hnone => by cases hnone)
  have hmoved {phase : WriteObjectPhase} (hlater : phase ≠ .prepare) :
      CallProgress state start request store (some { call with phase }) := by
    refine .took htook ?_
    rintro _ ⟨⟩
    exact ⟨hlater, hid⟩
  generalize hpair : (next, event) = pair at houtcome
  rcases houtcome with ⟨outcome, hfile⟩ | hcommit | ⟨answer, hdelete⟩
  · cases hfile with
    | writeExit _ _ _ _ hsame =>
        obtain ⟨hnext, rfl⟩ := Prod.mk.inj hpair
        exact ⟨_, _, .left hcalls hnext (hsame ▸ h.represents) hcoherent (hgone htook),
          Or.inl rfl⟩
    | cleanupFailed _ _ _ hsame =>
        obtain ⟨hnext, rfl⟩ := Prod.mk.inj hpair
        exact ⟨_, _, .left hcalls hnext (hsame ▸ h.represents) hcoherent (hgone htook),
          Or.inl rfl⟩
    | _ =>
        obtain ⟨hnext, rfl⟩ := Prod.mk.inj hpair
        exact ⟨_, _, .left hcalls hnext h.represents hcoherent
          (hmoved (fun hother => by cases hother)), True.intro⟩
  · cases hcommit with
    | failing _ _ =>
        obtain ⟨hnext, rfl⟩ := Prod.mk.inj hpair
        exact ⟨_, _, .left hcalls hnext h.represents hcoherent
          (hmoved (fun hother => by cases hother)), True.intro⟩
    | exiting hsame _ _ =>
        obtain ⟨hnext, rfl⟩ := Prod.mk.inj hpair
        exact ⟨_, _, .left hcalls hnext (hsame ▸ h.represents) hcoherent (hgone htook),
          Or.inl rfl⟩
    | applied _ hpermitted hwritten _ =>
        obtain ⟨hnext, rfl⟩ := Prod.mk.inj hpair
        have hcoherent' := hcoherent.apply hpermitted (hpermitted.noWrap True.intro)
        exact ⟨_, _, .left hcalls hnext hwritten hcoherent' (hgone (htook.committing hid)),
          Or.inl rfl⟩
    | committed _ hpermitted hwritten =>
        obtain ⟨hnext, rfl⟩ := Prod.mk.inj hpair
        have hcoherent' := hcoherent.apply hpermitted (hpermitted.noWrap True.intro)
        exact ⟨_, _, .left hcalls hnext hwritten hcoherent' (hgone (htook.committing hid)),
          Or.inr ⟨call.object.objectToken, by rw [hid]⟩⟩
  · cases hdelete with
    | notApplied hsame _ =>
        obtain ⟨hnext, rfl⟩ := Prod.mk.inj hpair
        exact ⟨_, _, .left hcalls hnext (hsame ▸ h.represents) hcoherent (hgone htook),
          Or.inl rfl⟩
    | applied hwritten _ =>
        obtain ⟨hnext, rfl⟩ := Prod.mk.inj hpair
        have hpermitted : Permitted store (.discardObjects [call.object.objectId]) :=
          .discardObjects
        have hcoherent' := hcoherent.apply hpermitted (hpermitted.noWrap True.intro)
        exact ⟨_, _, .left hcalls hnext hwritten hcoherent' (hgone (htook.discarding hid)),
          Or.inl rfl⟩

theorem CallAlone.step (h : CallAlone ext state start request id server core store)
    (hdb : Represents ext state.db start) (hfits : ¬ WriteOverflows ext state request) {label : Action × Event}
    (hstep : Server.CallStep ext id server label next) :
    ∃ core' store', CallAlone ext state start request id next core' store' ∧
      label.2.AnswersWith start.nextObjectId := by
  obtain ⟨action, event⟩ := label
  obtain ⟨hstep, hof⟩ := hstep
  have hcalls := Server.step_callsChecked h.calls hstep
  have hrunning {other : Running} (hmode : server.mode = .running other) : other = core :=
    Mode.running.inj (hmode.symm.trans h.mode)
  generalize hresult : (next, event) = result at hstep
  cases Server.step_cases hstep with
  | prepareWrite hmode hcall hphase =>
      obtain rfl := hrunning hmode
      obtain rfl : _ = id := hof
      obtain rfl : store = start := by
        have hprogress := h.progress
        rw [hcall] at hprogress
        cases hprogress with
        | waiting _ _ => rfl
        | took _ hpast => exact absurd hphase (hpast _ rfl).1
      exact h.prepare hdb hfits hcalls hcall hphase hresult
  | fileCall hmode hcall hfile =>
      obtain rfl := hrunning hmode
      obtain rfl : _ = id := hof
      have houtcome := Server.fileCall_outcome hfile
      rw [← hresult] at houtcome
      refine h.went_on hcalls hcall ?_ (Or.inl ⟨_, houtcome⟩)
      intro hphase
      simp [Server.fileCall, hphase] at hfile
  | @commitWrite other own call env hmode hcall hphase =>
      obtain rfl := hrunning hmode
      obtain rfl : own = id := hof
      obtain ⟨log, hcoherent⟩ := h.coherent
      have houtcome : CommitOutcomes ext server store other own call (next, event) := by
        rw [hresult]
        exact Server.commitWrite_outcome h.represents hcoherent.valid
      refine h.went_on hcalls hcall ?_ (Or.inr (Or.inl houtcome))
      rw [hphase]
      exact fun hother => by cases hother
  | @deletePreparing other own call env answer hmode hcall hphase =>
      obtain rfl := hrunning hmode
      obtain rfl : own = id := hof
      have houtcome : DeleteOutcome ext server store other own call answer (next, event) := by
        rw [hresult]
        exact Server.deletePreparing_outcome h.represents
      refine h.went_on hcalls hcall ?_ (Or.inr (Or.inr ⟨_, houtcome⟩))
      rw [hphase]
      exact fun hother => by cases hother
  | _ => exact hof.elim

/-- What the entry of a call leaves. -/
theorem Server.enterWrite_alone (hdb : Represents ext state.db start)
    (hcoherent : Coherent ext start log) {random : List GetrandomResult} {event : Event}
    (h : (Server.idle state config dir).step ext (.enterWrite id request random) =
      some (next, event)) :
    ∃ core, CallAlone ext state start request id next core start := by
  have hidle : (Server.idle state config dir).CallsChecked := by
    intro core hmode
    obtain rfl := Mode.running.inj hmode
    constructor
    · intro _ _ _ hnone
      cases hnone
    · intro _ _ hnone
      cases hnone
  have hcalls := Server.step_callsChecked hidle h
  have henter : Server.enterWrite (Server.idle state config dir) _ id request random =
      some (next, event) := h
  unfold Server.enterWrite at henter
  dsimp only at henter
  split at henter
  · obtain ⟨rfl, rfl⟩ := Prod.mk.inj (Option.some.inj henter)
    exact ⟨_, rfl, hcalls, hdb, ⟨log, hcoherent⟩, .refused⟩
  · obtain ⟨rfl, rfl⟩ := Prod.mk.inj (Option.some.inj henter)
    exact ⟨_, rfl, hcalls, hdb, ⟨log, hcoherent⟩, .refused⟩
  · rename_i havailable _
    split at henter
    · cases henter
    · obtain ⟨rfl, rfl⟩ := Prod.mk.inj (Option.some.inj henter)
      exact ⟨_, rfl, hcalls, hdb, ⟨log, hcoherent⟩, .refused⟩
    · rename_i hrandom
      obtain ⟨rfl, rfl⟩ := Prod.mk.inj (Option.some.inj henter)
      refine ⟨_, rfl, hcalls, hdb, ⟨log, hcoherent⟩, ?_⟩
      simp only [Running.setWrite, Function.update_self]
      exact .waiting (available_none havailable) hrandom

theorem writeObject_neverWraps (hdb : Represents ext state.db start)
    (hcoherent : Coherent ext start log) (hfits : ¬ WriteOverflows ext state request) :
    WriteNeverWraps ext (Server.idle state config dir) id request := by
  intro random entered event labels final henter hrun
  obtain ⟨core, hentered⟩ := Server.enterWrite_alone hdb hcoherent henter
  have hinvariant := hrun.history
    (P := fun labels server => (∃ core store, CallAlone ext state start request id server core store) ∧
      ∀ label ∈ labels, label.2.AnswersWith start.nextObjectId)
    ⟨⟨core, start, hentered⟩, by simp⟩ (by
      rintro labels server label next - ⟨⟨core, store, halone⟩, hanswers⟩ hstep
      obtain ⟨core', store', halone', hanswer⟩ := halone.step hdb hfits hstep
      refine ⟨⟨core', store', halone'⟩, ?_⟩
      intro other hother
      rcases List.mem_append.mp hother with hearlier | hlast
      · exact hanswers other hearlier
      · rw [List.mem_singleton.mp hlast]
        exact hanswer)
  obtain ⟨⟨core', store', halone⟩, hanswers⟩ := hinvariant
  constructor
  · obtain ⟨log', hcoherent'⟩ := halone.coherent
    have hmoved {after : Store} {entry : Option WriteObjectCall}
        (hprogress : CallProgress state start request after entry)
        (hcoherent' : Coherent ext after log') (hafter : Represents ext final.db after) :
        state.db.MovedOn ext final.db := by
      cases hprogress with
      | took htook _ => exact htook.movedOn hcoherent hcoherent' hdb hafter
      | _ => exact hcoherent.movedOn_same hdb hafter
    exact hmoved halone.progress hcoherent' halone.represents
  · intro action call applied status data hmem
    rcases hanswers _ hmem with rfl | ⟨token, rfl⟩
    · exact True.intro
    · refine ⟨hcoherent.objectIndex.nextObjectId, ?_⟩
      show state.db.preparingObject ext start.nextObjectId = none ∧
        state.db.committedObject ext start.nextObjectId = none
      rw [hdb.preparingObject_eq, hdb.committedObject_eq]
      exact hcoherent.objectIndex.next_free

/-- With no failure in its way the first section gets to its commit. -/
theorem WriteOverflows.prepares (h : WriteOverflows ext state request)
    (hdb : Represents ext state.db start) :
    ∃ random objectToken batch object, generateObjectToken random = some (.ok objectToken) ∧
      prepareBatch ext state.db {} request (newObject request objectToken) =
        .ok (batch, object) := by
  obtain ⟨random, objectToken, hrandom, hserializes⟩ := h.serializes
  obtain ⟨payload, hpayload⟩ := Option.isSome_iff_exists.mp hserializes
  have hsnapshot : UnifiedStorage.createSnapshot state.db {} = .ok state.db := rfl
  have hnext := (@Represents.reads_getNextObjectId ext _ _ {} hdb).eq_ok
  rw [hdb.counter_nextObjectId] at hpayload
  have hbatch : ∃ batch object, prepareBatch ext state.db {} request
      (newObject request objectToken) = .ok (batch, object) := by
    unfold prepareBatch
    rw [hsnapshot]
    simp only [ok_bind, h.authenticated]
    rw [hnext]
    simp only [ok_bind, UnifiedStorage.putPreparingObject, UnifiedStorage.serializeObject,
      hpayload]
    exact ⟨_, _, rfl⟩
  obtain ⟨batch, object, hbatch⟩ := hbatch
  exact ⟨random, objectToken, batch, object, hrandom, hbatch⟩

theorem Server.enterWrite_entered (havailable : state.fatalError = none)
    (hentry : writeObjectEntry request = .ok ()) {random : List GetrandomResult}
    {objectToken : String} (hrandom : generateObjectToken random = some (.ok objectToken)) :
    ∃ entered core, (Server.idle state config dir).step ext (.enterWrite id request random) =
        some (entered, .silent) ∧ entered.db = state.db ∧ entered.mode = .running core ∧
      core.writes id = some ⟨request, newObject request objectToken, .prepare⟩ := by
  have hstep : (Server.idle state config dir).step ext (.enterWrite id request random) =
      (Server.idle state config dir).enterWrite
        { config, fatalError := state.fatalError, commitGeneration := state.commitGeneration }
        id request random := rfl
  rw [hstep]
  simp only [Server.enterWrite, havailable, ensureAvailable, hentry, hrandom]
  exact ⟨_, _, rfl, rfl, rfl, Function.update_self _ _ _⟩

theorem Server.prepareWrite_step (hmode : server.mode = .running core)
    (hcall : core.writes id = some call) (hphase : call.phase = .prepare) {batch : WriteBatch}
    {object : StoredObject}
    (hbatch : prepareBatch ext server.db {} call.request call.object = .ok (batch, object)) :
    ∃ event next, Server.CallStep ext id server (.prepareWrite id {}, event) next ∧
      next.db = server.db.write batch := by
  have hstep : server.step ext (.prepareWrite id {}) =
      some (server.prepareWrite ext core id call {}) := by
    simp only [Server.step, hmode, hcall, hphase, if_true]
  rw [Server.prepareWrite_prepared hbatch rfl] at hstep
  exact ⟨_, _, ⟨hstep, rfl⟩, rfl⟩

/-- A call that overflows sets the counter to 0. -/
theorem WriteOverflows.not_neverWraps (h : WriteOverflows ext state request)
    (hdb : Represents ext state.db start) (hcoherent : Coherent ext start log) :
    ¬ WriteNeverWraps ext (Server.idle state config dir) id request := by
  intro hnever
  obtain ⟨random, objectToken, batch, object, hrandom, hbatch⟩ := h.prepares hdb
  obtain ⟨entered, core, henter, hsame, hmode, hcall⟩ :=
    @Server.enterWrite_entered ext state config dir id request h.available h.entry random _ hrandom
  rw [← hsame] at hbatch
  obtain ⟨event, next, hstep, hwritten⟩ := Server.prepareWrite_step hmode hcall rfl hbatch
  obtain ⟨hmoved, _⟩ := hnever random entered .silent _ next henter (Run.single hstep)
  obtain ⟨core', halone⟩ := Server.enterWrite_alone hdb hcoherent henter
  have hchecked := (halone.calls _ hmode).writes id _ hcall
  obtain ⟨rfl, _, _, hstored⟩ := prepareBatch_ok halone.represents hchecked hbatch
  rw [← hwritten] at hstored
  have hwraps := h.wraps
  rw [hdb.counter_nextObjectId] at hwraps
  have hzero : next.db.counter kNextObjectIdKey = 0 := by
    rw [hstored.counter_nextObjectId]
    exact hwraps
  rcases hmoved.counters kNextObjectIdKey (by simp [counterKeys]) with heq | ⟨_, hne⟩
  · have hbefore : (Server.idle state config dir).db.counter kNextObjectIdKey =
        start.nextObjectId := hdb.counter_nextObjectId
    rw [hzero, hbefore] at heq
    exact hcoherent.objectIndex.nextObjectId heq.symm
  · exact hne hzero

end WriteObject

/-- From every state that satisfies the storage invariants, an operation on its own wraps a
counter exactly when it is an accepted one that overflows: an allocation past 2^64, or the creation
of the channel or object with the last id. -/
theorem counters_wrap_iff_overflow (ext : Externals) {state : CoreState}
    (h : state.db.Coherent ext) (config : Config) (dir : ObjectDirectory) :
    (∀ operation tsMs, (∀ env after status data,
        operation.call ext config state env tsMs = some (after, status, data) →
          NeverWraps ext state.db after.db status data) ↔ ¬ Overflows ext state operation) ∧
    ∀ id request, WriteNeverWraps ext (Server.idle state config dir) id request ↔
      ¬ WriteOverflows ext state request := by
  obtain ⟨store, log, hdb, hcoherent⟩ := h
  constructor
  · intro operation tsMs
    constructor
    · intro hnever hover
      obtain ⟨env, after, status, data, hcall, hwraps⟩ := hover.wraps hdb hcoherent
      exact hwraps (hnever env after status data hcall)
    · intro hfits env after status data hcall
      exact Mutation.call_neverWraps hdb hcoherent hfits hcall
  · intro id request
    constructor
    · intro hnever hover
      exact hover.not_neverWraps hdb hcoherent hnever
    · exact writeObject_neverWraps hdb hcoherent

namespace Reference

/-- A new store whose uuids are all allocated but the last. -/
def lastUuidState : CoreState :=
  { db := (UnifiedStorage.initializeNew externals 5).write
      [.put .metadata (Bytes.ofString kNextUuidKey) (encodeUint64 18446744073709551615)] }

theorem initial_coherent : (UnifiedStorage.initializeNew externals 5).Coherent externals :=
  ⟨initialStore 5, [initializationMessage 5], initialStore_represents externals 5,
    initialStore_coherent externals 5⟩

theorem lastUuidState_coherent : lastUuidState.db.Coherent externals := by
  have hstored : Represents externals lastUuidState.db
      ((initialStore 5).apply (.allocateUuids 18446744073709551615)) :=
    ((initialStore_represents externals 5).start.setNextUuid rfl).2
  have hpermitted : Permitted (initialStore 5) (.allocateUuids 18446744073709551615) :=
    .allocateUuids (by decide)
  have hfits : (Effect.allocateUuids 18446744073709551615).Fits (initialStore 5) := by
    show (1 : UInt64) < 18446744073709551615
    decide
  exact ⟨_, _, hstored,
    (initialStore_coherent externals 5).apply hpermitted (hpermitted.noWrap hfits)⟩

theorem first_allocation_never_wraps :
    (UnifiedStorage.initializeNew externals 5).Coherent externals ∧
      ∀ env after status data, (Mutation.allocateUuids { count := 2 }).call externals config
          { db := UnifiedStorage.initializeNew externals 5 } env 0 = some (after, status, data) →
        NeverWraps externals (UnifiedStorage.initializeNew externals 5) after.db status data := by
  refine ⟨initial_coherent, ?_⟩
  refine ((@counters_wrap_iff_overflow externals
    { db := UnifiedStorage.initializeNew externals 5 } initial_coherent config
    DurableDirectory.empty).1 _ 0).mpr ?_
  rintro ⟨_, _, hover⟩
  revert hover
  decide +kernel

theorem allocation_past_the_end_wraps : lastUuidState.db.Coherent externals ∧
    ((Mutation.allocateUuids { count := 2 }).call externals config lastUuidState {} 0).map
        (fun result => (result.2.1.isOk, result.1.db.counter kNextUuidKey)) = some (true, 1) ∧
    ¬ ∀ env after status data, (Mutation.allocateUuids { count := 2 }).call externals config
        lastUuidState env 0 = some (after, status, data) →
      NeverWraps externals lastUuidState.db after.db status data := by
  refine ⟨lastUuidState_coherent, by decide +kernel, ?_⟩
  intro hnever
  obtain ⟨store, log, hdb, hcoherent⟩ := lastUuidState_coherent
  have hover : Overflows externals lastUuidState (.allocateUuids { count := 2 }) :=
    ⟨rfl, rfl, by decide +kernel⟩
  obtain ⟨env, after, status, data, hcall, hwraps⟩ :=
    @Overflows.wraps externals store log lastUuidState config 0 hdb hcoherent _ hover
  exact hwraps (hnever env after status data hcall)

end Reference

end OpenEvent
