import OpenEvent.Coherence
import OpenEvent.Lib.Fallible
import OpenEvent.Refinement.Getters
import OpenEvent.Refinement.Setters

/-!
The batch of every single-section mutation is a permitted effect on the
abstract store, and says what the request asked for.
-/

namespace OpenEvent

open OpenEventCore Fallible

/-! ### Requests and their effects -/

def PublishRequest.message (request : PublishRequest) (tsMs : UInt64) : EventMessage :=
  { seq := request.seq, channelId := request.channelId, principal := request.principal,
    recipients := request.recipients, payload := request.payload, tsMs, uuid := request.uuid,
    objectKeys := request.objectKeys }

def PublishAutoSeqRequest.message (request : PublishAutoSeqRequest) (seq tsMs : UInt64) :
    EventMessage :=
  { seq, channelId := request.channelId, principal := request.principal,
    recipients := request.recipients, payload := request.payload, tsMs, uuid := request.uuid,
    objectKeys := request.objectKeys }

def CreateChannelRequest.channel (request : CreateChannelRequest) (channelId : UInt64) :
    ChannelInfo :=
  { channelId, name := request.name, visibility := request.visibility,
    protocol := request.protocol, description := request.description,
    creator := some request.principal,
    members := initialMembers request.principal request.members }

/-- The message that announces a change of a channel. -/
def Store.announcement (store : Store) (channelId : UInt64) (payload : Bytes) (tsMs : UInt64) :
    EventMessage :=
  { seq := store.maxSeq + 1, channelId, principal := 0, uuid := store.nextUuid, payload, tsMs }

/-- What the commit of a mutation does to the store and what it answers. -/
inductive Performs (store : Store) : Mutation → Effect → ResponseData → Prop
  | allocateUuids {request : AllocateUuidsRequest} :
      Performs store (.allocateUuids request)
        (.allocateUuids (store.nextUuid + request.count.toUInt64))
        (.uuids ((List.range request.count.toUInt64.toNat).map
          (fun offset => store.nextUuid + UInt64.ofNat offset)))
  | publish {request : PublishRequest} {tsMs : UInt64} :
      store.tokens request.principal request.token = true → request.seq = store.maxSeq + 1 →
      Performs store (.publish request) (.publish (request.message tsMs)) .empty
  | publishAutoSeq {request : PublishAutoSeqRequest} {tsMs : UInt64} :
      store.tokens request.principal request.token = true →
      Performs store (.publishAutoSeq request)
        (.publish (request.message (store.maxSeq + 1) tsMs)) (.seq (store.maxSeq + 1))
  | createChannel {request : CreateChannelRequest} {tsMs : UInt64} :
      store.tokens request.principal request.token = true →
      Performs store (.createChannel request)
        (.createChannel (request.channel store.nextChannelId)
          (store.announcement store.nextChannelId
            (channelInitializedPayload (request.channel store.nextChannelId)) tsMs))
        (.channel (request.channel store.nextChannelId))
  | addMember {request : MemberRequest} {channel : ChannelInfo} {tsMs : UInt64} :
      store.tokens request.principal request.token = true →
      store.channels request.channelId = some channel →
      channel.creator = some request.principal →
      Performs store (.addMember request)
        (.changeMembers { channel with members := channel.members ++ [request.targetPrincipal] }
          (store.announcement channel.channelId
            (memberChangedPayload "system.member_added" request.targetPrincipal) tsMs)) .empty
  | removeMember {request : MemberRequest} {channel : ChannelInfo} {tsMs : UInt64} :
      store.tokens request.principal request.token = true →
      store.channels request.channelId = some channel →
      channel.creator = some request.principal →
      Performs store (.removeMember request)
        (.changeMembers { channel with members := channel.members.erase request.targetPrincipal }
          (store.announcement channel.channelId
            (memberChangedPayload "system.member_removed" request.targetPrincipal) tsMs)) .empty
  | addToken {request : AddTokenRequest} {token : Bytes} :
      Performs store (.addToken request) (.addToken request.principal token) (.token token)
  | deleteToken {request : DeleteTokenRequest} :
      Performs store (.deleteToken request) (.deleteToken request.principal request.token) .empty

/-- What the section of a mutation has shown when it yields a batch. -/
structure BatchSpec (ext : Externals) (db : Db) (store : Store) (mutation : Mutation)
    (batch : WriteBatch) (data : ResponseData) (effect : Effect) : Prop where
  performs : Performs store mutation effect data
  permitted : Permitted store effect
  represents : Represents ext (db.write batch) (store.apply effect)

section Checks

variable {α : Type} {result : Result α} {value : α}

theorem plain_ok (h : plain result = .ok value) : result = .ok value := by
  cases result with
  | ok found => cases h; rfl
  | error status => cases h

theorem latching_ok (h : latching result = .ok value) : result = .ok value := by
  cases result with
  | ok found => cases h; rfl
  | error status => cases h

end Checks

variable {ext : Externals} {db : Db} {store : Store} {log : List EventMessage}
variable {faults : ReadFaults} {env : CallEnv} {batch : WriteBatch} {data : ResponseData}

theorem createSnapshot_ok {snapshot : Db}
    (h : plain (UnifiedStorage.createSnapshot db faults) = .ok snapshot) : db = snapshot :=
  ((reads_createSnapshot db faults).of_ok (plain_ok h)).symm

theorem authenticate_ok (hdb : Represents ext db store) {principal : UInt64} {token : Bytes}
    (h : authenticate db faults principal token = .ok ()) :
    principal ≠ 0 ∧ token ≠ [] ∧ store.tokens principal token = true := by
  unfold authenticate at h
  split at h
  · cases h
  · rename_i hprincipal
    split at h
    · cases h
    · rename_i htoken
      obtain ⟨found, hfound, h⟩ := bind_ok h
      obtain rfl := (hdb.reads_hasToken principal token).of_ok hfound
      split at h
      · exact ⟨hprincipal, htoken, ‹_›⟩
      · cases h

theorem validateAvailableUuid_ok (hdb : Represents ext db store) (hvalid : store.Valid ext)
    {uuid : UInt64} (h : validateAvailableUuid db faults uuid = .ok ()) :
    uuid ≠ 0 ∧ uuid < store.nextUuid ∧ store.usedUuids uuid = none := by
  unfold validateAvailableUuid at h
  split at h
  · cases h
  · rename_i hzero
    obtain ⟨nextUuid, hnext, h⟩ := bind_ok h
    obtain rfl := hdb.reads_getNextUuid.of_ok hnext
    obtain ⟨hbelow, h⟩ := guard_ok h
    obtain ⟨used, hused, h⟩ := bind_ok h
    obtain rfl := (hdb.reads_getUsedUuidSeq hvalid uuid).of_ok hused
    have hnone : ¬ (store.usedUuids uuid).isSome = true := by
      intro hsome
      rw [if_pos hsome] at h
      cases h
    exact ⟨hzero, UInt64.not_le.mp hbelow, by simpa using hnone⟩

theorem validateObjectKeysShape_ok {objectKeys : List ObjectKey}
    (h : validateObjectKeysShape objectKeys = .ok ()) : objectKeys.length ≤ kMaxObjectKeys := by
  unfold validateObjectKeysShape at h
  split at h
  · cases h
  · rename_i hle
    exact not_lt.mp hle

theorem validateRecipients_ok {channel : ChannelInfo} {recipients : List UInt64}
    (h : validateRecipients channel recipients = .ok ()) :
    ∀ recipient ∈ recipients, recipient ∈ channel.members := by
  unfold validateRecipients at h
  split at h
  · rename_i hall
    simpa using hall
  · cases h

theorem loadChannel_ok (hdb : Represents ext db store) (hvalid : store.Valid ext)
    {channelId : UInt64} (hne : channelId ≠ 0) {found : Option ChannelInfo}
    (h : loadChannel ext db faults channelId = .ok found) : found = store.channels channelId := by
  rw [loadChannel, if_neg hne] at h
  exact (hdb.reads_getChannel hvalid channelId).of_ok h

/-! ### Object keys -/

theorem constantTimeEquals_iff (left right : String) :
    ObjectFileStore.constantTimeEquals left right = true ↔ left = right := by
  constructor
  · intro h
    simp only [ObjectFileStore.constantTimeEquals, Bool.and_eq_true, decide_eq_true_eq] at h
    apply String.toByteArray_inj.mp
    apply ByteArray.ext
    exact Array.toList_inj.mp h.2
  · rintro rfl
    simp [ObjectFileStore.constantTimeEquals]

theorem mem_distinctObjectIds {objectKeys : List ObjectKey} {key : ObjectKey}
    (h : key ∈ objectKeys) : key.objectId ∈ distinctObjectIds objectKeys := by
  have hfold (keys : List ObjectKey) (ids : List UInt64)
      (hmem : key ∈ keys ∨ key.objectId ∈ ids) :
      key.objectId ∈ keys.foldl (fun ids key =>
        if ids.contains key.objectId then ids else ids ++ [key.objectId]) ids := by
    induction keys generalizing ids with
    | nil => simpa using hmem
    | cons first rest ih =>
        refine ih _ ?_
        rcases hmem with hkey | hids
        · rcases List.mem_cons.mp hkey with rfl | hrest
          · right
            dsimp only
            split_ifs with hcontains
            · simpa using hcontains
            · simp
          · exact Or.inl hrest
        · right
          dsimp only
          split
          · exact hids
          · simp [hids]
  exact hfold objectKeys [] (Or.inl h)

theorem lookupObject_map {objectIds : List UInt64} {objectId : UInt64}
    (h : objectId ∈ objectIds) (lookup : UInt64 → Option StoredObject) :
    lookupObject objectIds (objectIds.map lookup) objectId = lookup objectId := by
  have hlt := List.idxOf_lt_length_of_mem h
  have hget : objectIds[objectIds.idxOf objectId] = objectId := List.getElem_idxOf hlt
  simp [lookupObject, hlt]

/-- The key check of the publish path accepts committed objects with their
tokens only. -/
theorem objectKeys_ok {objectKeys : List ObjectKey}
    (h : ¬ objectKeys.any (fun key =>
      match lookupObject (distinctObjectIds objectKeys)
        ((distinctObjectIds objectKeys).map store.committed) key.objectId with
      | none => true
      | some object => !ObjectFileStore.constantTimeEquals object.objectToken key.objectToken) = true) :
    ∀ key ∈ objectKeys, ∃ object, store.committed key.objectId = some object ∧
      object.objectToken = key.objectToken := by
  intro key hkey
  have hfound := lookupObject_map (mem_distinctObjectIds hkey) store.committed
  simp only [List.any_eq_true, not_exists, not_and] at h
  have haccepted := h key hkey
  rw [hfound] at haccepted
  cases hobject : store.committed key.objectId with
  | none => simp [hobject] at haccepted
  | some object =>
      refine ⟨object, rfl, ?_⟩
      simp only [hobject, Bool.not_eq_true', Bool.not_eq_false] at haccepted
      exact (constantTimeEquals_iff _ _).mp haccepted

/-! ### Publish and PublishAutoSeq -/

theorem Represents.start (hdb : Represents ext db store) : Represents ext (db.write []) store :=
  hdb

/-- The batch of `BuildPublishBatch`, once the checks before it have passed. -/
theorem buildPublishBatch_ok (hdb : Represents ext db store) (hvalid : store.Valid ext)
    (message : EventMessage) (hseq : message.seq = store.maxSeq + 1)
    (huuid : message.uuid < store.nextUuid) (hunused : store.usedUuids message.uuid = none)
    (hprincipal : message.principal ≠ 0) (hrecipients : 0 ∉ message.recipients)
    (hkeys : message.objectKeys.length ≤ kMaxObjectKeys)
    (h : buildPublishBatch ext db faults message.principal message.channelId message.seq
      message.uuid message.recipients message.payload message.objectKeys message.tsMs = .ok batch) :
    PublishAllowed store message ∧
      Represents ext (db.write batch) (store.apply (.publish message)) := by
  unfold buildPublishBatch at h
  obtain ⟨hchannelId, h⟩ := guard_ok h
  obtain ⟨found, hfound, h⟩ := bind_ok h
  obtain rfl := loadChannel_ok hdb hvalid hchannelId (plain_ok hfound)
  cases hchannel : store.channels message.channelId with
  | none => simp [hchannel] at h
  | some channel =>
      simp only [hchannel] at h
      obtain ⟨hwrite, h⟩ := guard_ok h
      obtain ⟨_, hvalidated, h⟩ := bind_ok h
      have hmembers := validateRecipients_ok (plain_ok hvalidated)
      obtain ⟨objects, hobjects, h⟩ := bind_ok h
      obtain rfl := (hdb.reads_getCommittedObjects hvalid _).of_ok (latching_ok hobjects)
      obtain ⟨haccepted, h⟩ := guard_ok h
      obtain ⟨withMessage, hmessage, h⟩ := bind_ok h
      obtain ⟨withUuid, husedUuid, h⟩ := bind_ok h
      have hput := hdb.start.putMessage (plain_ok hmessage)
      obtain ⟨hzero, hseqZero, hused⟩ := hput.putUsedUuid (plain_ok husedUuid)
      refine ⟨?_, hused.setMaxSeq (plain_ok h)⟩
      refine ⟨⟨hseq, hseqZero, hzero⟩, huuid, hunused, hprincipal, hchannelId, ?_, hkeys,
        objectKeys_ok haccepted⟩
      refine ⟨channel, hchannel, by simpa using hwrite, ?_⟩
      intro recipient hrecipient
      refine ⟨?_, hmembers recipient hrecipient⟩
      rintro rfl
      exact hrecipients hrecipient

theorem publishEntry_ok {principal : UInt64} {recipients : List UInt64}
    (h : publishEntry principal recipients = .ok ()) : principal ≠ 0 ∧ 0 ∉ recipients := by
  unfold publishEntry at h
  split at h
  · cases h
  · rename_i hcheck
    simpa using hcheck

theorem publishBatch_ok (hdb : Represents ext db store) (hvalid : store.Valid ext) {config : Config}
    {request : PublishRequest} {tsMs : UInt64}
    (hentry : publishEntry request.principal request.recipients = .ok ())
    (h : publishBatch ext config db env request tsMs = .ok (batch, data)) :
    ∃ effect, BatchSpec ext db store (.publish request) batch data effect := by
  obtain ⟨hprincipal, hrecipients⟩ := publishEntry_ok hentry
  unfold publishBatch at h
  obtain ⟨_, _, h⟩ := bind_ok h
  obtain ⟨snapshot, hsnapshot, h⟩ := bind_ok h
  obtain rfl := createSnapshot_ok hsnapshot
  obtain ⟨_, hauth, h⟩ := bind_ok h
  obtain ⟨_, huuid, h⟩ := bind_ok h
  obtain ⟨_, _, h⟩ := bind_ok h
  obtain ⟨_, hshape, h⟩ := bind_ok h
  obtain ⟨maxSeq, hmaxSeq, h⟩ := bind_ok h
  obtain rfl := hdb.reads_getMaxSeq.of_ok (plain_ok hmaxSeq)
  obtain ⟨hseq, h⟩ := guard_ok h
  obtain ⟨built, hbuilt, h⟩ := bind_ok h
  obtain ⟨_, _, h⟩ := bind_ok h
  obtain ⟨rfl, rfl⟩ : built = batch ∧ ResponseData.empty = data := by
    simpa using Except.ok.inj h
  obtain ⟨_, hbelow, hunused⟩ := validateAvailableUuid_ok hdb hvalid (plain_ok huuid)
  have hseq : request.seq = store.maxSeq + 1 := by simpa using hseq
  have hspec := buildPublishBatch_ok hdb hvalid (request.message tsMs) hseq hbelow hunused
    hprincipal hrecipients (validateObjectKeysShape_ok (plain_ok hshape)) hbuilt
  exact ⟨_, .publish (authenticate_ok hdb (plain_ok hauth)).2.2 hseq, .publish hspec.1, hspec.2⟩

theorem publishAutoSeqBatch_ok (hdb : Represents ext db store) (hvalid : store.Valid ext)
    {config : Config} {request : PublishAutoSeqRequest} {tsMs : UInt64}
    (hentry : publishEntry request.principal request.recipients = .ok ())
    (h : publishAutoSeqBatch ext config db env request tsMs = .ok (batch, data)) :
    ∃ effect, BatchSpec ext db store (.publishAutoSeq request) batch data effect := by
  obtain ⟨hprincipal, hrecipients⟩ := publishEntry_ok hentry
  unfold publishAutoSeqBatch at h
  obtain ⟨_, _, h⟩ := bind_ok h
  obtain ⟨snapshot, hsnapshot, h⟩ := bind_ok h
  obtain rfl := createSnapshot_ok hsnapshot
  obtain ⟨_, hauth, h⟩ := bind_ok h
  obtain ⟨_, huuid, h⟩ := bind_ok h
  obtain ⟨_, _, h⟩ := bind_ok h
  obtain ⟨_, hshape, h⟩ := bind_ok h
  obtain ⟨maxSeq, hmaxSeq, h⟩ := bind_ok h
  obtain rfl := hdb.reads_getMaxSeq.of_ok (plain_ok hmaxSeq)
  obtain ⟨built, hbuilt, h⟩ := bind_ok h
  obtain ⟨_, _, h⟩ := bind_ok h
  obtain ⟨rfl, rfl⟩ : built = batch ∧ ResponseData.seq (store.maxSeq + 1) = data := by
    simpa using Except.ok.inj h
  obtain ⟨_, hbelow, hunused⟩ := validateAvailableUuid_ok hdb hvalid (plain_ok huuid)
  have hspec := buildPublishBatch_ok hdb hvalid (request.message (store.maxSeq + 1) tsMs)
    rfl hbelow hunused hprincipal hrecipients (validateObjectKeysShape_ok (plain_ok hshape)) hbuilt
  exact ⟨_, .publishAutoSeq (authenticate_ok hdb (plain_ok hauth)).2.2, .publish hspec.1, hspec.2⟩

/-! ### Channels -/

/-- The batch of `BuildChannelMutationBatch`. -/
theorem buildChannelMutationBatch_ok (hdb : Represents ext db store) {channel : ChannelInfo}
    {payload : Bytes} (h : buildChannelMutationBatch ext db env channel payload = .ok batch) :
    SystemMessage store channel (store.announcement channel.channelId payload env.nowMs) ∧
      Represents ext (db.write batch) (store.appendChange channel
        (store.announcement channel.channelId payload env.nowMs)) := by
  unfold buildChannelMutationBatch at h
  obtain ⟨maxSeq, hmaxSeq, h⟩ := bind_ok h
  obtain rfl := hdb.reads_getMaxSeq.of_ok hmaxSeq
  obtain ⟨nextUuid, hnextUuid, h⟩ := bind_ok h
  obtain rfl := hdb.reads_getNextUuid.of_ok hnextUuid
  obtain ⟨withChannel, hchannel, h⟩ := bind_ok h
  obtain ⟨withMessage, hmessage, h⟩ := bind_ok h
  obtain ⟨withUuid, huuid, h⟩ := bind_ok h
  obtain ⟨withMaxSeq, hlast, h⟩ := bind_ok h
  have hput := (hdb.start.putChannel hchannel).putMessage hmessage
  obtain ⟨hzero, hseqZero, hused⟩ := hput.putUsedUuid huuid
  obtain ⟨hnext, hdone⟩ := (hused.setMaxSeq hlast).setNextUuid h
  exact ⟨⟨⟨rfl, hseqZero, hzero⟩, rfl, hnext, rfl, rfl, rfl, rfl⟩, hdone⟩

theorem mem_initialMembers {principal : UInt64} {members : List UInt64} {member : UInt64} :
    member ∈ initialMembers principal members ↔ member = principal ∨ member ∈ members := by
  have hfold (rest seen : List UInt64) :
      member ∈ rest.foldl (fun seen member =>
        if seen.contains member then seen else seen ++ [member]) seen ↔
          member ∈ seen ∨ member ∈ rest := by
    induction rest generalizing seen with
    | nil => simp
    | cons first rest ih =>
        rw [List.foldl_cons, ih, List.mem_cons]
        split_ifs with hcontains
        · have hmem : first ∈ seen := by simpa using hcontains
          constructor
          · tauto
          · rintro (hseen | rfl | hrest)
            · exact Or.inl hseen
            · exact Or.inl hmem
            · exact Or.inr hrest
        · simp only [List.mem_append, List.mem_singleton]
          tauto
  simpa [initialMembers] using hfold members [principal]

theorem nodup_initialMembers (principal : UInt64) (members : List UInt64) :
    (initialMembers principal members).Nodup := by
  have hfold (rest seen : List UInt64) (hseen : seen.Nodup) :
      (rest.foldl (fun seen member =>
        if seen.contains member then seen else seen ++ [member]) seen).Nodup := by
    induction rest generalizing seen with
    | nil => exact hseen
    | cons first rest ih =>
        rw [List.foldl_cons]
        apply ih
        split_ifs with hcontains
        · exact hseen
        · rw [← List.concat_eq_append]
          exact hseen.concat (by simpa using hcontains)
  exact hfold members [principal] (by simp)

theorem createChannelEntry_ok {request : CreateChannelRequest}
    (h : createChannelEntry request = .ok ()) (hprincipal : request.principal ≠ 0)
    (hmembers : (initialMembers request.principal request.members).length ≤ kMaxChannelMembers) :
    NewChannel store (request.channel store.nextChannelId) := by
  unfold createChannelEntry at h
  split at h
  · cases h
  · rename_i hcheck
    simp only [not_or, not_lt] at hcheck
    obtain ⟨_, hzero, hname, hnameLe, hprotocol, hdescription, _⟩ := hcheck
    refine ⟨rfl, ⟨request.principal, rfl, hprincipal, mem_initialMembers.mpr (Or.inl rfl)⟩, ?_,
      nodup_initialMembers _ _, Bool.not_eq_true _ ▸ hname, hnameLe, hprotocol, hdescription, ?_,
      hmembers⟩
    · intro hmember
      rcases mem_initialMembers.mp hmember with heq | hmem
      · exact hprincipal heq.symm
      · exact hzero (by simpa using hmem)
    · intro number hvisibility
      have hother : request.visibility = .other number := hvisibility
      rw [hother] at h
      cases h

theorem createChannelBatch_ok (hdb : Represents ext db store) {request : CreateChannelRequest}
    (hentry : createChannelEntry request = .ok ())
    (h : createChannelBatch ext db env request = .ok (batch, data)) :
    ∃ effect, BatchSpec ext db store (.createChannel request) batch data effect := by
  unfold createChannelBatch at h
  obtain ⟨snapshot, hsnapshot, h⟩ := bind_ok h
  obtain rfl := createSnapshot_ok hsnapshot
  obtain ⟨_, hauth, h⟩ := bind_ok h
  obtain ⟨hprincipal, _, htoken⟩ := authenticate_ok hdb (plain_ok hauth)
  obtain ⟨hmembers, h⟩ := guard_ok h
  obtain ⟨nextChannelId, hnextChannelId, h⟩ := bind_ok h
  obtain rfl := hdb.reads_getNextChannelId.of_ok (plain_ok hnextChannelId)
  obtain ⟨built, hbuilt, h⟩ := bind_ok h
  obtain ⟨complete, hcomplete, h⟩ := bind_ok h
  obtain ⟨rfl, rfl⟩ : complete = batch ∧
      ResponseData.channel (request.channel store.nextChannelId) = data :=
    Prod.mk.inj (Except.ok.inj h)
  obtain ⟨hsystem, hchange⟩ := buildChannelMutationBatch_ok hdb (plain_ok hbuilt)
  exact ⟨_, .createChannel htoken,
    .createChannel (createChannelEntry_ok hentry hprincipal (not_lt.mp hmembers)) hsystem rfl,
    hchange.setNextChannelId (plain_ok hcomplete)⟩

theorem loadOwnedChannel_ok (hdb : Represents ext db store) (hvalid : store.Valid ext)
    {request : MemberRequest} {denied : String} {channel : ChannelInfo}
    (h : loadOwnedChannel ext db faults request denied = .ok channel) :
    store.tokens request.principal request.token = true ∧
      store.channels request.channelId = some channel ∧
      channel.creator = some request.principal := by
  unfold loadOwnedChannel at h
  obtain ⟨_, hauth, h⟩ := bind_ok h
  obtain ⟨hne, h⟩ := guard_ok h
  obtain ⟨found, hfound, h⟩ := bind_ok h
  obtain rfl := loadChannel_ok hdb hvalid hne (plain_ok hfound)
  cases hchannel : store.channels request.channelId with
  | none => simp [hchannel] at h
  | some stored =>
      simp only [hchannel] at h
      obtain ⟨hcreator, h⟩ := guard_ok h
      obtain rfl : stored = channel := Except.ok.inj h
      exact ⟨(authenticate_ok hdb (plain_ok hauth)).2.2, rfl, by simpa using hcreator⟩

theorem memberEntry_ok {request : MemberRequest} (h : memberEntry request = .ok ()) :
    request.targetPrincipal ≠ 0 := by
  unfold memberEntry at h
  split at h
  · cases h
  · rename_i hcheck
    exact fun hzero => hcheck (Or.inr hzero)

theorem addMemberBatch_ok (hdb : Represents ext db store) (hvalid : store.Valid ext)
    {request : MemberRequest} (hentry : memberEntry request = .ok ())
    (h : addMemberBatch ext db env request = .ok (batch, data)) :
    ∃ effect, BatchSpec ext db store (.addMember request) batch data effect := by
  unfold addMemberBatch at h
  obtain ⟨snapshot, hsnapshot, h⟩ := bind_ok h
  obtain rfl := createSnapshot_ok hsnapshot
  obtain ⟨channel, hloaded, h⟩ := bind_ok h
  obtain ⟨htoken, hchannel, hcreator⟩ := loadOwnedChannel_ok hdb hvalid hloaded
  obtain ⟨hmember, h⟩ := guard_ok h
  obtain ⟨hroom, h⟩ := guard_ok h
  obtain ⟨built, hbuilt, h⟩ := bind_ok h
  obtain ⟨rfl, rfl⟩ : built = batch ∧ ResponseData.empty = data := by
    simpa using Except.ok.inj h
  obtain ⟨hsystem, hchange⟩ := buildChannelMutationBatch_ok hdb (plain_ok hbuilt)
  have hid := (hvalid.channel _ _ hchannel).1
  have hnot : request.targetPrincipal ∉ channel.members := by simpa [isMember] using hmember
  exact ⟨_, .addMember htoken hchannel hcreator,
    .changeMembers (by rw [hid]; exact hchannel)
      (.added (memberEntry_ok hentry) hnot (not_le.mp hroom)) hsystem, hchange⟩

theorem removeMemberBatch_ok (hdb : Represents ext db store) (hvalid : store.Valid ext)
    {request : MemberRequest} (hentry : memberEntry request = .ok ())
    (h : removeMemberBatch ext db env request = .ok (batch, data)) :
    ∃ effect, BatchSpec ext db store (.removeMember request) batch data effect := by
  unfold removeMemberBatch at h
  obtain ⟨snapshot, hsnapshot, h⟩ := bind_ok h
  obtain rfl := createSnapshot_ok hsnapshot
  obtain ⟨channel, hloaded, h⟩ := bind_ok h
  obtain ⟨htoken, hchannel, hcreator⟩ := loadOwnedChannel_ok hdb hvalid hloaded
  obtain ⟨hother, h⟩ := guard_ok h
  obtain ⟨hmember, h⟩ := guard_ok h
  obtain ⟨built, hbuilt, h⟩ := bind_ok h
  obtain ⟨rfl, rfl⟩ : built = batch ∧ ResponseData.empty = data := by
    simpa using Except.ok.inj h
  obtain ⟨hsystem, hchange⟩ := buildChannelMutationBatch_ok hdb (plain_ok hbuilt)
  have hid := (hvalid.channel _ _ hchannel).1
  have hmem : request.targetPrincipal ∈ channel.members := by simpa [isMember] using hmember
  exact ⟨_, .removeMember htoken hchannel hcreator,
    .changeMembers (by rw [hid]; exact hchannel) (.removed (memberEntry_ok hentry) hmem hother)
      hsystem, hchange⟩

/-! ### Uuids and credentials -/

theorem allocateUuidsBatch_ok (hdb : Represents ext db store) {request : AllocateUuidsRequest}
    (h : allocateUuidsBatch db env request = .ok (batch, data)) :
    ∃ effect, BatchSpec ext db store (.allocateUuids request) batch data effect := by
  unfold allocateUuidsBatch at h
  obtain ⟨snapshot, hsnapshot, h⟩ := bind_ok h
  obtain rfl := createSnapshot_ok hsnapshot
  obtain ⟨firstUuid, hfirst, h⟩ := bind_ok h
  obtain rfl := hdb.reads_getNextUuid.of_ok (plain_ok hfirst)
  obtain ⟨built, hbuilt, h⟩ := bind_ok h
  obtain ⟨rfl, rfl⟩ := Prod.mk.inj (Except.ok.inj h)
  obtain ⟨hne, hdone⟩ := hdb.start.setNextUuid (plain_ok hbuilt)
  exact ⟨_, .allocateUuids, .allocateUuids hne, hdone⟩

/-- A filled buffer holds exactly the bytes asked for. -/
theorem fillRandom_length {size : Nat} {random : List GetrandomResult} {start bytes : Bytes}
    (hstart : start.length ≤ size) (h : fillRandom size random start = some (.ok bytes)) :
    bytes.length = size := by
  induction random generalizing start with
  | nil =>
      rw [fillRandom.eq_def] at h
      simp only at h
      split_ifs at h with hfull
      obtain rfl : start = bytes := by simpa using h
      omega
  | cons result rest ih =>
      rw [fillRandom.eq_def] at h
      simp only at h
      split_ifs at h with hfull
      · obtain rfl : start = bytes := by simpa using h
        omega
      · cases result with
        | failed error =>
            simp only at h
            split_ifs at h
            · exact ih hstart h
            · cases h
        | filled chunk =>
            simp only at h
            split_ifs at h with hchunk
            exact ih (by simp; omega) h

theorem generateToken_ne {random : List GetrandomResult} {token : Bytes}
    (h : generateToken random = some (.ok token)) : token ≠ [] := by
  cases hfilled : fillRandom 16 random [] with
  | none => simp [generateToken, hfilled] at h
  | some result =>
      cases result with
      | error status => simp [generateToken, hfilled, Except.map] at h
      | ok bytes =>
          obtain rfl : formatToken bytes = token := by
            simpa [generateToken, hfilled, Except.map] using h
          have hlength := fillRandom_length (by simp) hfilled
          cases bytes with
          | nil => simp at hlength
          | cons first rest => simp [formatToken, List.zipIdx_cons, hexDigits]

theorem addTokenBatch_ok (hdb : Represents ext db store) {request : AddTokenRequest}
    {generated : Result Bytes} (hentry : addTokenEntry request = .ok ())
    (hgenerated : ∀ token, generated = .ok token → token ≠ [])
    (h : addTokenBatch request generated = .ok (batch, data)) :
    ∃ effect, BatchSpec ext db store (.addToken request) batch data effect := by
  have hprincipal : request.principal ≠ 0 := by
    unfold addTokenEntry at hentry
    split at hentry
    · cases hentry
    · assumption
  unfold addTokenBatch at h
  obtain ⟨token, htoken, h⟩ := bind_ok h
  obtain ⟨built, hbuilt, h⟩ := bind_ok h
  obtain ⟨rfl, rfl⟩ : built = batch ∧ ResponseData.token token = data := by
    simpa using Except.ok.inj h
  exact ⟨_, .addToken, .addToken hprincipal (hgenerated token (plain_ok htoken)),
    hdb.start.putToken (plain_ok hbuilt)⟩

theorem deleteTokenBatch_ok (hdb : Represents ext db store) {request : DeleteTokenRequest}
    (h : deleteTokenBatch request = .ok (batch, data)) :
    ∃ effect, BatchSpec ext db store (.deleteToken request) batch data effect := by
  obtain ⟨rfl, rfl⟩ : UnifiedStorage.deleteToken [] request.principal request.token = batch ∧
      ResponseData.empty = data := by
    simpa [deleteTokenBatch] using h
  exact ⟨_, .deleteToken, .deleteToken, hdb.start.deleteToken request.principal request.token⟩

/-- The batch that any mutation commits performs a permitted effect. -/
theorem Mutation.batch_ok (hdb : Represents ext db store) (hvalid : store.Valid ext)
    {config : Config} {mutation : Mutation} {tsMs : UInt64} (hentry : mutation.entry = .ok ())
    (h : mutation.batch ext config db env tsMs = some (.ok (batch, data))) :
    ∃ effect, BatchSpec ext db store mutation batch data effect := by
  cases mutation with
  | allocateUuids request => exact allocateUuidsBatch_ok hdb (Option.some.inj h)
  | publish request => exact publishBatch_ok hdb hvalid hentry (Option.some.inj h)
  | publishAutoSeq request => exact publishAutoSeqBatch_ok hdb hvalid hentry (Option.some.inj h)
  | createChannel request => exact createChannelBatch_ok hdb hentry (Option.some.inj h)
  | addMember request => exact addMemberBatch_ok hdb hvalid hentry (Option.some.inj h)
  | removeMember request => exact removeMemberBatch_ok hdb hvalid hentry (Option.some.inj h)
  | addToken request =>
      obtain ⟨generated, hgenerated, hbatch⟩ := Option.map_eq_some_iff.mp h
      refine addTokenBatch_ok hdb hentry ?_ hbatch
      rintro token rfl
      exact generateToken_ne hgenerated
  | deleteToken request => exact deleteTokenBatch_ok hdb (Option.some.inj h)

end OpenEvent
