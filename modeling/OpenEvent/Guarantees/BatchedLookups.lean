import OpenEvent.Refinement.BatchWrites
import OpenEvent.Guarantees.ObjectCapabilities

/-!
Batched object lookups agree with single ones: the key check of the publish
path, which looks each object up once, decides as `LoadAuthorizedObject` on
every key, and `BatchGetObjectMetadata` answers as `GetObjectMetadata` on every
key.
-/

namespace OpenEvent

open OpenEventCore Fallible

variable {ext : Externals} {db : Db} {faults : ReadFaults} {objectKeys : List ObjectKey}

/-! ### The publish path -/

/-- The key check inside `BuildPublishBatch`. -/
def checkObjectKeys (ext : Externals) (snapshot : Db) (faults : ReadFaults)
    (objectKeys : List ObjectKey) : Except Exit Unit := do
  let objectIds := distinctObjectIds objectKeys
  let objects ← latching (UnifiedStorage.getCommittedObjects ext snapshot faults objectIds)
  if objectKeys.any (fun key => rejectsKey (lookupObject objectIds objects key.objectId) key) then
    throw { status := { code := .notFound, message := "object capability not found" } }

/-- The end of `BuildPublishBatch`, from the accepted request on. -/
def storePublished (ext : Externals) (message : EventMessage) : Except Exit WriteBatch := do
  let batch ← plain (UnifiedStorage.putMessage ext [] message)
  let batch ← plain (UnifiedStorage.putUsedUuid batch message.uuid message.seq)
  plain (UnifiedStorage.setMaxSeq batch message.seq)

/-- What `BuildPublishBatch` checks before it comes to the object keys. -/
structure MayPublish (ext : Externals) (db : Db) (faults : ReadFaults) (message : EventMessage) :
    Prop where
  channelId_ne : message.channelId ≠ 0
  channel : ∃ channel, loadChannel ext db faults message.channelId = .ok (some channel) ∧
    canWrite channel message.principal = true ∧
    validateRecipients channel message.recipients = .ok ()

/-- After its other checks `BuildPublishBatch` checks the keys and stores the message with them. -/
theorem MayPublish.buildPublishBatch_eq {message : EventMessage}
    (h : MayPublish ext db faults message) :
    buildPublishBatch ext db faults message.principal message.channelId message.seq message.uuid
        message.recipients message.payload message.objectKeys message.tsMs =
      (checkObjectKeys ext db faults message.objectKeys >>= fun _ => storePublished ext message) := by
  obtain ⟨channel, hload, hwrite, hrecipients⟩ := h.channel
  unfold buildPublishBatch checkObjectKeys
  rw [if_neg h.channelId_ne, hload]
  simp only [plain, ok_bind, hwrite, hrecipients]
  cases latching (UnifiedStorage.getCommittedObjects ext db faults
    (distinctObjectIds message.objectKeys)) with
  | error exit => rfl
  | ok objects =>
      simp only [ok_bind, Bool.true_eq_false, if_false]
      by_cases hrejected : message.objectKeys.any (fun key => rejectsKey
          (lookupObject (distinctObjectIds message.objectKeys) objects key.objectId) key) = true
      · rw [if_pos hrejected]
        exact if_pos hrejected
      · rw [if_neg hrejected]
        exact if_neg hrejected

theorem getCommittedObjects_mapM (objectIds : List UInt64) :
    UnifiedStorage.getCommittedObjects ext db faults objectIds =
      objectIds.mapM (UnifiedStorage.getCommittedObject ext db faults) := by
  induction objectIds with
  | nil => rfl
  | cons objectId rest ih =>
      rw [UnifiedStorage.getCommittedObjects, ih, List.mapM_cons]
      rfl

theorem exists_of_mem_distinctObjectIds {objectId : UInt64}
    (h : objectId ∈ distinctObjectIds objectKeys) : ∃ key ∈ objectKeys, key.objectId = objectId := by
  have hfold (keys : List ObjectKey) (ids : List UInt64)
      (hmem : objectId ∈ keys.foldl (fun ids key =>
        if ids.contains key.objectId then ids else ids ++ [key.objectId]) ids) :
      objectId ∈ ids ∨ ∃ key ∈ keys, key.objectId = objectId := by
    induction keys generalizing ids with
    | nil => exact Or.inl hmem
    | cons first rest ih =>
        rcases ih _ hmem with hids | ⟨key, hkey, hid⟩
        · dsimp only at hids
          split at hids
          · exact Or.inl hids
          · rcases List.mem_append.mp hids with hids | hfirst
            · exact Or.inl hids
            · exact Or.inr ⟨first, List.mem_cons_self, (List.mem_singleton.mp hfirst).symm⟩
        · exact Or.inr ⟨key, List.mem_cons_of_mem _ hkey, hid⟩
  rcases hfold objectKeys [] h with hnil | hkey
  · cases hnil
  · exact hkey

theorem wellShaped_key (hshape : validateObjectKeysShape objectKeys = .ok ()) {key : ObjectKey}
    (hkey : key ∈ objectKeys) : ¬ (key.objectId = 0 ∨ key.objectToken.isEmpty = true) := by
  unfold validateObjectKeysShape at hshape
  split at hshape
  · cases hshape
  · split at hshape
    · cases hshape
    · rename_i hall
      intro hbad
      exact hall (List.any_eq_true.mpr ⟨key, hkey, by simpa using hbad⟩)

/-- `LoadAuthorizedObject` on a well-shaped key: the record that is found, with its token. -/
theorem loadAuthorizedObject_eq {key : ObjectKey}
    (hkey : ¬ (key.objectId = 0 ∨ key.objectToken.isEmpty = true)) :
    loadAuthorizedObject ext db faults key.objectId key.objectToken =
      (latching (UnifiedStorage.getCommittedObject ext db faults key.objectId) >>= fun found =>
        match found with
        | some object =>
            if rejectsKey (some object) key = false then .ok object
            else .error { status :=
              { code := .notFound, message := "object capability not found" } }
        | none => .error { status :=
            { code := .notFound, message := "object capability not found" } }) := by
  rw [loadAuthorizedObject, if_neg hkey]
  refine bind_eq rfl (fun found => ?_)
  cases found with
  | none => rfl
  | some object =>
      by_cases hequal :
          ObjectFileStore.constantTimeEquals object.objectToken key.objectToken = true
      · simp [rejectsKey, hequal, pure, Except.pure]
      · simp [rejectsKey, hequal, throw, throwThe, MonadExceptOf.throw]

/-- A position among the ids is a position among the results. -/
private theorem forall₂_at_idxOf {α : Type} {R : UInt64 → α → Prop} {objectIds : List UInt64}
    {objects : List α} (h : List.Forall₂ R objectIds objects) {objectId : UInt64}
    (hmem : objectId ∈ objectIds) :
    ∃ found, objects[objectIds.idxOf objectId]? = some found ∧ R objectId found := by
  induction h with
  | nil => cases hmem
  | @cons first found rest others hfirst _ ih =>
      by_cases heq : first = objectId
      · subst heq
        exact ⟨found, by simp, hfirst⟩
      · obtain ⟨other, hother, hrelated⟩ := ih (List.mem_of_ne_of_mem (Ne.symm heq) hmem)
        exact ⟨other, by rw [List.idxOf_cons_ne _ heq]; simpa using hother, hrelated⟩

/-- The key check passes when every key alone is authorized, and otherwise fails as one of them. -/
theorem checkObjectKeys_cases (hshape : validateObjectKeysShape objectKeys = .ok ()) :
    (checkObjectKeys ext db faults objectKeys = .ok () ∧ ∀ key ∈ objectKeys, ∃ object,
      loadAuthorizedObject ext db faults key.objectId key.objectToken = .ok object) ∨
    ∃ exit, checkObjectKeys ext db faults objectKeys = .error exit ∧ ∃ key ∈ objectKeys,
      loadAuthorizedObject ext db faults key.objectId key.objectToken = .error exit := by
  unfold checkObjectKeys
  dsimp only
  cases hobjects : UnifiedStorage.getCommittedObjects ext db faults
      (distinctObjectIds objectKeys) with
  | error status =>
      -- The first lookup that fails fails in the same way for the key it was made for.
      refine Or.inr ⟨_, rfl, ?_⟩
      rw [getCommittedObjects_mapM, mapM_error_iff] at hobjects
      obtain ⟨before, objectId, after, hids, _, hfailed⟩ := hobjects
      obtain ⟨key, hkey, rfl⟩ := exists_of_mem_distinctObjectIds
        (show objectId ∈ distinctObjectIds objectKeys by rw [hids]; simp)
      refine ⟨key, hkey, ?_⟩
      rw [loadAuthorizedObject_eq (wellShaped_key hshape hkey), hfailed]
      rfl
  | ok objects =>
      rw [getCommittedObjects_mapM, mapM_ok_iff] at hobjects
      have hlookup : ∀ key ∈ objectKeys,
          UnifiedStorage.getCommittedObject ext db faults key.objectId =
            .ok (lookupObject (distinctObjectIds objectKeys) objects key.objectId) := by
        intro key hkey
        obtain ⟨found, hfound, hread⟩ := forall₂_at_idxOf hobjects (mem_distinctObjectIds hkey)
        rw [hread, lookupObject, hfound, Option.join_some]
      have hload : ∀ key ∈ objectKeys,
          loadAuthorizedObject ext db faults key.objectId key.objectToken =
            match lookupObject (distinctObjectIds objectKeys) objects key.objectId with
            | some object =>
                if rejectsKey (some object) key = false then .ok object
                else .error { status :=
                  { code := .notFound, message := "object capability not found" } }
            | none => .error { status :=
                { code := .notFound, message := "object capability not found" } } := by
        intro key hkey
        rw [loadAuthorizedObject_eq (wellShaped_key hshape hkey), hlookup key hkey]
        rfl
      simp only [latching, ok_bind]
      by_cases hrejected : objectKeys.any (fun key => rejectsKey
          (lookupObject (distinctObjectIds objectKeys) objects key.objectId) key) = true
      · obtain ⟨key, hkey, hbad⟩ := List.any_eq_true.mp hrejected
        refine Or.inr ⟨_, if_pos hrejected, key, hkey, ?_⟩
        rw [hload key hkey]
        cases hfound : lookupObject (distinctObjectIds objectKeys) objects key.objectId with
        | none => rfl
        | some object =>
            rw [hfound] at hbad
            simp [hbad]
      · refine Or.inl ⟨if_neg hrejected, ?_⟩
        intro key hkey
        have hgood : rejectsKey (lookupObject (distinctObjectIds objectKeys) objects key.objectId)
            key = false := by
          by_contra hbad
          exact hrejected (List.any_eq_true.mpr ⟨key, hkey, by simpa using hbad⟩)
        rw [hload key hkey]
        cases hfound : lookupObject (distinctObjectIds objectKeys) objects key.objectId with
        | none =>
            rw [hfound] at hgood
            cases hgood
        | some object =>
            rw [hfound] at hgood
            exact ⟨object, if_pos hgood⟩

/-! ### Metadata -/

theorem batchMetadataLoop_mapM (objectKeys : List ObjectKey) :
    batchMetadataLoop ext db faults objectKeys = objectKeys.mapM (fun key => do
      let object ← loadAuthorizedObject ext db faults key.objectId key.objectToken
      pure object.metadata) := by
  induction objectKeys with
  | nil => rfl
  | cons key rest ih =>
      rw [batchMetadataLoop, ih, List.mapM_cons, bind_assoc]
      refine bind_eq rfl (fun object => ?_)
      rw [pure_bind]

/-- For a well-shaped nonempty list the batched call is the single calls in order. -/
theorem batchGetObjectMetadata_mapM {fatalError : Option Status} (hne : objectKeys ≠ [])
    (hshape : validateObjectKeysShape objectKeys = .ok ()) :
    batchGetObjectMetadata ext fatalError db faults objectKeys =
      objectKeys.mapM (getObjectMetadata ext fatalError db faults) := by
  obtain ⟨first, rest, rfl⟩ := List.exists_cons_of_ne_nil hne
  unfold batchGetObjectMetadata getObjectMetadata
  cases ensureAvailable fatalError with
  | error status => rw [List.mapM_cons]; rfl
  | ok _ =>
      rw [if_neg hne, hshape]
      cases UnifiedStorage.createSnapshot db faults with
      | error status => rw [List.mapM_cons]; rfl
      | ok snapshot => exact batchMetadataLoop_mapM (first :: rest)

/-- What `BatchGetObjectMetadata` answers and leaves in the response object it was given. -/
theorem batchGetObjectMetadataResponse_run (fatalError : Option Status)
    (response : List ObjectMetadata) :
    (batchGetObjectMetadataResponse ext fatalError db faults objectKeys).run response =
      match batchGetObjectMetadata ext fatalError db faults objectKeys with
      | .error exit => (.error exit, [])
      | .ok staged => (.ok (), staged) := by
  unfold batchGetObjectMetadataResponse
  cases batchGetObjectMetadata ext fatalError db faults objectKeys with
  | error exit => rfl
  | ok staged => rfl

/-- The batched lookups decide on a well-shaped key list as the single ones on each of its keys. -/
theorem batched_lookups_agree (ext : Externals) (db : Db) (faults : ReadFaults)
    (objectKeys : List ObjectKey) (hshape : validateObjectKeysShape objectKeys = .ok ()) :
    (checkObjectKeys ext db faults objectKeys = .ok () ↔ ∀ key ∈ objectKeys, ∃ object,
      loadAuthorizedObject ext db faults key.objectId key.objectToken = .ok object) ∧
    (∀ message, MayPublish ext db faults message → message.objectKeys = objectKeys →
      buildPublishBatch ext db faults message.principal message.channelId message.seq message.uuid
          message.recipients message.payload objectKeys message.tsMs =
        (checkObjectKeys ext db faults objectKeys >>= fun _ => storePublished ext message) ∧
      ∀ batch, buildPublishBatch ext db faults message.principal message.channelId message.seq
          message.uuid message.recipients message.payload objectKeys message.tsMs = .ok batch →
        ∃ record, batch = messageWrites message record ∧
          ext.eventMessage.parseFromString record = some message) ∧
    (objectKeys ≠ [] → ∀ fatalError response,
      (∀ metadata, (batchGetObjectMetadataResponse ext fatalError db faults objectKeys).run response =
          (.ok (), metadata) ↔
        List.Forall₂ (fun key single =>
          getObjectMetadata ext fatalError db faults key = .ok single) objectKeys metadata) ∧
      ∀ exit after, (batchGetObjectMetadataResponse ext fatalError db faults objectKeys).run response =
          (.error exit, after) ↔
        after = [] ∧ ∃ passed key rest, objectKeys = passed ++ key :: rest ∧
          (∀ earlier ∈ passed, ∃ single,
            getObjectMetadata ext fatalError db faults earlier = .ok single) ∧
          getObjectMetadata ext fatalError db faults key = .error exit) := by
  refine ⟨?_, ?_, ?_⟩
  · rcases @checkObjectKeys_cases ext db faults objectKeys hshape with
      ⟨hok, hall⟩ | ⟨exit, herror, key, hkey, hrefused⟩
    · exact iff_of_true hok hall
    · refine iff_of_false (by rw [herror]; exact nofun) ?_
      intro hall
      obtain ⟨object, hobject⟩ := hall key hkey
      rw [hrefused] at hobject
      cases hobject
  · rintro message hmay rfl
    refine ⟨hmay.buildPublishBatch_eq, ?_⟩
    intro batch hbatch
    obtain ⟨record, hrecord, rfl⟩ := buildPublishBatch_writes message hbatch
    exact ⟨record, rfl, ext.eventMessage.parse_serialize message record hrecord⟩
  · intro hne fatalError response
    rw [batchGetObjectMetadataResponse_run, batchGetObjectMetadata_mapM hne hshape]
    constructor
    · intro metadata
      rw [← mapM_ok_iff]
      cases objectKeys.mapM (getObjectMetadata ext fatalError db faults) with
      | error exit =>
          exact iff_of_false (fun h => nomatch (Prod.mk.inj h).1) (fun h => nomatch h)
      | ok staged =>
          exact ⟨fun h => congrArg Except.ok (Prod.mk.inj h).2, fun h => by rw [Except.ok.inj h]⟩
    · intro exit after
      rw [← mapM_error_iff]
      cases objectKeys.mapM (getObjectMetadata ext fatalError db faults) with
      | error raised =>
          constructor
          · intro h
            obtain ⟨hexit, hafter⟩ := Prod.mk.inj h
            exact ⟨hafter.symm, congrArg Except.error (Except.error.inj hexit)⟩
          · rintro ⟨rfl, hexit⟩
            rw [Except.error.inj hexit]
      | ok staged =>
          exact iff_of_false (fun h => nomatch (Prod.mk.inj h).1) (fun h => nomatch h.2)

/-- The object of the session is found under its key. -/
private theorem session_object_found :
    (loadAuthorizedObject Reference.externals Reference.sessionServer.db {}
      Reference.objectKey.objectId Reference.objectKey.objectToken).toOption.isSome = true := by
  decide +kernel

/-- A key that is listed twice is accepted as it is alone. -/
theorem repeated_key_accepted :
    checkObjectKeys Reference.externals Reference.sessionServer.db {}
      [Reference.objectKey, Reference.objectKey] = .ok () := by
  refine (batched_lookups_agree Reference.externals Reference.sessionServer.db {}
    [Reference.objectKey, Reference.objectKey] rfl).1.mpr ?_
  intro key hkey
  obtain rfl : key = Reference.objectKey := by simpa using hkey
  have hfound := session_object_found
  cases hload : loadAuthorizedObject Reference.externals Reference.sessionServer.db {}
      Reference.objectKey.objectId Reference.objectKey.objectToken with
  | error exit =>
      rw [hload] at hfound
      cases hfound
  | ok object => exact ⟨object, rfl⟩

end OpenEvent
