import OpenEvent.Refinement.Mutations

/-!
The sections of `WriteObject` and the recovery batch as permitted effects on
the abstract store.
-/

namespace OpenEvent

open OpenEventCore Fallible

/-! ### Object tokens -/

theorem length_encodeBase64Url (bytes : Bytes) :
    (encodeBase64Url bytes).length = (8 * bytes.length + 5) / 6 := by
  induction bytes using encodeBase64Url.induct with
  | case1 a b c rest ih =>
      simp only [encodeBase64Url, List.length_cons, ih]
      omega
  | case2 a b => simp [encodeBase64Url]
  | case3 a => simp [encodeBase64Url]
  | case4 => simp [encodeBase64Url]

private theorem mem_kBase64Url (sextet : UInt32) : base64UrlChar sextet ∈ kBase64Url := by
  have hlt : (sextet &&& 0x3f).toNat < 64 := by
    rw [UInt32.toNat_and, show (0x3f : UInt32).toNat = 2 ^ 6 - 1 from rfl,
      Nat.and_two_pow_sub_one_eq_mod]
    omega
  have hlength : (sextet &&& 0x3f).toNat < kBase64Url.length := by
    have hsize : kBase64Url.length = 64 := by decide
    omega
  rw [base64UrlChar, List.getD_eq_getElem?_getD, List.getElem?_eq_getElem hlength, Option.getD_some]
  exact List.getElem_mem hlength

private theorem encodeBase64Url_mem (bytes : Bytes) :
    ∀ char ∈ encodeBase64Url bytes, char ∈ kBase64Url := by
  induction bytes using encodeBase64Url.induct with
  | case1 a b c rest ih =>
      intro char hchar
      simp only [encodeBase64Url, List.mem_cons] at hchar
      rcases hchar with rfl | rfl | rfl | rfl | hrest
      · exact mem_kBase64Url _
      · exact mem_kBase64Url _
      · exact mem_kBase64Url _
      · exact mem_kBase64Url _
      · exact ih char hrest
  | case2 a b =>
      intro char hchar
      simp only [encodeBase64Url, List.mem_cons, List.not_mem_nil, or_false] at hchar
      rcases hchar with rfl | rfl | rfl <;> exact mem_kBase64Url _
  | case3 a =>
      intro char hchar
      simp only [encodeBase64Url, List.mem_cons, List.not_mem_nil, or_false] at hchar
      rcases hchar with rfl | rfl <;> exact mem_kBase64Url _
  | case4 =>
      intro char hchar
      simp [encodeBase64Url] at hchar

private theorem utf8EncodeChar_base64 {char : Char} (h : char ∈ kBase64Url) :
    ∃ byte, String.utf8EncodeChar char = [byte] ∧ isBase64UrlByte byte = true := by
  have hall : kBase64Url.all (fun char => String.utf8EncodeChar char = [char.val.toUInt8] ∧
      isBase64UrlByte char.val.toUInt8 = true) = true := by decide
  exact ⟨_, of_decide_eq_true (List.all_eq_true.mp hall char h)⟩

private theorem ofString_base64 {chars : List Char} (h : ∀ char ∈ chars, char ∈ kBase64Url) :
    (Bytes.ofString (String.ofList chars)).length = chars.length ∧
      (Bytes.ofString (String.ofList chars)).all isBase64UrlByte = true := by
  have hbytes : Bytes.ofString (String.ofList chars) = chars.flatMap String.utf8EncodeChar := by
    simp [Bytes.ofString, List.utf8Encode, List.data_toByteArray]
  rw [hbytes]
  induction chars with
  | nil => exact ⟨rfl, rfl⟩
  | cons first rest ih =>
      obtain ⟨byte, hbyte, hvalid⟩ := utf8EncodeChar_base64 (h first (by simp))
      have hrest : ∀ char ∈ rest, char ∈ kBase64Url := fun char hchar => h char (by simp [hchar])
      obtain ⟨hlength, hall⟩ := ih hrest (by simp [Bytes.ofString, List.utf8Encode,
        List.data_toByteArray])
      simp [hbyte, hvalid, hlength, hall]

/-- Generated object tokens have the shape that readers of records require. -/
theorem generateObjectToken_shape {random : List GetrandomResult} {token : String}
    (h : generateObjectToken random = some (.ok token)) : isBase64UrlToken token = true := by
  cases hfilled : fillRandom kObjectTokenRandomBytes random [] with
  | none => simp [generateObjectToken, hfilled] at h
  | some result =>
      cases result with
      | error status => simp [generateObjectToken, hfilled, Except.map] at h
      | ok bytes =>
          obtain rfl : String.ofList (encodeBase64Url bytes) = token := by
            simpa [generateObjectToken, hfilled, Except.map] using h
          have hlength := fillRandom_length (by simp) hfilled
          obtain ⟨hsize, hall⟩ := ofString_base64 (encodeBase64Url_mem bytes)
          rw [length_encodeBase64Url, hlength, length_ofString] at hsize
          simp [isBase64UrlToken, hsize, hall, kObjectTokenEncodedBytes, kObjectTokenRandomBytes]

/-! ### Calls past their entry checks -/

/-- The object of a call past its entry checks: the request's metadata, a
well-shaped token, and the id assigned so far. -/
structure CallChecked (call : WriteObjectCall) : Prop where
  entry : writeObjectEntry call.request = .ok ()
  token : isBase64UrlToken call.object.objectToken = true
  object : call.object = { newObject call.request call.object.objectToken with
    objectId := call.object.objectId }

theorem writeObjectEntry_ok {request : WriteObjectRequest} (h : writeObjectEntry request = .ok ()) :
    request.principal ≠ 0 ∧ request.name.isEmpty = false ∧
      request.name.utf8ByteSize ≤ kMaxObjectNameBytes ∧ request.type.isEmpty = false ∧
      request.type.utf8ByteSize ≤ kMaxObjectTypeBytes ∧
      request.description.utf8ByteSize ≤ kMaxObjectDescriptionBytes ∧ request.data ≠ [] ∧
      request.data.length ≤ kMaxObjectBytes := by
  unfold writeObjectEntry at h
  split at h
  · cases h
  · rename_i hprincipal
    split at h
    · cases h
    · rename_i hcheck
      simp only [not_or, not_lt, Bool.not_eq_true] at hcheck
      exact ⟨hprincipal, hcheck⟩

theorem nbytes_toNat {length : Nat} (h : length ≤ kMaxObjectBytes) :
    (UInt64.ofNat length).toNat = length := by
  have hbound : kMaxObjectBytes < 2 ^ 64 := by decide
  rw [UInt64.toNat_ofNat']
  omega

theorem CallChecked.size {call : WriteObjectCall} (h : CallChecked call) :
    call.object.nbytes.toNat = call.request.data.length := by
  obtain ⟨_, _, _, _, _, _, _, hle⟩ := writeObjectEntry_ok h.entry
  rw [h.object]
  exact nbytes_toNat hle

theorem CallChecked.valid {call : WriteObjectCall} (h : CallChecked call)
    (hne : call.object.objectId ≠ 0) : ObjectValid call.object.objectId call.object := by
  obtain ⟨hprincipal, hname, hnameLe, htype, htypeLe, hdescription, hdata, hdataLe⟩ :=
    writeObjectEntry_ok h.entry
  have hsize := nbytes_toNat hdataLe
  have hobject := h.object
  have htoken := h.token
  generalize hid : call.object.objectId = objectId at *
  generalize call.object.objectToken = token at *
  rw [hobject]
  refine ⟨rfl, hne, htoken, hprincipal, hname, hnameLe, htype, htypeLe, hdescription, ?_, ?_⟩
  · intro hzero
    have hlength : call.request.data.length = 0 := by
      rw [← hsize]
      exact congrArg UInt64.toNat hzero
    exact hdata (List.length_eq_zero_iff.mp hlength)
  · exact le_of_eq_of_le hsize hdataLe

/-! ### Sections -/

variable {ext : Externals} {db : Db} {store : Store} {env : CallEnv} {batch : WriteBatch}

theorem prepareBatch_ok (hdb : Represents ext db store) {call : WriteObjectCall}
    (hcall : CallChecked call) {object : StoredObject}
    (h : prepareBatch ext db env call.request call.object = .ok (batch, object)) :
    object = { call.object with objectId := store.nextObjectId } ∧
      store.tokens call.request.principal call.request.token = true ∧
      Permitted store (.prepareObject object) ∧
      Represents ext (db.write batch) (store.apply (.prepareObject object)) := by
  unfold prepareBatch at h
  obtain ⟨snapshot, hsnapshot, h⟩ := bind_ok h
  obtain rfl := ((reads_createSnapshot db env.faults).of_ok hsnapshot).symm
  obtain ⟨_, hauth, h⟩ := bind_ok h
  obtain ⟨nextObjectId, hnext, h⟩ := bind_ok h
  obtain rfl := hdb.reads_getNextObjectId.of_ok hnext
  obtain ⟨prepared, hprepared, h⟩ := bind_ok h
  obtain ⟨complete, hcomplete, h⟩ := bind_ok h
  obtain ⟨rfl, rfl⟩ := Prod.mk.inj (Except.ok.inj h)
  refine ⟨rfl, (authenticate_ok hdb hauth).2.2, .prepareObject rfl ?_, ?_⟩
  · intro hne
    have hassigned : CallChecked { call with
        object := { call.object with objectId := store.nextObjectId } } :=
      ⟨hcall.entry, hcall.token, congrArg (fun object : StoredObject =>
        { object with objectId := store.nextObjectId }) hcall.object⟩
    exact hassigned.valid hne
  · exact (hdb.start.putPreparingObject hprepared).setNextObjectId hcomplete

theorem sameObject_iff (left right : StoredObject) : sameObject left right = true ↔ left = right := by
  cases left
  cases right
  simp [sameObject, and_assoc]

theorem commitDecision_commit (hdb : Represents ext db store) (hvalid : store.Valid ext)
    {request : WriteObjectRequest} {object : StoredObject}
    (h : commitDecision ext db env request object = .commit batch) :
    store.tokens request.principal request.token = true ∧
      Permitted store (.commitObject object) ∧
      Represents ext (db.write batch) (store.apply (.commitObject object)) := by
  unfold commitDecision at h
  split at h
  · cases h
  · rename_i snapshot hsnapshot
    obtain rfl := ((reads_createSnapshot db env.faults).of_ok hsnapshot).symm
    split at h
    · cases h
    · rename_i hauth
      split at h
      · split at h <;> cases h
      · cases h
      · rename_i preparing hpreparing
        have hfound := (hdb.reads_getPreparingObject hvalid object.objectId).of_ok hpreparing
        split at h
        · cases h
        · rename_i hsame
          obtain rfl := (sameObject_iff preparing object).mp (by simpa using hsame)
          split at h
          · cases h
          · rename_i complete hcomplete
            obtain rfl : complete = batch := by simpa using h
            exact ⟨(authenticate_ok hdb hauth).2.2, .commitObject hfound.symm,
              hdb.start.putCommittedObject hcomplete⟩

theorem Represents.discard (hdb : Represents ext (db.write batch) store) (objectIds : List UInt64) :
    Represents ext
      (db.write (objectIds.foldl UnifiedStorage.deletePreparingObject batch))
      (store.apply (.discardObjects objectIds)) := by
  simp only [Store.apply]
  induction objectIds generalizing batch store with
  | nil => exact hdb
  | cons first rest ih => exact ih (hdb.deletePreparingObject first)

theorem Represents.recoveryBatch (hdb : Represents ext db store) (objects : List StoredObject) :
    Represents ext (db.write (UnifiedStorage.recoveryBatch objects))
      (store.apply (.discardObjects (objects.map (·.objectId)))) := by
  have hdone := hdb.start.discard (objects.map (·.objectId))
  rwa [List.foldl_map] at hdone

end OpenEvent
