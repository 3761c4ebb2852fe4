import OpenEvent.Refinement.Simulation

/-!
The states that runs of the server reach: each represents a coherent store,
and each step advances that store by at most one permitted effect.
-/

namespace OpenEvent

open OpenEventCore

/-- The server's database represents a store that its log explains. -/
structure Sound (ext : Externals) (server : Server) (store : Store) (log : List EventMessage) :
    Prop where
  represents : Represents ext server.db store
  coherent : Coherent ext store log
  calls : server.CallsChecked

/-! ### The initial state -/

def initialStore (eventMs : UInt64) : Store :=
  { maxSeq := 0, nextUuid := 1, nextChannelId := 1, nextObjectId := 1
    messages := fun seq => if seq = 0 then some (initializationMessage eventMs) else none
    usedUuids := fun uuid => if uuid = 0 then some 0 else none
    channels := fun _ => none
    tokens := fun _ _ => false
    preparing := fun _ => none
    committed := fun _ => none }

private theorem get_put_metadata (table : KeyValueTable) (key other : MetadataKey) (value : Bytes) :
    (table.put key.bytes value).get other.bytes =
      if other = key then some value else table.get other.bytes := by
  rw [SortedMap.get_put]
  by_cases hkey : other = key
  · simp [hkey]
  · have hbytes : other.bytes ≠ key.bytes := fun heq => hkey (MetadataKey.bytes_injective heq)
    simp [hkey, hbytes]

/-- The metadata that `InitializeNew` writes, one logical key at a time. -/
private def initialMetadata : KeyValueTable :=
  ((((((SortedMap.empty : KeyValueTable).put (MetadataKey.bytes .schemaVersion)
    (encodeUint64 kSchemaVersion)).put (MetadataKey.bytes .maxSeq) (encodeUint64 0)).put
    (MetadataKey.bytes .nextUuid) (encodeUint64 1)).put
    (MetadataKey.bytes .nextChannelId) (encodeUint64 1)).put
    (MetadataKey.bytes .nextObjectId) (encodeUint64 1)).put
    (MetadataKey.bytes (.uuid 0)) (encodeUint64 0)

theorem initialStore_represents (ext : Externals) (eventMs : UInt64) :
    Represents ext (UnifiedStorage.initializeNew ext eventMs) (initialStore eventMs) := by
  obtain ⟨payload, hpayload⟩ := Option.isSome_iff_exists.mp (ext.initialization_serializes eventMs)
  have hdb : UnifiedStorage.initializeNew ext eventMs =
      { metadata := initialMetadata
        messages := (SortedMap.empty : KeyValueTable).put (numericKey kMessagePrefix 0) payload
        objects := SortedMap.empty } := by
    simp only [UnifiedStorage.initializeNew, UnifiedStorage.initializationBatch, hpayload]
    rfl
  rw [hdb]
  refine ⟨?_, ?_, ?_, ?_, ?_, ?_⟩
  · intro key
    simp only [initialMetadata, get_put_metadata, SortedMap.get_empty]
    cases key with
    | uuid value =>
        by_cases hzero : value = 0 <;> simp [Store.MetadataHolds, initialStore, hzero]
    | _ => simp [Store.MetadataHolds, initialStore, StoredAs]
  · intro bytes hbytes
    by_contra hnone
    apply hbytes
    have hne (key : MetadataKey) : bytes ≠ key.bytes := fun heq => hnone ⟨key, heq⟩
    simp [initialMetadata, SortedMap.get_put_of_ne _ _ (hne _)]
  · intro seq
    by_cases hzero : seq = 0
    · subst hzero
      simpa [initialStore, StoredAs] using hpayload
    · have hkey : numericKey kMessagePrefix seq ≠ numericKey kMessagePrefix 0 :=
        fun heq => hzero (numericKey_injective _ heq)
      simp [initialStore, hzero, StoredAs, SortedMap.get_put_of_ne _ _ hkey]
  · intro bytes hbytes
    by_cases hkey : bytes = numericKey kMessagePrefix 0
    · exact ⟨0, hkey⟩
    · simp [SortedMap.get_put_of_ne _ _ hkey] at hbytes
  · intro key
    cases key <;> exact True.intro
  · intro bytes hbytes
    exact absurd rfl hbytes

theorem initialStore_coherent (ext : Externals) (eventMs : UInt64) :
    Coherent ext (initialStore eventMs) [initializationMessage eventMs] := by
  have hget (seq : UInt64) (message : EventMessage) :
      [initializationMessage eventMs][seq.toNat]? = some message ↔
        seq = 0 ∧ initializationMessage eventMs = message := by
    by_cases hzero : seq = 0
    · simp [hzero]
    · have hne : seq.toNat ≠ 0 := fun heq => hzero (UInt64.toNat_inj.mp heq)
      simp [hzero, hne]
  refine ⟨⟨rfl, ?_, ?_, ?_⟩, ⟨by simp [initialStore], ?_, ?_, ?_, ?_⟩, ⟨by simp [initialStore], ?_, ?_, ?_⟩,
    .initialization eventMs, by simp [initialStore], ⟨?_, ?_, ?_, ?_⟩⟩
  · intro seq
    apply Option.ext
    intro message
    rw [hget]
    by_cases hzero : seq = 0 <;> simp [initialStore, hzero]
  · intro uuid seq
    simp only [hget]
    by_cases hzero : uuid = 0
    · subst hzero
      simp [initialStore, initializationMessage, eq_comm]
    · constructor
      · simp [initialStore, hzero]
      · rintro ⟨message, ⟨_, rfl⟩, huuid⟩
        exact absurd huuid.symm hzero
  · intro message hmessage
    obtain rfl := List.mem_singleton.mp hmessage
    exact (by decide : (0 : UInt64) < 1)
  · intro channelId hne
    have hother : (initializationMessage eventMs).channelId ≠ channelId := hne.symm
    simp [initialStore, channelAt, systemMessages, hother, replay]
  · intro channelId
    simp only [initialStore, Option.isSome_none, Bool.false_eq_true, false_iff, not_and]
    intro hne hlt
    exact hne (UInt64.lt_one_iff.mp hlt)
  · intro message hmessage
    obtain rfl := List.mem_singleton.mp hmessage
    exact (by decide : (0 : UInt64) < 1)
  · intro message hmessage hseq
    obtain rfl := List.mem_singleton.mp hmessage
    exact absurd rfl hseq
  · intro key object hobject
    cases key <;> cases hobject
  · intro objectId hpreparing
    rfl
  · intro message hmessage key hkey
    obtain rfl := List.mem_singleton.mp hmessage
    cases hkey
  · intro channelId channel hchannel
    cases hchannel
  · intro key object hobject
    cases key <;> cases hobject
  · intro seq message hmessage
    by_cases hzero : seq = 0
    · subst hzero
      obtain rfl : initializationMessage eventMs = message := by
        simpa [initialStore] using hmessage
      exact ⟨rfl, validInitializationMessage_initializationMessage eventMs, rfl⟩
    · simp [initialStore, hzero] at hmessage
  · intro uuid seq hused
    by_cases hzero : uuid = 0
    · subst hzero
      obtain rfl : (0 : UInt64) = seq := by simpa [initialStore] using hused
      simp
    · simp [initialStore, hzero] at hused

theorem initial_sound (ext : Externals) (eventMs : UInt64) :
    Sound ext (Server.initial ext eventMs) (initialStore eventMs)
      [initializationMessage eventMs] :=
  ⟨initialStore_represents ext eventMs, initialStore_coherent ext eventMs,
    fun _ hmode => by cases hmode⟩

/-! ### Steps and runs -/

/-- What a step does to the store and the log, as its event tells. -/
inductive Advances (store : Store) (log : List EventMessage) (event : Event) :
    Store → List EventMessage → Prop
  | unchanged : event.applied = false → Advances store log event store log
  | applied {effect : Effect} : Applies store event effect → Permitted store effect →
      Advances store log event (store.apply effect) (log ++ effect.messages)

variable {ext : Externals} {server next : Server} {store : Store} {log : List EventMessage}

private theorem counter_eq {db : Db} {name : String} {value : UInt64}
    (h : db.metadata.get (Bytes.ofString name) = some (encodeUint64 value)) :
    db.counter name = value := by
  simp [Db.counter, h]

theorem Represents.counter_maxSeq {db : Db} (h : Represents ext db store) :
    db.counter kMaxSeqKey = store.maxSeq :=
  counter_eq (h.metadata .maxSeq)

theorem Represents.counter_nextUuid {db : Db} (h : Represents ext db store) :
    db.counter kNextUuidKey = store.nextUuid :=
  counter_eq (h.metadata .nextUuid)

theorem Represents.counter_nextChannelId {db : Db} (h : Represents ext db store) :
    db.counter kNextChannelIdKey = store.nextChannelId :=
  counter_eq (h.metadata .nextChannelId)

theorem Represents.counter_nextObjectId {db : Db} (h : Represents ext db store) :
    db.counter kNextObjectIdKey = store.nextObjectId :=
  counter_eq (h.metadata .nextObjectId)

theorem Represents.noWrap {db after : Db} {store' : Store} (h : Represents ext db store)
    (h' : Represents ext after store') (hwrap : NoWrap db after) : store.NoWrap store' where
  maxSeq := by
    rw [← h.counter_maxSeq, ← h'.counter_maxSeq]
    exact hwrap _ (by simp)
  nextUuid := by
    rw [← h.counter_nextUuid, ← h'.counter_nextUuid]
    exact hwrap _ (by simp)
  nextChannelId := by
    rw [← h.counter_nextChannelId, ← h'.counter_nextChannelId]
    exact hwrap _ (by simp)
  nextObjectId := by
    rw [← h.counter_nextObjectId, ← h'.counter_nextObjectId]
    exact hwrap _ (by simp)

/-- One step keeps the server sound and advances its store by at most one
permitted effect. -/
theorem Sound.step (h : Sound ext server store log) {label : Action × Event}
    (hstep : Server.Step ext server label next) :
    ∃ store' log', Sound ext next store' log' ∧ Advances store log label.2 store' log' := by
  have hcalls := Server.step_callsChecked h.calls hstep.1
  cases Server.step_effect h.represents h.coherent.valid h.calls hstep.1 with
  | unchanged hevent hdb =>
      refine ⟨store, log, ⟨?_, h.coherent, hcalls⟩, .unchanged hevent⟩
      rw [hdb]
      exact h.represents
  | applied happlies hpermitted hdb =>
      have hwrap := h.represents.noWrap hdb hstep.2
      exact ⟨_, _, ⟨hdb, h.coherent.apply hpermitted hwrap, hcalls⟩, .applied happlies hpermitted⟩

/-- A fact about the store and the log that every permitted effect keeps. -/
theorem Sound.run {P : Store → List EventMessage → Prop} {labels : List (Action × Event)}
    (h : Sound ext server store log) (hP : P store log)
    (hrun : Run (Server.Step ext) server labels next)
    (heffect : ∀ store log effect, Coherent ext store log → Permitted store effect →
      P store log → P (store.apply effect) (log ++ effect.messages)) :
    ∃ store' log', Sound ext next store' log' ∧ P store' log' := by
  refine hrun.invariant (P := fun server => ∃ store log, Sound ext server store log ∧ P store log)
    ⟨store, log, h, hP⟩ ?_
  rintro before label after ⟨store, log, hsound, hP⟩ hstep
  obtain ⟨store', log', hsound', hadvances⟩ := hsound.step hstep
  refine ⟨store', log', hsound', ?_⟩
  cases hadvances with
  | unchanged _ => exact hP
  | applied _ hpermitted => exact heffect store log _ hsound.coherent hpermitted hP

theorem runs_sound {eventMs : UInt64} {labels : List (Action × Event)}
    (hrun : Run (Server.Step ext) (Server.initial ext eventMs) labels server) :
    ∃ store log, Sound ext server store log := by
  obtain ⟨store, log, hsound, _⟩ := (initial_sound ext eventMs).run (P := fun _ _ => True)
    True.intro hrun (fun _ _ _ _ _ _ => True.intro)
  exact ⟨store, log, hsound⟩

theorem Reachable.sound (h : Reachable ext server) : ∃ store log, Sound ext server store log := by
  obtain ⟨_, _, hrun⟩ := h
  exact runs_sound hrun

end OpenEvent
