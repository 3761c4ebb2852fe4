import OpenEvent.Coherence
import OpenEvent.Refinement.Getters

/-!
The messages family of the database is the log: its entries in key order are
the encoded messages in seq order.
-/

namespace OpenEvent

/-- The entries that a log has in the messages family. -/
def encodedLog (ext : Externals) (log : List EventMessage) : List (Bytes × Bytes) :=
  log.mapIdx (fun position message => (numericKey kMessagePrefix (UInt64.ofNat position),
    (ext.eventMessage.serializeToString message).getD []))

variable {ext : Externals} {db : Db} {store : Store} {log : List EventMessage}

theorem getElem?_encodedLog (ext : Externals) (log : List EventMessage) (position : Nat) :
    (encodedLog ext log)[position]? = log[position]?.map (fun message =>
      (numericKey kMessagePrefix (UInt64.ofNat position),
        (ext.eventMessage.serializeToString message).getD [])) := by
  simp [encodedLog, List.getElem?_mapIdx]

theorem encodedLog_mono {longer : List EventMessage} (h : log <+: longer) :
    encodedLog ext log <+: encodedLog ext longer := by
  obtain ⟨rest, rfl⟩ := h
  simp [encodedLog, List.mapIdx_append]

theorem LogIndex.length_le (h : LogIndex store log) : log.length ≤ 2 ^ 64 := by
  have hlt := store.maxSeq.toNat_lt
  have hlength := h.maxSeq
  omega

theorem LogIndex.toNat_ofNat (h : LogIndex store log) {position : Nat}
    (hlt : position < log.length) : (UInt64.ofNat position).toNat = position := by
  have hle := h.length_le
  rw [UInt64.toNat_ofNat']
  omega

theorem LogIndex.message_of_lt (h : LogIndex store log) {position : Nat}
    {message : EventMessage} (hat : log[position]? = some message) :
    store.messages (UInt64.ofNat position) = some message := by
  have hlt := (List.getElem?_eq_some_iff.mp hat).1
  rw [h.messages, h.toNat_ofNat hlt, hat]

private theorem encodedLog_ascending (h : LogIndex store log) :
    (encodedLog ext log).Pairwise (fun a b => a.1 < b.1) := by
  rw [List.pairwise_iff_getElem]
  intro i j hi hj hlt
  have hlength : (encodedLog ext log).length = log.length := by simp [encodedLog]
  have hi' := h.toNat_ofNat (by omega : i < log.length)
  have hj' := h.toNat_ofNat (by omega : j < log.length)
  simp only [encodedLog, List.getElem_mapIdx]
  rw [numericKey_lt_iff, UInt64.lt_iff_toNat_lt, hi', hj']
  exact hlt

private theorem mem_encodedLog (hdb : Represents ext db store) (h : LogIndex store log)
    (key value : Bytes) :
    (key, value) ∈ encodedLog ext log ↔ db.messages.get key = some value := by
  rw [List.mem_iff_getElem?]
  constructor
  · rintro ⟨position, hposition⟩
    rw [getElem?_encodedLog, Option.map_eq_some_iff] at hposition
    obtain ⟨message, hat, hentry⟩ := hposition
    obtain ⟨rfl, rfl⟩ := Prod.mk.inj hentry
    have hstored := hdb.messages (UInt64.ofNat position)
    rw [h.message_of_lt hat] at hstored
    cases hget : db.messages.get (numericKey kMessagePrefix (UInt64.ofNat position)) with
    | none => simp [hget, StoredAs] at hstored
    | some bytes =>
        have hserialized : ext.eventMessage.serializeToString message = some bytes := by
          simpa [hget, StoredAs] using hstored
        simp [hserialized]
  · intro hget
    obtain ⟨seq, rfl⟩ := hdb.messages_only key (by simp [hget])
    have hstored := hdb.messages seq
    rw [hget] at hstored
    cases hmessage : store.messages seq with
    | none => simp [hmessage, StoredAs] at hstored
    | some message =>
        have hserialized : ext.eventMessage.serializeToString message = some value := by
          simpa [hmessage, StoredAs] using hstored
        refine ⟨seq.toNat, ?_⟩
        rw [getElem?_encodedLog, ← h.messages, hmessage]
        simp [hserialized]

/-- The messages family holds the encoded log and nothing else. -/
theorem Represents.messages_entries (hdb : Represents ext db store) (h : LogIndex store log) :
    db.messages.entries = encodedLog ext log := by
  have heq : db.messages = ⟨encodedLog ext log, encodedLog_ascending h⟩ := by
    apply SortedMap.ext
    intro key
    apply Option.ext
    intro value
    rw [SortedMap.get_eq_some_iff ⟨encodedLog ext log, encodedLog_ascending h⟩,
      mem_encodedLog hdb h]
  exact congrArg SortedMap.entries heq

theorem Represents.parse_message (hdb : Represents ext db store) (h : LogIndex store log)
    {position : Nat} {message : EventMessage} (hat : log[position]? = some message) :
    ext.eventMessage.parseFromString ((ext.eventMessage.serializeToString message).getD []) =
      some message := by
  have hstored := hdb.messages (UInt64.ofNat position)
  rw [h.message_of_lt hat] at hstored
  rcases hstored.cases with ⟨_, hnone⟩ | ⟨bytes, found, hsome, hfound, hparse⟩
  · cases hnone
  · obtain rfl := Option.some.inj hfound
    rw [hsome] at hstored
    have hserialized : ext.eventMessage.serializeToString message = some bytes := hstored
    simpa [hserialized] using hparse

/-- What readers decode from the messages family is the log. -/
theorem Represents.log_eq (hdb : Represents ext db store) (h : LogIndex store log) :
    db.log ext = log := by
  have hparse : ∀ entry ∈ log.zipIdx,
      ext.eventMessage.parseFromString ((ext.eventMessage.serializeToString entry.1).getD []) =
        some entry.1 := by
    intro entry hentry
    exact hdb.parse_message h (List.mem_zipIdx_iff_getElem?.mp hentry)
  rw [Db.log, hdb.messages_entries h, encodedLog, List.mapIdx_eq_zipIdx_map, List.filterMap_map]
  have hcongr : log.zipIdx.filterMap ((fun entry : Bytes × Bytes =>
      ext.eventMessage.parseFromString entry.2) ∘ fun entry =>
        (numericKey kMessagePrefix (UInt64.ofNat entry.2),
          (ext.eventMessage.serializeToString entry.1).getD [])) =
      log.zipIdx.filterMap (fun entry => some entry.1) :=
    List.filterMap_congr (fun entry hentry => hparse entry hentry)
  exact hcongr.trans (by simp)

/-- Seeking to a seq skips exactly the messages before it. -/
theorem Represents.seek_messages (hdb : Represents ext db store) (h : LogIndex store log)
    (seq : UInt64) :
    db.messages.seek (numericKey kMessagePrefix seq) = (encodedLog ext log).drop seq.toNat := by
  have hlength : (encodedLog ext log).length = log.length := by simp [encodedLog]
  have hkey (position : Nat) (hlt : position < log.length) (entry : Bytes × Bytes)
      (hat : (encodedLog ext log)[position]? = some entry) :
      numericKey kMessagePrefix seq ≤ entry.1 ↔ seq.toNat ≤ position := by
    rw [getElem?_encodedLog, Option.map_eq_some_iff] at hat
    obtain ⟨message, _, rfl⟩ := hat
    rw [← not_lt, numericKey_lt_iff, UInt64.lt_iff_toNat_lt, h.toNat_ofNat hlt, not_lt]
  rw [SortedMap.seek, hdb.messages_entries h]
  rw [← List.take_append_drop seq.toNat (encodedLog ext log), List.filter_append]
  have hbefore : ((encodedLog ext log).take seq.toNat).filter
      (fun entry => numericKey kMessagePrefix seq ≤ entry.1) = [] := by
    rw [List.filter_eq_nil_iff]
    intro entry hentry
    obtain ⟨position, hposition⟩ := List.mem_iff_getElem?.mp hentry
    rw [List.getElem?_take] at hposition
    split_ifs at hposition with hlt
    have hbound := (List.getElem?_eq_some_iff.mp hposition).1
    simp only [decide_eq_true_eq]
    rw [hkey position (by omega) entry hposition]
    omega
  have hafter : ((encodedLog ext log).drop seq.toNat).filter
      (fun entry => numericKey kMessagePrefix seq ≤ entry.1) =
        (encodedLog ext log).drop seq.toNat := by
    rw [List.filter_eq_self]
    intro entry hentry
    obtain ⟨position, hposition⟩ := List.mem_iff_getElem?.mp hentry
    rw [List.getElem?_drop] at hposition
    have hbound := (List.getElem?_eq_some_iff.mp hposition).1
    simp only [decide_eq_true_eq]
    rw [hkey _ (by omega) entry hposition]
    omega
  rw [hbefore, hafter, List.nil_append, List.take_append_drop]

end OpenEvent
