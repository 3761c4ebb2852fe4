import OpenEvent.MessageLog
import OpenEvent.Refinement.Scans

/-!
`ListChannels` of the storage on an undisturbed snapshot: the scan of the
channel keys finds every channel once, in the order of the ids.
-/

namespace OpenEvent

open OpenEventCore

section ChannelList

variable {ext : Externals} {db : Db} {store : Store}

/-- The channel that an entry of the metadata family holds, if it is one. -/
def channelOfEntry (ext : Externals) (entry : Bytes × Bytes) : Option ChannelInfo :=
  if startsWith entry.1 kChannelPrefix = true then ext.channelInfo.parseFromString entry.2
  else none

/-- Once past the keys with a prefix, an iterator meets no more of them. -/
theorem startsWith_after {keyPrefix : String} {key later : Bytes}
    (hle : Bytes.ofString keyPrefix ≤ key) (hlt : key < later)
    (hkey : startsWith key keyPrefix = false) : startsWith later keyPrefix = false := by
  rw [← Bool.not_eq_true]
  intro hlater
  have hwithin := Bytes.continues_of_between hle hlt (List.isPrefixOf_iff_prefix.mp hlater)
  have hstarts : startsWith key keyPrefix = true := List.isPrefixOf_iff_prefix.mpr hwithin
  rw [hkey] at hstarts
  cases hstarts

/-- The loop stops at the first key outside the prefix; none within it follows. -/
private theorem listChannelsLoop_ok (h : Represents ext db store) (hvalid : store.Valid ext)
    {entries : List (Bytes × Bytes)}
    (hentries : ∀ entry ∈ entries, db.metadata.get entry.1 = some entry.2)
    (hfrom : ∀ entry ∈ entries, Bytes.ofString kChannelPrefix ≤ entry.1)
    (hascending : entries.Pairwise (fun a b => a.1 < b.1)) :
    UnifiedStorage.listChannelsLoop ext none entries =
      .ok (entries.filterMap (channelOfEntry ext)) := by
  induction entries with
  | nil => rfl
  | cons entry rest ih =>
      obtain ⟨hafter, hrest⟩ := List.pairwise_cons.mp hascending
      rw [UnifiedStorage.listChannelsLoop, List.filterMap_cons]
      split
      · rename_i hstarts
        have hnone : ∀ other ∈ rest, channelOfEntry ext other = none := by
          intro other hother
          rw [channelOfEntry, if_neg]
          rw [startsWith_after (hfrom entry (by simp)) (hafter other hother) hstarts]
          decide
        rw [channelOfEntry, if_neg (by simp [hstarts]),
          List.filterMap_eq_nil_iff.mpr (fun other hother => hnone other hother)]
      · rename_i hstarts
        have hstarts : startsWith entry.1 kChannelPrefix = true := by simpa using hstarts
        obtain ⟨channelId, channel, hkey, hrecord, hparse⟩ :=
          h.channel_entry (hentries entry (by simp)) hstarts
        have hloop := ih (fun other hother => hentries other (by simp [hother]))
          (fun other hother => hfrom other (by simp [hother])) hrest
        have hchannel : channelOfEntry ext entry = some channel := by
          rw [channelOfEntry, if_pos hstarts, hparse]
        rw [hkey, decodeNumericKey_numericKey, Fallible.ok_bind,
          hvalid.parseChannel hrecord hparse, Fallible.ok_bind, hloop, hchannel]
        rfl

/-- `ListChannels` finds each stored channel once, in ascending order. -/
theorem Represents.listChannels_exact (h : Represents ext db store) (hvalid : store.Valid ext) :
    ∃ channels, UnifiedStorage.listChannels ext db {} = .ok channels ∧
      (channels.map (·.channelId)).Pairwise (· < ·) ∧
      ∀ channel : ChannelInfo,
        channel ∈ channels ↔ store.channels channel.channelId = some channel := by
  have hentries : ∀ entry ∈ db.metadata.seek (Bytes.ofString kChannelPrefix),
      Bytes.ofString kChannelPrefix ≤ entry.1 ∧ db.metadata.get entry.1 = some entry.2 :=
    fun entry hentry => (SortedMap.mem_seek _ _ entry.1 entry.2).mp hentry
  have hascending := db.metadata.seek_ascending (Bytes.ofString kChannelPrefix)
  have hfound : ∀ entry ∈ db.metadata.seek (Bytes.ofString kChannelPrefix), ∀ channel,
      channelOfEntry ext entry = some channel →
        entry.1 = numericKey kChannelPrefix channel.channelId ∧
          store.channels channel.channelId = some channel := by
    intro entry hentry channel hchannel
    unfold channelOfEntry at hchannel
    split at hchannel
    · rename_i hstarts
      obtain ⟨channelId, stored, hkey, hrecord, hparse⟩ :=
        h.channel_entry (hentries entry hentry).2 hstarts
      obtain rfl : stored = channel := Option.some.inj (hparse.symm.trans hchannel)
      rw [(hvalid.channel channelId stored hrecord).1]
      exact ⟨hkey, hrecord⟩
    · cases hchannel
  refine ⟨_, listChannelsLoop_ok h hvalid (fun entry hentry => (hentries entry hentry).2)
    (fun entry hentry => (hentries entry hentry).1) hascending, ?_, ?_⟩
  · rw [List.pairwise_map, List.pairwise_filterMap]
    refine hascending.imp_of_mem ?_
    intro first second hfirst hsecond hlt channel hchannel later hlater
    rw [(hfound first hfirst channel hchannel).1, (hfound second hsecond later hlater).1,
      numericKey_lt_iff] at hlt
    exact hlt
  · intro channel
    rw [List.mem_filterMap]
    constructor
    · rintro ⟨entry, hentry, hchannel⟩
      exact (hfound entry hentry channel hchannel).2
    · intro hrecord
      have hstored : StoredAs ext.channelInfo
          (db.metadata.get (numericKey kChannelPrefix channel.channelId))
          (store.channels channel.channelId) := h.metadata (.channel channel.channelId)
      rcases hstored.cases with ⟨_, hnone⟩ | ⟨bytes, stored, hsome, hfound, hparse⟩
      · rw [hrecord] at hnone
        cases hnone
      · obtain rfl : channel = stored := Option.some.inj (hrecord.symm.trans hfound)
        refine ⟨(numericKey kChannelPrefix channel.channelId, bytes), ?_, ?_⟩
        · exact (SortedMap.mem_seek _ _ _ _).mpr ⟨Bytes.le_append _ _, hsome⟩
        · rw [channelOfEntry, if_pos (startsWith_numericKey _ _), hparse]

end ChannelList

end OpenEvent
