import OpenEvent.Reachable
import OpenEvent.Reference
import OpenEvent.Refinement.ChannelList
import OpenEvent.Refinement.Pages

/-!
The read paths agree on the channels that a principal sees: the point lookup,
the list of channels, the check of explicit channels for `Fetch` and for
subscriptions, and the channels whose messages an unfiltered reader is shown.
-/

namespace OpenEvent

open OpenEventCore Fallible

/-- A read refused for its channel: it does not exist, or is not to be read. -/
def Refused {α : Type} : Result α → Prop
  | .error status => status.code = .notFound ∨ status.code = .permissionDenied
  | .ok _ => False

/-- What the read paths of one snapshot tell a principal about channels, against
the answer `all` of `ListChannels` without a filter. -/
structure VisibilityAgrees (ext : Externals) (config : Config) (db : Db) (principal : UInt64)
    (token : Bytes) (all : List ChannelInfo) : Prop where
  listed : listChannels ext none db {} ⟨principal, token, .channelFilterAll⟩ = .ok all
  ascending : (all.map (·.channelId)).Pairwise (· < ·)
  joined : listChannels ext none db {} ⟨principal, token, .channelFilterJoined⟩ =
    .ok (all.filter (fun channel => channel.channelId ≠ 0 ∧ isMember channel principal = true))
  owned : listChannels ext none db {} ⟨principal, token, .channelFilterOwned⟩ =
    .ok (all.filter (fun channel => channel.channelId ≠ 0 ∧ channel.creator = some principal))
  getChannel_iff : ∀ channelId,
    (∃ channel, getChannel ext none db {} ⟨principal, token, channelId⟩ = .ok channel) ↔
      channelId ∈ all.map (·.channelId)
  fetch_iff : ∀ channelId fromSeq limit onlyMyRecipient, validateLimit limit = .ok () →
    (¬ Refused (fetch ext config none db {}
      ⟨principal, token, fromSeq, limit, onlyMyRecipient, [channelId]⟩) ↔
        channelId ∈ all.map (·.channelId))
  subscription_iff : ∀ channelId,
    ¬ Refused (subscriptionMaxSeq ext db {} principal token [channelId]) ↔
      channelId ∈ all.map (·.channelId)
  /-- The reader follows the cursor without a filter from seq 0 to the end. -/
  traversal : ∀ limit, validateLimit limit = .ok () → ∃ calls delivered,
    followCursor (fun fromSeq =>
      fetch ext config none db {} ⟨principal, token, fromSeq, limit, false, []⟩) calls 0 =
        some delivered ∧
    ∀ channelId, channelId ∈ all.map (·.channelId) ↔
      (db.log ext).filter (·.channelId = channelId) ≠ [] ∧
        delivered.filter (·.channelId = channelId) =
          (db.log ext).filter (·.channelId = channelId)
  writable : ∀ channelId channel, loadChannel ext db {} channelId = .ok (some channel) →
    canWrite channel principal = true → channelId ∈ all.map (·.channelId)

section Decisions

variable {ext : Externals} {db : Db} {store : Store} {log : List EventMessage}
variable {config : Config} {principal : UInt64} {token : Bytes}

theorem canRead_of_canWrite {channel : ChannelInfo} (h : canWrite channel principal = true) :
    canRead channel principal = true := by
  unfold canWrite at h
  unfold canRead
  split at h
  · cases h
  · rename_i hne
    rw [if_neg hne]
    split at h
    · rename_i hpublic
      rw [if_pos (Or.inl hpublic)]
    · split
      · rfl
      · exact h

theorem Represents.loadChannel_eq (h : Represents ext db store) (hvalid : store.Valid ext)
    (channelId : UInt64) :
    loadChannel ext db {} channelId = .ok (db.findChannel ext channelId) :=
  (h.reads_loadChannel hvalid channelId).eq_ok

/-- The status of a read of a channel that is not readable. -/
theorem Represents.validateReadable_single (h : Represents ext db store)
    (hvalid : store.Valid ext) (channelId : UInt64) :
    if readable ext db principal channelId then
      validateReadableChannels ext db {} principal [channelId] = .ok ()
    else
      ∃ status, validateReadableChannels ext db {} principal [channelId] = .error status ∧
        (status.code = .notFound ∨ status.code = .permissionDenied) := by
  have hload := h.loadChannel_eq hvalid channelId
  rw [validateReadableChannels, validateReadableLoop]
  simp only [List.contains_nil, Bool.false_eq_true, if_false]
  rw [hload, ok_bind]
  cases hfound : db.findChannel ext channelId with
  | none =>
      rw [readable, hfound]
      exact ⟨_, rfl, Or.inl rfl⟩
  | some channel =>
      rw [readable, hfound]
      dsimp only
      split
      · rfl
      · exact ⟨_, rfl, Or.inr rfl⟩

theorem Represents.getChannel_iff (h : Represents ext db store) (hvalid : store.Valid ext)
    (hauth : authenticate db {} principal token = .ok ()) (channelId : UInt64) :
    (∃ channel, getChannel ext none db {} ⟨principal, token, channelId⟩ = .ok channel) ↔
      readable ext db principal channelId = true := by
  unfold getChannel
  rw [ensureAvailable, ok_bind, UnifiedStorage.createSnapshot, if_neg (by simp), ok_bind]
  dsimp only
  rw [hauth, ok_bind, h.loadChannel_eq hvalid, ok_bind, readable]
  cases hfound : db.findChannel ext channelId with
  | none =>
      constructor
      · rintro ⟨_, hok⟩
        cases hok
      · intro hfalse
        cases hfalse
  | some channel =>
      dsimp only
      split
      · rename_i hcan
        exact ⟨fun _ => hcan, fun _ => ⟨channel, rfl⟩⟩
      · rename_i hcan
        constructor
        · rintro ⟨_, hok⟩
          cases hok
        · exact fun hread => absurd hread hcan

theorem listChannels_eq (hauth : authenticate db {} principal token = .ok ())
    {filter : ChannelFilter} (hfilter : validateFilter filter = .ok ())
    {channels : List ChannelInfo} (hlist : UnifiedStorage.listChannels ext db {} = .ok channels) :
    listChannels ext none db {} ⟨principal, token, filter⟩ =
      .ok ((if filter = .channelFilterAll then [systemChannel] else []) ++
        channels.filter (listed ⟨principal, token, filter⟩)) := by
  unfold listChannels
  rw [ensureAvailable, ok_bind]
  dsimp only
  rw [hfilter, ok_bind, UnifiedStorage.createSnapshot, if_neg (by simp), ok_bind, hauth, ok_bind,
    hlist]
  rfl

theorem Coherent.mem_listed_iff (h : Coherent ext store log) (hdb : Represents ext db store)
    {channels : List ChannelInfo}
    (hchannels : ∀ channel : ChannelInfo,
      channel ∈ channels ↔ store.channels channel.channelId = some channel) (channelId : UInt64) :
    channelId ∈ (systemChannel :: channels.filter (canRead · principal)).map (·.channelId) ↔
      readable ext db principal channelId = true := by
  rw [List.map_cons, List.mem_cons, List.mem_map, readable, Db.findChannel]
  by_cases hzero : channelId = 0
  · subst hzero
    simp [systemChannel, canRead]
  · have hsystem : channelId ≠ systemChannel.channelId := hzero
    rw [if_neg hzero, hdb.channel_eq]
    constructor
    · rintro (hfirst | ⟨channel, hmember, rfl⟩)
      · exact absurd hfirst hsystem
      · obtain ⟨hstored, hcan⟩ := List.mem_filter.mp hmember
        rw [(hchannels channel).mp hstored]
        exact hcan
    · intro hread
      cases hfound : store.channels channelId with
      | none => simp [hfound] at hread
      | some channel =>
          have hid := (h.valid.channel channelId channel hfound).1
          refine Or.inr ⟨channel, List.mem_filter.mpr ⟨?_, by simpa [hfound] using hread⟩, hid⟩
          rw [hchannels, hid, hfound]

/-- Every channel has a message: the system channel the first of the log, any
other the event that starts it. -/
theorem Coherent.channel_has_message (h : Coherent ext store log) (hdb : Represents ext db store)
    {channelId : UInt64} {channel : ChannelInfo}
    (hfound : db.findChannel ext channelId = some channel) :
    ∃ message ∈ log, message.channelId = channelId := by
  unfold Db.findChannel at hfound
  split at hfound
  · rename_i hzero
    have hpositive := List.length_pos_iff.mpr h.wellFormed.ne_nil
    have hat := List.getElem?_eq_getElem hpositive
    rcases h.wellFormed.legal hat with ⟨_, tsMs, hfirst⟩ | ⟨hne, _⟩
    · refine ⟨log[0], List.getElem_mem hpositive, ?_⟩
      rw [hfirst, hzero]
      rfl
    · exact absurd rfl hne
  · rename_i hne
    rw [hdb.channel_eq, h.channelIndex.channels channelId hne] at hfound
    exact WellFormedLog.exists_of_channelAt hfound

/-- What an unfiltered reader is shown of a channel is all of it and not nothing,
exactly when the channel is readable. -/
theorem Coherent.delivers_iff (h : Coherent ext store log) (hdb : Represents ext db store)
    (channelId : UInt64) :
    (log.filter (·.channelId = channelId) ≠ [] ∧
      (log.filter (visible ext db principal false [])).filter (·.channelId = channelId) =
        log.filter (·.channelId = channelId)) ↔ readable ext db principal channelId = true := by
  have hshown (message : EventMessage) : visible ext db principal false [] message =
      readable ext db principal message.channelId := by
    simp [visible]
  rw [List.filter_filter]
  cases hread : readable ext db principal channelId with
  | true =>
      refine iff_of_true ⟨?_, ?_⟩ rfl
      · have hfound : ∃ channel, db.findChannel ext channelId = some channel := by
          unfold readable at hread
          split at hread
          · exact ⟨_, ‹_›⟩
          · cases hread
        obtain ⟨channel, hfound⟩ := hfound
        obtain ⟨message, hmessage, hid⟩ := h.channel_has_message hdb hfound
        exact List.ne_nil_of_mem (List.mem_filter.mpr ⟨hmessage, by simpa using hid⟩)
      · apply List.filter_congr
        intro message _
        by_cases hid : message.channelId = channelId
        · simp [hshown, hid, hread]
        · simp [hid]
  | false =>
      have hnone : log.filter (fun message => decide (message.channelId = channelId) &&
          visible ext db principal false [] message) = [] := by
        rw [List.filter_eq_nil_iff]
        intro message _
        by_cases hid : message.channelId = channelId
        · simp [hshown, hid, hread]
        · simp [hid]
      rw [hnone]
      simp only [Bool.false_eq_true, iff_false, not_and]
      exact fun hne heq => hne heq.symm

theorem fetch_authorized (hauth : authenticate db {} principal token = .ok ())
    {fromSeq : UInt64} {limit : UInt32} {onlyMyRecipient : Bool} {channels : List UInt64}
    (hlimit : validateLimit limit = .ok ())
    (hchannels : validateReadableChannels ext db {} principal channels = .ok ()) :
    fetch ext config none db {} ⟨principal, token, fromSeq, limit, onlyMyRecipient, channels⟩ =
      fetchVisible ext config db {} principal fromSeq limit onlyMyRecipient channels := by
  unfold fetch
  rw [ensureAvailable, ok_bind]
  dsimp only
  rw [hlimit, ok_bind, UnifiedStorage.createSnapshot, if_neg (by simp), ok_bind, hauth, ok_bind,
    hchannels, ok_bind]

theorem validateLimit_pos {limit : UInt32} (h : validateLimit limit = .ok ()) : 0 < limit := by
  unfold validateLimit at h
  split at h
  · cases h
  · rename_i hrange
    exact UInt32.pos_iff_ne_zero.mpr (fun hzero => hrange (Or.inl hzero))

theorem Represents.exists_of_readable (h : Represents ext db store) (hvalid : store.Valid ext)
    {channelId : UInt64} (hread : readable ext db principal channelId = true) :
    ∃ channel, loadChannel ext db {} channelId = .ok (some channel) ∧
      canRead channel principal = true := by
  unfold readable at hread
  split at hread
  · rename_i channel hfound
    exact ⟨channel, by rw [h.loadChannel_eq hvalid, hfound], hread⟩
  · cases hread

/-- Past the last seq there is nothing to fetch. -/
theorem ValidLog.fetchVisible_past (h : ValidLog ext db log) {fromSeq : UInt64} {limit : UInt32}
    {onlyMyRecipient : Bool} {channels : List UInt64} (hfrom : ¬ fromSeq.toNat < log.length) :
    ∃ page, fetchVisible ext config db {} principal fromSeq limit onlyMyRecipient channels =
      .ok page := by
  have hpositive := List.length_pos_iff.mpr h.nonempty
  have hfits := h.fits
  have hpast : fromSeq > UInt64.ofNat (log.length - 1) := by
    rw [gt_iff_lt, UInt64.lt_iff_toNat_lt, UInt64.toNat_ofNat', Nat.mod_eq_of_lt (by omega)]
    omega
  unfold fetchVisible
  rw [h.getMaxSeq, ok_bind, if_pos hpast]
  exact ⟨_, rfl⟩

theorem Coherent.fetch_refused_iff (h : Coherent ext store log) (hdb : Represents ext db store)
    (hauth : authenticate db {} principal token = .ok ()) (hnext : store.maxSeq + 1 ≠ 0)
    (hrecords : 0 < config.maxScanRecords)
    (hsize : ∀ message : EventMessage, message.seq ≠ 0 → 0 < ext.byteSizeLong message)
    (channelId fromSeq : UInt64) {limit : UInt32} (onlyMyRecipient : Bool)
    (hlimit : validateLimit limit = .ok ()) :
    ¬ Refused (fetch ext config none db {}
      ⟨principal, token, fromSeq, limit, onlyMyRecipient, [channelId]⟩) ↔
        readable ext db principal channelId = true := by
  have hlog := h.validLog hdb hnext
  have hcheck : if readable ext db principal channelId then _ else _ :=
    hdb.validateReadable_single h.valid channelId
  split at hcheck
  · rename_i hread
    refine iff_of_true ?_ hread
    rw [fetch_authorized hauth hlimit hcheck]
    have hpage : ∃ page, fetchVisible ext config db {} principal fromSeq limit onlyMyRecipient
        [channelId] = .ok page := by
      by_cases hfrom : fromSeq.toNat < log.length
      · have hchannels : ∀ other ∈ [channelId], ∃ channel,
            loadChannel ext db {} other = .ok (some channel) ∧
              canRead channel principal = true := by
          simpa using hdb.exists_of_readable h.valid hread
        obtain ⟨page, hpage, _⟩ := hlog.fetchVisible_page hsize hchannels
          (validateLimit_pos hlimit) hrecords hfrom
        exact ⟨page, hpage⟩
      · exact hlog.fetchVisible_past hfrom
    obtain ⟨page, hpage⟩ := hpage
    rw [hpage]
    exact id
  · rename_i hread
    obtain ⟨status, hstatus, hcode⟩ := hcheck
    refine iff_of_false (not_not_intro ?_) hread
    unfold fetch
    rw [ensureAvailable, ok_bind]
    dsimp only
    rw [hlimit, ok_bind, UnifiedStorage.createSnapshot, if_neg (by simp), ok_bind, hauth, ok_bind,
      hstatus]
    exact hcode

theorem Represents.subscription_refused_iff (h : Represents ext db store)
    (hvalid : store.Valid ext) (hauth : authenticate db {} principal token = .ok ())
    (channelId : UInt64) :
    ¬ Refused (subscriptionMaxSeq ext db {} principal token [channelId]) ↔
      readable ext db principal channelId = true := by
  unfold subscriptionMaxSeq
  rw [hauth, ok_bind]
  have hcheck : if readable ext db principal channelId then _ else _ :=
    h.validateReadable_single hvalid channelId
  split at hcheck
  · rename_i hread
    rw [hcheck, ok_bind, h.reads_getMaxSeq.eq_ok]
    exact iff_of_true id hread
  · rename_i hread
    obtain ⟨status, hstatus, hcode⟩ := hcheck
    rw [hstatus]
    exact iff_of_false (not_not_intro hcode) hread

/-- Following the cursor without a filter delivers every message that lies in a
readable channel. -/
theorem Coherent.traversal (h : Coherent ext store log) (hdb : Represents ext db store)
    (hauth : authenticate db {} principal token = .ok ()) (hnext : store.maxSeq + 1 ≠ 0)
    (hrecords : 0 < config.maxScanRecords)
    (hsize : ∀ message : EventMessage, message.seq ≠ 0 → 0 < ext.byteSizeLong message)
    {limit : UInt32} (hlimit : validateLimit limit = .ok ()) :
    followCursor (fun fromSeq =>
      fetch ext config none db {} ⟨principal, token, fromSeq, limit, false, []⟩) log.length 0 =
        some (log.filter (visible ext db principal false [])) := by
  have hlog := h.validLog hdb hnext
  have hpages (fromSeq : UInt64) (hfrom : fromSeq.toNat < log.length) : ∃ page,
      fetch ext config none db {} ⟨principal, token, fromSeq, limit, false, []⟩ = .ok page ∧
        PageLaw ext config log (visible ext db principal false []) fromSeq limit page := by
    have hnone : ∀ channelId ∈ ([] : List UInt64), ∃ channel,
        loadChannel ext db {} channelId = .ok (some channel) ∧
          canRead channel principal = true := by
      simp
    rw [fetch_authorized hauth hlimit rfl]
    exact hlog.fetchVisible_page hsize hnone (validateLimit_pos hlimit) hrecords hfrom
  have hfirst : (0 : UInt64).toNat < log.length := List.length_pos_iff.mpr hlog.nonempty
  exact followCursor_complete hlog.fits hpages hfirst (Nat.sub_le _ _)

end Decisions

/-- In every state that runs reach, all read paths agree on the channels that a
principal with a valid token sees, and `ListChannels` lists exactly these. The
serialized size of a message counts its fields, so it is not zero for a message
with a seq. -/
theorem visibility_decisions_agree (ext : Externals) (config : Config) (server : Server)
    (principal : UInt64) (token : Bytes) (hreachable : Reachable ext server)
    (hauth : authenticate server.db {} principal token = .ok ())
    (hnext : server.db.counter kMaxSeqKey + 1 ≠ 0) (hrecords : 0 < config.maxScanRecords)
    (hsize : ∀ message : EventMessage, message.seq ≠ 0 → 0 < ext.byteSizeLong message) :
    ∃ all, VisibilityAgrees ext config server.db principal token all := by
  obtain ⟨store, log, hdb, hcoherent, _⟩ := hreachable.sound
  generalize server.db = db at *
  have hvalid := hcoherent.valid
  rw [hdb.counter_maxSeq] at hnext
  have hlog := hcoherent.validLog hdb hnext
  obtain ⟨channels, hlist, hascending, hchannels⟩ := hdb.listChannels_exact hvalid
  have hids (channelId : UInt64) :
      channelId ∈ (systemChannel :: channels.filter (canRead · principal)).map (·.channelId) ↔
        readable ext db principal channelId = true :=
    hcoherent.mem_listed_iff hdb hchannels channelId
  have hnonzero : ∀ channel ∈ channels, channel.channelId ≠ 0 := by
    intro channel hmember
    exact (hcoherent.channelIndex.lt_of_some ((hchannels channel).mp hmember)).1
  refine ⟨systemChannel :: channels.filter (canRead · principal), ?_, ?_, ?_, ?_, ?_, ?_, ?_, ?_, ?_⟩
  · rw [listChannels_eq hauth rfl hlist, if_pos rfl]
    have hlisted : listed ⟨principal, token, .channelFilterAll⟩ = (canRead · principal) := by
      funext channel
      simp [listed]
    rw [hlisted]
    rfl
  · rw [List.map_cons, List.pairwise_cons]
    constructor
    · intro channelId hmember
      obtain ⟨channel, hchannel, rfl⟩ := List.mem_map.mp hmember
      exact UInt64.pos_iff_ne_zero.mpr (hnonzero channel (List.mem_filter.mp hchannel).1)
    · exact hascending.sublist ((List.filter_sublist).map _)
  · rw [listChannels_eq hauth rfl hlist, if_neg (by decide), List.nil_append,
      List.filter_cons_of_neg (by simp [systemChannel]), List.filter_filter]
    congr 1
    apply List.filter_congr
    intro channel hmember
    simp [listed, hnonzero channel hmember, Bool.and_comm]
  · rw [listChannels_eq hauth rfl hlist, if_neg (by decide), List.nil_append,
      List.filter_cons_of_neg (by simp [systemChannel]), List.filter_filter]
    congr 1
    apply List.filter_congr
    intro channel hmember
    simp [listed, hnonzero channel hmember, Bool.and_comm]
  · intro channelId
    rw [hids, hdb.getChannel_iff hvalid hauth]
  · intro channelId fromSeq limit onlyMyRecipient hlimit
    rw [hids]
    exact hcoherent.fetch_refused_iff hdb hauth hnext hrecords hsize channelId fromSeq
      onlyMyRecipient hlimit
  · intro channelId
    rw [hids]
    exact hdb.subscription_refused_iff hvalid hauth channelId
  · intro limit hlimit
    refine ⟨_, _, hcoherent.traversal hdb hauth hnext hrecords hsize hlimit, ?_⟩
    intro channelId
    rw [hids, hdb.log_eq hcoherent.logIndex, hcoherent.delivers_iff hdb]
  · intro channelId channel hload hwrite
    rw [hids, readable, loadChannel_findChannel hload]
    exact canRead_of_canWrite hwrite

/-- Principal 7 of the session sees the system channel and his private one. -/
theorem session_visibility_agrees :
    ∃ all, VisibilityAgrees Reference.externals Reference.config Reference.sessionServer.db 7
      Reference.credential all := by
  have hauth : (authenticate Reference.sessionServer.db {} 7 Reference.credential).isOk = true := by
    decide +kernel
  have hauth : authenticate Reference.sessionServer.db {} 7 Reference.credential = .ok () := by
    cases hresult : authenticate Reference.sessionServer.db {} 7 Reference.credential with
    | ok => rfl
    | error status => simp [hresult, Except.isOk, Except.toBool] at hauth
  exact visibility_decisions_agree Reference.externals Reference.config Reference.sessionServer 7
    Reference.credential Reference.session_reachable hauth (by decide +kernel) (by decide)
    (fun message _ => Reference.byteSizeLong_pos message)

end OpenEvent
