import OpenEvent.Reachable
import OpenEvent.Reference
import OpenEvent.Refinement.Pages

/-!
The page law of `FetchVisible` and `ListAllMessages`: each page is exactly what
the reader may see of a stretch of the log, and following the cursor yields
everything once.
-/

namespace OpenEvent

open OpenEventCore

/-- Each page of either reader obeys the law, and following the cursor ends with
everything that is shown. The serialized size of a message counts its fields,
so it is not zero for a message with a seq. -/
theorem pages_obey_law (ext : Externals) (config : Config) (db : Db) (log : List EventMessage)
    (principal fromSeq : UInt64) (limit : UInt32) (onlyMyRecipient : Bool) (channels : List UInt64)
    (hlog : ValidLog ext db log)
    (hsize : ∀ message : EventMessage, message.seq ≠ 0 → 0 < ext.byteSizeLong message)
    (hchannels : ∀ channelId ∈ channels, ∃ channel,
      loadChannel ext db {} channelId = .ok (some channel) ∧ canRead channel principal = true)
    (hlimit : 0 < limit) (hrecords : 0 < config.maxScanRecords)
    (hfrom : fromSeq.toNat < log.length) :
    let shown := visible ext db principal onlyMyRecipient channels
    let fetchPage fromSeq :=
      fetchVisible ext config db {} principal fromSeq limit onlyMyRecipient channels
    let listPage fromSeq := listAllMessages ext config db {} fromSeq limit
    (∃ page, fetchPage fromSeq = .ok page ∧ PageLaw ext config log shown fromSeq limit page) ∧
      (∃ page, listPage fromSeq = .ok page ∧
        PageLaw ext config log (fun _ => true) fromSeq limit page) ∧
      ∃ calls,
        followCursor fetchPage calls fromSeq = some ((log.drop fromSeq.toNat).filter shown) ∧
        followCursor listPage calls fromSeq = some (log.drop fromSeq.toNat) := by
  intro shown fetchPage listPage
  refine ⟨hlog.fetchVisible_page hsize hchannels hlimit hrecords hfrom,
    hlog.listAllMessages_page hsize hlimit hrecords hfrom, log.length - fromSeq.toNat, ?_, ?_⟩
  · exact followCursor_complete hlog.fits
      (fun _ hseq => hlog.fetchVisible_page hsize hchannels hlimit hrecords hseq) hfrom le_rfl
  · have hall : (log.drop fromSeq.toNat).filter (fun _ => true) = log.drop fromSeq.toNat :=
      List.filter_true _
    rw [← hall]
    exact followCursor_complete hlog.fits
      (fun _ hseq => hlog.listAllMessages_page hsize hlimit hrecords hseq) hfrom le_rfl

/-- Whether principal 8 may read channel 1. -/
def Reference.showsChannel (db : Db) : Bool :=
  match loadChannel Reference.externals db {} 1 with
  | .ok (some channel) => canRead channel 8
  | _ => false

/-- Principal 8 reads his channel of the session, one message a page. -/
theorem session_pages_obey_law :
    ∃ log page, ValidLog Reference.externals Reference.sessionServer.db log ∧
      fetchVisible Reference.externals Reference.config Reference.sessionServer.db {} 8 0 1 true
        [1] = .ok page ∧
      PageLaw Reference.externals Reference.config log
        (visible Reference.externals Reference.sessionServer.db 8 true [1]) 0 1 page := by
  obtain ⟨store, log, hsound⟩ := Reference.session_reachable.sound
  have hnext : store.maxSeq + 1 ≠ 0 := by
    rw [← hsound.represents.counter_maxSeq]
    decide +kernel
  have hlog := hsound.coherent.validLog hsound.represents hnext
  have hchannel : ∃ channel, loadChannel Reference.externals Reference.sessionServer.db {} 1 =
      .ok (some channel) ∧ canRead channel 8 = true := by
    have hloads : Reference.showsChannel Reference.sessionServer.db = true := by
      decide +kernel
    unfold Reference.showsChannel at hloads
    split at hloads
    · rename_i channel hchannel
      exact ⟨channel, hchannel, hloads⟩
    · cases hloads
  obtain ⟨page, hpage, hlaw⟩ := (pages_obey_law Reference.externals Reference.config
    Reference.sessionServer.db log 8 0 1 true [1] hlog
    (fun message _ => Reference.byteSizeLong_pos message) (by simpa using hchannel) (by decide)
    (by decide) (List.length_pos_iff.mpr hlog.nonempty)).1
  exact ⟨log, page, hlog, hpage, hlaw⟩

end OpenEvent
