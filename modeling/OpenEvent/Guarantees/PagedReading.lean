import OpenEvent.Guarantees.Publishing
import OpenEvent.Guarantees.Visibility

/-!
A reader who asks for one page of messages after the other, each from where the last one
ended, while others write, pages fail and the server goes down and comes back with other
limits. He gets what the pages were to show of one stretch of the log, once and in order.
-/

namespace OpenEvent

open OpenEventCore Fallible

/-! ### The reader -/

inductive PageReader where
  | fetch (principal : UInt64) (token : Bytes) (onlyMyRecipient : Bool) (channels : List UInt64)
  | listMessages

/-- The call for one page. -/
def PageReader.call (ext : Externals) (core : Running) (db : Db) (faults : ReadFaults)
    (fromSeq : UInt64) (limit : UInt32) : PageReader → Result FetchResponse
  | .fetch principal token onlyMyRecipient channels =>
      OpenEventCore.fetch ext core.config core.fatalError db faults
        { principal, token, fromSeq, limit, onlyMyRecipient, channels }
  | .listMessages =>
      OpenEventCore.listMessages ext core.config core.fatalError db faults fromSeq limit

/-- What the reader is to be shown from a snapshot. -/
def PageReader.shows (ext : Externals) (db : Db) : PageReader → EventMessage → Bool
  | .fetch principal _ onlyMyRecipient channels => visible ext db principal onlyMyRecipient channels
  | .listMessages => fun _ => true

/-- The database lets the reader ask: his credential is there and he may read the channels
that he names. -/
def PageReader.Admitted (ext : Externals) (db : Db) : PageReader → Prop
  | .fetch principal token _ channels => authenticate db {} principal token = .ok () ∧
      validateReadableChannels ext db {} principal channels = .ok ()
  | .listMessages => True

/-- A page that was answered, with the database it was answered from. -/
structure ReadPage where
  fromSeq : UInt64
  nextSeq : UInt64
  db : Db

/-- A server and one of its readers. -/
structure PagedReading where
  server : Server
  cursor : UInt64
  received : List EventMessage := []
  pages : List ReadPage := []

namespace PagedReading

/-- The server goes on, or the reader asks a running server for a page with any limit. -/
inductive Step (ext : Externals) (reader : PageReader) (state : PagedReading) :
    Option (Action × Event) → PagedReading → Prop
  | serve {label : Action × Event} {next : Server} : Server.Step ext state.server label next →
      Step ext reader state (some label) { state with server := next }
  | page {core : Running} {faults : ReadFaults} {limit : UInt32} {page : FetchResponse} :
      state.server.mode = .running core →
      reader.call ext core state.server.db faults state.cursor limit = .ok page →
      Step ext reader state none
        { state with
          cursor := page.nextSeq
          received := state.received ++ page.messages
          pages := state.pages ++ [⟨state.cursor, page.nextSeq, state.server.db⟩] }
  | refused {core : Running} {faults : ReadFaults} {limit : UInt32} {status : Status} :
      state.server.mode = .running core →
      reader.call ext core state.server.db faults state.cursor limit = .error status →
      Step ext reader state none state

end PagedReading

/-- The pages follow one another without gaps. -/
inductive PagesReach (first : UInt64) : List ReadPage → UInt64 → Prop
  | nil : PagesReach first [] first
  | snoc {pages : List ReadPage} {page : ReadPage} : PagesReach first pages page.fromSeq →
      page.fromSeq ≤ page.nextSeq → PagesReach first (pages ++ [page]) page.nextSeq

theorem PagesReach.first_le {first cursor : UInt64} {pages : List ReadPage}
    (h : PagesReach first pages cursor) : first ≤ cursor := by
  induction h with
  | nil => exact UInt64.le_refl _
  | snoc _ hpage ih => exact UInt64.le_trans ih hpage

theorem PagesReach.page_le {first cursor : UInt64} {pages : List ReadPage}
    (h : PagesReach first pages cursor) {page : ReadPage} (hpage : page ∈ pages) :
    page.nextSeq ≤ cursor := by
  induction h with
  | nil => cases hpage
  | snoc _ hnext ih =>
      rcases List.mem_append.mp hpage with hold | hnew
      · exact UInt64.le_trans (ih hold) hnext
      · rw [List.mem_singleton.mp hnew]
        exact UInt64.le_refl _

/-- What the pages were to show of the log. -/
def shownOf (ext : Externals) (reader : PageReader) (log : List EventMessage)
    (pages : List ReadPage) : List EventMessage :=
  pages.flatMap (fun page =>
    (slice log page.fromSeq.toNat page.nextSeq.toNat).filter (reader.shows ext page.db))

section Shown

variable {ext : Externals} {reader : PageReader} {log longer : List EventMessage}
variable {first cursor : UInt64} {pages : List ReadPage}

/-- It does not depend on what comes later in the log. -/
theorem shownOf_grows (hreach : PagesReach first pages cursor)
    (hcursor : cursor.toNat ≤ log.length)
    (hgrows : log <+: longer) : shownOf ext reader longer pages = shownOf ext reader log pages := by
  unfold shownOf
  apply List.flatMap_congr
  intro page hpage
  have hle := UInt64.le_iff_toNat_le.mp (hreach.page_le hpage)
  rw [slice.of_grows hgrows (by omega)]

/-- One verdict for all pages gives one filter of one stretch. -/
theorem shownOf_eq (hreach : PagesReach first pages cursor)
    (hcursor : cursor.toNat ≤ log.length)
    {shown : EventMessage → Bool}
    (hshown : ∀ page ∈ pages, ∀ message ∈ slice log page.fromSeq.toNat page.nextSeq.toNat,
      reader.shows ext page.db message = shown message) :
    shownOf ext reader log pages = (slice log first.toNat cursor.toNat).filter shown := by
  induction hreach with
  | nil => simp [shownOf]
  | @snoc pages page hreach hpage ih =>
      have hfirst := UInt64.le_iff_toNat_le.mp hreach.first_le
      have hnext := UInt64.le_iff_toNat_le.mp hpage
      have hlast : (slice log page.fromSeq.toNat page.nextSeq.toNat).filter
          (reader.shows ext page.db) =
            (slice log page.fromSeq.toNat page.nextSeq.toNat).filter shown :=
        List.filter_congr (hshown page (by simp))
      have hbefore := ih (by omega)
        (fun other hother => hshown other (List.mem_append_left _ hother))
      unfold shownOf at hbefore ⊢
      rw [List.flatMap_append, hbefore, List.flatMap_singleton, hlast, ← List.filter_append,
        slice.append hfirst hnext hcursor]

theorem shownOf_sublist (hreach : PagesReach first pages cursor)
    (hcursor : cursor.toNat ≤ log.length) :
    (shownOf ext reader log pages).Sublist (slice log first.toNat cursor.toNat) := by
  induction hreach with
  | nil => simp [shownOf]
  | @snoc pages page hreach hpage ih =>
      have hfirst := UInt64.le_iff_toNat_le.mp hreach.first_le
      have hnext := UInt64.le_iff_toNat_le.mp hpage
      rw [← slice.append hfirst hnext hcursor]
      unfold shownOf at ih ⊢
      rw [List.flatMap_append, List.flatMap_singleton]
      exact (ih (by omega)).append List.filter_sublist

end Shown

/-! ### One page -/

section Page

variable {ext : Externals} {reader : PageReader} {db : Db} {store : Store}
variable {log : List EventMessage}

theorem LogIndex.next_ne_zero (h : LogIndex store log) (hroom : log.length < 2 ^ 64) :
    store.maxSeq + 1 ≠ 0 := by
  intro hzero
  have hlength := h.maxSeq
  have hsum := congrArg UInt64.toNat hzero
  rw [UInt64.toNat_add, UInt64.toNat_one, Nat.mod_eq_of_lt (by omega)] at hsum
  simp at hsum

/-- A page that is answered is one of the log, whatever else fails. -/
theorem PageReader.call_page (hcoherent : Coherent ext store log) (hdb : Represents ext db store)
    (hroom : log.length < 2 ^ 64) {core : Running} {faults : ReadFaults} {fromSeq : UInt64}
    {limit : UInt32} {page : FetchResponse}
    (h : reader.call ext core db faults fromSeq limit = .ok page) :
    PageOf log store (reader.shows ext db) fromSeq page := by
  have hnext := hcoherent.logIndex.next_ne_zero hroom
  cases reader with
  | fetch principal token onlyMyRecipient channels =>
      dsimp only [PageReader.call, OpenEventCore.fetch] at h
      obtain ⟨_, _, h⟩ := bind_ok h
      obtain ⟨_, _, h⟩ := bind_ok h
      obtain ⟨snapshot, hsnapshot, h⟩ := bind_ok h
      have hsame : snapshot = db := (reads_createSnapshot db faults).of_ok hsnapshot
      rw [hsame] at h
      obtain ⟨_, _, h⟩ := bind_ok h
      obtain ⟨_, hchannels, h⟩ := bind_ok h
      exact (hcoherent.reads_fetchVisible hdb hnext (validateReadableChannels_ok hchannels)).of_ok h
  | listMessages =>
      dsimp only [PageReader.call, OpenEventCore.listMessages] at h
      obtain ⟨_, _, h⟩ := bind_ok h
      obtain ⟨_, _, h⟩ := bind_ok h
      obtain ⟨snapshot, hsnapshot, h⟩ := bind_ok h
      have hsame : snapshot = db := (reads_createSnapshot db faults).of_ok hsnapshot
      rw [hsame] at h
      exact (hcoherent.reads_listAllMessages hdb hnext).of_ok h

/-- While there is more, an undisturbed page goes on. -/
theorem PageReader.call_advances (hcoherent : Coherent ext store log)
    (hdb : Represents ext db store) (hroom : log.length < 2 ^ 64)
    (hsize : ∀ message : EventMessage, message.seq ≠ 0 → 0 < ext.byteSizeLong message)
    {core : Running} {fromSeq : UInt64} {limit : UInt32} (havailable : core.fatalError = none)
    (hrecords : 0 < core.config.maxScanRecords) (hlimit : validateLimit limit = .ok ())
    (hadmitted : reader.Admitted ext db) (hmore : fromSeq.toNat < log.length) :
    ∃ page, reader.call ext core db {} fromSeq limit = .ok page ∧ fromSeq < page.nextSeq := by
  have hlog := hcoherent.validLog hdb (hcoherent.logIndex.next_ne_zero hroom)
  have hpositive := validateLimit_pos hlimit
  cases reader with
  | fetch principal token onlyMyRecipient channels =>
      obtain ⟨hauth, hchannels⟩ := hadmitted
      have hreadable := validateReadableChannels_ok hchannels
      obtain ⟨page, hpage, hlaw⟩ : ∃ page, fetchVisible ext core.config db {} principal fromSeq
          limit onlyMyRecipient channels = .ok page ∧ PageLaw ext core.config log
            (visible ext db principal onlyMyRecipient channels) fromSeq limit page :=
        hlog.fetchVisible_page hsize
          (fun channelId hmember =>
            hdb.exists_of_readable hcoherent.valid (hreadable channelId hmember))
          hpositive hrecords hmore
      refine ⟨page, ?_, hlaw.advances⟩
      rw [PageReader.call, havailable, fetch_authorized hauth hlimit hchannels]
      exact hpage
  | listMessages =>
      obtain ⟨page, hpage, hlaw⟩ : ∃ page, listAllMessages ext core.config db {} fromSeq limit =
          .ok page ∧ PageLaw ext core.config log (fun _ => true) fromSeq limit page :=
        hlog.listAllMessages_page hsize hpositive hrecords hmore
      refine ⟨page, ?_, hlaw.advances⟩
      rw [PageReader.call, havailable, OpenEventCore.listMessages, ensureAvailable, ok_bind, hlimit,
        ok_bind, UnifiedStorage.createSnapshot, if_neg (by simp), ok_bind]
      exact hpage

end Page

/-! ### Runs -/

namespace PagedReading

variable {ext : Externals} {reader : PageReader} {first : UInt64} {state next : PagedReading}
variable {log longer : List EventMessage}

/-- What the reader has is what his pages were to show of the stretch of the log between
his first seq and his cursor. -/
structure Follows (ext : Externals) (reader : PageReader) (first : UInt64) (state : PagedReading)
    (log : List EventMessage) : Prop where
  reaches : PagesReach first state.pages state.cursor
  cursor_le : state.cursor.toNat ≤ log.length
  received : state.received = shownOf ext reader log state.pages

theorem Follows.grows (h : Follows ext reader first state log) (hgrows : log <+: longer)
    (server : Server) : Follows ext reader first { state with server } longer where
  reaches := h.reaches
  cursor_le := Nat.le_trans h.cursor_le hgrows.length_le
  received := by
    rw [shownOf_grows h.reaches h.cursor_le hgrows]
    exact h.received

theorem Follows.page (h : Follows ext reader first state log) {store : Store}
    (hroom : log.length < 2 ^ 64) {page : FetchResponse}
    (hpage : PageOf log store (reader.shows ext state.server.db) state.cursor page) :
    Follows ext reader first
      { state with
        cursor := page.nextSeq
        received := state.received ++ page.messages
        pages := state.pages ++ [⟨state.cursor, page.nextSeq, state.server.db⟩] } log := by
  obtain ⟨position, hfrom, hle, hnext, hmessages⟩ := hpage.page h.cursor_le
  have hposition : page.nextSeq.toNat = position := by
    rw [hnext, UInt64.toNat_ofNat', Nat.mod_eq_of_lt (by omega)]
  refine ⟨h.reaches.snoc ?_, by dsimp only; omega, ?_⟩
  · rw [UInt64.le_iff_toNat_le, hposition]
    exact hfrom
  · dsimp only
    rw [h.received, hmessages, shownOf, shownOf, List.flatMap_append, List.flatMap_singleton,
      hposition]

/-- A server that its log explains, and a reader who follows that log as long as the seqs
do not run out. -/
def Sound (ext : Externals) (reader : PageReader) (first : UInt64) (state : PagedReading) :
    Prop :=
  ∃ store log, OpenEvent.Sound ext state.server store log ∧
    (log.length < 2 ^ 64 → Follows ext reader first state log)

theorem Sound.step (h : Sound ext reader first state) {label : Option (Action × Event)}
    (hstep : Step ext reader state label next) : Sound ext reader first next := by
  obtain ⟨store, log, hsound, hfollows⟩ := h
  cases hstep with
  | serve hserve =>
      obtain ⟨store', log', hsound', hadvances⟩ := hsound.step hserve
      have hgrows := hadvances.log_grows
      refine ⟨store', log', hsound', ?_⟩
      intro hroom
      exact (hfollows (Nat.lt_of_le_of_lt hgrows.length_le hroom)).grows hgrows _
  | page _ hcall =>
      refine ⟨store, log, hsound, ?_⟩
      intro hroom
      exact (hfollows hroom).page hroom
        (PageReader.call_page hsound.coherent hsound.represents hroom hcall)
  | refused _ _ => exact ⟨store, log, hsound, hfollows⟩

/-- Whatever others write, whichever pages fail and however often the server restarts: the
reader has what his pages were to show of the stretch of the log from his first seq to his
cursor, in the order of the log and nothing twice. Where the pages agree on what to show,
as they do for `ListMessages`, it is that stretch filtered. An undisturbed page moves the
cursor on until it has come to the end of the log. -/
theorem paged_reading_follows_log {server : Server} (hreachable : Reachable ext server)
    (hsize : ∀ message : EventMessage, message.seq ≠ 0 → 0 < ext.byteSizeLong message)
    (hfirst : first.toNat ≤ (server.db.log ext).length) {labels : List (Option (Action × Event))}
    (hrun : Run (Step ext reader) { server, cursor := first } labels state)
    (hroom : (state.server.db.log ext).length < 2 ^ 64) :
    Follows ext reader first state (state.server.db.log ext) ∧
      state.received.Sublist
        (slice (state.server.db.log ext) first.toNat state.cursor.toNat) ∧
      (∀ shown : EventMessage → Bool,
        (∀ page ∈ state.pages, ∀ message ∈
          slice (state.server.db.log ext) page.fromSeq.toNat page.nextSeq.toNat,
          reader.shows ext page.db message = shown message) →
        state.received =
          (slice (state.server.db.log ext) first.toNat state.cursor.toNat).filter shown) ∧
      ∀ core limit, state.server.mode = .running core → core.fatalError = none →
        0 < core.config.maxScanRecords → validateLimit limit = .ok () →
        reader.Admitted ext state.server.db →
        state.cursor.toNat < (state.server.db.log ext).length →
        ∃ page next, reader.call ext core state.server.db {} state.cursor limit = .ok page ∧
          Step ext reader state none next ∧ state.cursor < next.cursor := by
  obtain ⟨store, log, hsound⟩ := hreachable.sound
  have hlog := hsound.represents.log_eq hsound.coherent.logIndex
  have hstart : Sound ext reader first { server, cursor := first } :=
    ⟨store, log, hsound, fun _ => ⟨.nil, hlog ▸ hfirst, rfl⟩⟩
  obtain ⟨_, reached, hreached, hfollows⟩ := hrun.invariant hstart
    (fun _ _ _ hbefore hstep => hbefore.step hstep)
  rw [hreached.represents.log_eq hreached.coherent.logIndex] at hroom ⊢
  have h := hfollows hroom
  refine ⟨h, ?_, ?_, ?_⟩
  · rw [h.received]
    exact shownOf_sublist h.reaches h.cursor_le
  · intro shown hshown
    rw [h.received]
    exact shownOf_eq h.reaches h.cursor_le hshown
  · intro core limit hrunning havailable hrecords hlimit hadmitted hmore
    obtain ⟨page, hpage, hadvances⟩ := PageReader.call_advances hreached.coherent
      hreached.represents hroom hsize havailable hrecords hlimit hadmitted hmore
    exact ⟨page, _, hpage, .page hrunning hpage, hadvances⟩

end PagedReading

namespace Reference

open PagedReading

def firstPage : Result FetchResponse :=
  PageReader.call externals { config } openServer.db {} 0 10 .listMessages

theorem firstPage_nextSeq : firstPage.toOption.map (·.nextSeq) = some 1 := by decide +kernel

/-- An operator lists the log of a store, and the server goes down. -/
theorem listing_run_from {server : Server} {page : FetchResponse}
    (hmode : server.mode = .running { config })
    (hpage : PageReader.call externals { config } server.db {} 0 10 .listMessages = .ok page) :
    ∃ labels state, Run (Step externals .listMessages) { server, cursor := 0 } labels state ∧
      state.server.db = server.db ∧ state.cursor = page.nextSeq := by
  have hlisted := Run.single (@Step.page externals .listMessages { server, cursor := 0 }
    { config } {} 10 page hmode hpage)
  exact ⟨_, _, hlisted.snoc (.serve (Server.step_exitProcess externals server)), rfl, rfl⟩

theorem listing_run : ∃ labels state, Run (Step externals .listMessages)
    { server := openServer, cursor := 0 } labels state ∧ state.server.db = openServer.db ∧
      state.cursor = 1 := by
  cases hpage : firstPage with
  | error status =>
      have hnext := firstPage_nextSeq
      rw [hpage] at hnext
      cases hnext
  | ok page =>
      have hnext := firstPage_nextSeq
      rw [hpage] at hnext
      obtain ⟨labels, state, hrun, hdb, hcursor⟩ := listing_run_from openServer_mode hpage
      exact ⟨labels, state, hrun, hdb, hcursor.trans (Option.some.inj hnext)⟩

theorem listed_store_is_log : ∃ labels state, Run (Step externals .listMessages)
    { server := openServer, cursor := 0 } labels state ∧ state.cursor = 1 ∧
      state.received = state.server.db.log externals := by
  obtain ⟨labels, state, hrun, hdb, hcursor⟩ := listing_run
  have hlength : (openServer.db.log externals).length = 1 := by decide +kernel
  rw [← hdb] at hlength
  obtain ⟨_, _, hfilter, _⟩ := paged_reading_follows_log openServer_reachable
    (fun message _ => byteSizeLong_pos message) (Nat.zero_le _) hrun (by rw [hlength]; decide)
  have hall := hfilter (fun _ => true) (fun _ _ _ _ => rfl)
  rw [List.filter_true, hcursor] at hall
  refine ⟨labels, state, hrun, hcursor, ?_⟩
  rw [hall, slice]
  exact List.drop_zero.trans (List.take_of_length_le hlength.le)

end Reference

end OpenEvent
