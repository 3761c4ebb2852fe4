import OpenEvent.Guarantees.Channels
import OpenEvent.Refinement.BatchWrites

/-!
Who owns a uuid. Clients and the server draw uuids from one counter: what
`AllocateUuids` answers and what system messages carry are drawn in ascending
order, and business messages carry only uuids that a committed allocation had
reserved.
-/

namespace OpenEvent

open OpenEventCore Fallible

abbrev ServerRecord := StepRecord Server (Action × Event)

/-- An `AllocateUuids` whose batch the step applied. -/
def Event.allocatesUuids : Event → Bool
  | .mutation (.allocateUuids _) applied _ _ => applied
  | _ => false

/-- The uuids that a step gave away: those that it answered with, or that of the
system message that it appended. -/
def drawnUuids (ext : Externals) (record : ServerRecord) : List UInt64 :=
  match record.label.2 with
  | .mutation (.allocateUuids _) _ _ (.uuids uuids) => uuids
  | event =>
      if event.changesChannel then ((record.after.db.log ext).getLast?.map (·.uuid)).toList else []

/-- The batch of an `AllocateUuids` took the counter past the uuid. -/
def ReservesUuid (uuid : UInt64) (record : ServerRecord) : Prop :=
  record.label.2.allocatesUuids = true ∧ record.before.db.counter kNextUuidKey ≤ uuid ∧
    uuid < record.after.db.counter kNextUuidKey

/-- What a successful `AllocateUuids` answers. -/
def AnswersConsecutive (record : ServerRecord) : Prop :=
  ∀ request applied status data,
    record.label.2 = .mutation (.allocateUuids request) applied status data →
    status.isOk = true → applied = true ∧ ∃ uuids, data = .uuids uuids ∧
      uuids.map UInt64.toNat =
        List.range' (record.before.db.counter kNextUuidKey).toNat request.count.toNat

/-- The step of a run that appended a business message, after a step that
reserved its uuid. -/
def ReservedBefore (ext : Externals) (records : List ServerRecord) (message : EventMessage) :
    Prop :=
  ∃ earlier record later, records = earlier ++ record :: later ∧
    record.after.db.log ext = record.before.db.log ext ++ [message] ∧
    ∃ reservation ∈ earlier, ReservesUuid message.uuid reservation

/-- Who owns the uuids at the end of a run. -/
structure UuidOwnership (ext : Externals) (records : List ServerRecord) (db : Db) : Prop where
  ascending : (records.flatMap (drawnUuids ext)).Pairwise (· < ·)
  nonzero : 0 ∉ records.flatMap (drawnUuids ext)
  consecutive : ∀ record ∈ records, AnswersConsecutive record
  business : ∀ message ∈ db.log ext, message.principal ≠ 0 → ReservedBefore ext records message
  apart : ∀ message ∈ db.log ext, ∀ system ∈ db.log ext, message.principal ≠ 0 →
    system.principal = 0 → message.uuid ≠ system.uuid

/-- What carries ownership through a run: every uuid below the counter was
reserved or is carried by a system message. -/
structure UuidHistory (ext : Externals) (records : List ServerRecord) (store : Store)
    (log : List EventMessage) : Prop where
  ascending : (records.flatMap (drawnUuids ext)).Pairwise (· < ·)
  bounded : ∀ uuid ∈ records.flatMap (drawnUuids ext), uuid ≠ 0 ∧ uuid < store.nextUuid
  consecutive : ∀ record ∈ records, AnswersConsecutive record
  covered : ∀ uuid, uuid ≠ 0 → uuid < store.nextUuid →
    (∃ record ∈ records, ReservesUuid uuid record) ∨
      ∃ message ∈ log, message.principal = 0 ∧ message.uuid = uuid
  business : ∀ message ∈ log, message.principal ≠ 0 → ReservedBefore ext records message

/-- What an effect does to the uuids. -/
inductive UuidEffect (store : Store) (effect : Effect) : Prop
  | reserved {next : UInt64} : effect = .allocateUuids next → UuidEffect store effect
  | quiet : (∀ next, effect ≠ .allocateUuids next) → effect.messages = [] →
      (store.apply effect).nextUuid = store.nextUuid → UuidEffect store effect
  | business {message : EventMessage} : (∀ next, effect ≠ .allocateUuids next) →
      effect.messages = [message] → PublishAllowed store message →
      (store.apply effect).nextUuid = store.nextUuid → UuidEffect store effect
  | system {message : EventMessage} : (∀ next, effect ≠ .allocateUuids next) →
      effect.messages = [message] → message.principal = 0 → message.uuid = store.nextUuid →
      message.uuid ≠ 0 → (store.apply effect).nextUuid = store.nextUuid + 1 →
      UuidEffect store effect

section Uuids

variable {ext : Externals} {server next : Server} {store store' : Store}
variable {log log' : List EventMessage} {event : Event} {effect : Effect} {action : Action}
variable {records : List ServerRecord}

theorem Permitted.uuidEffect (h : Permitted store effect) : UuidEffect store effect := by
  cases h with
  | allocateUuids _ => exact .reserved rfl
  | publish hallowed => exact .business nofun rfl hallowed rfl
  | @createChannel channel message _ hsystem _ =>
      refine .system nofun rfl hsystem.principal_eq hsystem.uuid_eq hsystem.uuid_ne ?_
      rw [← hsystem.uuid_eq]
      rfl
  | @changeMembers before channel message _ _ hsystem =>
      refine .system nofun rfl hsystem.principal_eq hsystem.uuid_eq hsystem.uuid_ne ?_
      rw [← hsystem.uuid_eq]
      rfl
  | addToken _ _ => exact .quiet nofun rfl rfl
  | deleteToken => exact .quiet nofun rfl rfl
  | prepareObject _ _ => exact .quiet nofun rfl rfl
  | commitObject _ => exact .quiet nofun rfl rfl
  | discardObjects => exact .quiet nofun rfl (by rw [Store.discard_frame])

/-! ### AllocateUuids -/

/-- What an `AllocateUuids` call answers. -/
theorem Sound.allocateUuids_answer (h : Sound ext server store log)
    {request : AllocateUuidsRequest} {applied : Bool} {status : Status} {data : ResponseData}
    (hstep : server.step ext action =
      some (next, .mutation (.allocateUuids request) applied status data)) :
    status.isOk = false ∧ data = .empty ∨
      status.isOk = true ∧ applied = true ∧ request.count.toNat ≠ 0 ∧
        data = .uuids ((List.range request.count.toUInt64.toNat).map
          (fun offset => store.nextUuid + UInt64.ofNat offset)) := by
  cases Server.step_mutation hstep with
  | refused _ hrefused _ hdata _ =>
      refine Or.inl ⟨?_, hdata⟩
      rcases hrefused with hunavailable | hentry
      · exact refuses_checks.ensureAvailable _ _ hunavailable
      · exact refuses_checks.mutationEntry _ _ hentry
  | ran hmode hcall hrun =>
      obtain ⟨built, hbuilt, hends⟩ := Server.runMutation_ends hrun
      cases hends with
      | @left exit _ hstatus hdata _ =>
          refine Or.inl ⟨?_, hdata⟩
          rcases (reported_refuses ext server.db _).mutationBatch hbuilt exit rfl with
            hrefuses | ⟨_, hother, _⟩
          · rw [hstatus]
            exact hrefuses
          · cases hother
      | committed happlied hstatus hdata _ =>
          cases hok : status.isOk with
          | false =>
              rw [hok] at hdata
              exact Or.inl ⟨rfl, hdata⟩
          | true =>
              rw [hok] at hdata
              subst hstatus
              refine Or.inr ⟨rfl, happlied.trans (commitBatch_applies hok), ?_, ?_⟩
              · have hentry := (h.calls _ hmode).mutations _ _ _ hcall
                simp only [Mutation.entry, allocateUuidsEntry] at hentry
                split at hentry
                · cases hentry
                · rename_i hcount
                  intro hzero
                  exact hcount (Or.inl (UInt32.toNat_inj.mp hzero))
              · cases mutationBatch_writes hbuilt with
                | allocateUuids hfirst =>
                    rw [h.represents.reads_getNextUuid.of_ok hfirst] at hdata
                    exact hdata

/-- A sum that is not below its first part has not wrapped. -/
theorem toNat_add_of_le {first count : UInt64} (h : first ≤ first + count) :
    (first + count).toNat = first.toNat + count.toNat := by
  have hle := UInt64.le_iff_toNat_le.mp h
  have hadd := UInt64.toNat_add first count
  have hfirst := first.toNat_lt
  have hcount := count.toNat_lt
  omega

/-- The uuids from a first one on, while their sum does not wrap. -/
theorem consecutive_toNat {first count : UInt64} (hwrap : first.toNat + count.toNat < 2 ^ 64) :
    ((List.range count.toNat).map (fun offset => first + UInt64.ofNat offset)).map UInt64.toNat =
      List.range' first.toNat count.toNat := by
  rw [List.map_map, List.range'_eq_map_range]
  refine List.map_congr_left ?_
  intro offset hoffset
  have hlt := List.mem_range.mp hoffset
  rw [Function.comp_apply, UInt64.toNat_add, UInt64.toNat_ofNat', Nat.mod_eq_of_lt (a := offset)
    (by omega), Nat.mod_eq_of_lt (by omega)]

theorem Sound.answersConsecutive (h : Sound ext server store log)
    (h' : Sound ext next store' log') (hstep : Server.Step ext server (action, event) next)
    (hadvances : Advances store log event store' log') :
    AnswersConsecutive ⟨server, (action, event), next⟩ := by
  intro request applied status data hlabel hok
  have hwrap := (h.represents.noWrap h'.represents hstep.2).nextUuid
  obtain rfl : event = _ := hlabel
  rcases h.allocateUuids_answer hstep.1 with ⟨hfailed, _⟩ | ⟨_, rfl, _, rfl⟩
  · rw [hok] at hfailed
    cases hfailed
  · cases hadvances with
    | unchanged hevent => cases hevent
    | applied happlies _ =>
        cases happlies with
        | mutation hperforms =>
            cases hperforms with
            | allocateUuids =>
                have hsum := toNat_add_of_le hwrap
                have hfits : store.nextUuid.toNat + request.count.toUInt64.toNat < 2 ^ 64 := by
                  rw [← hsum]
                  exact UInt64.toNat_lt _
                refine ⟨rfl, _, rfl, ?_⟩
                rw [consecutive_toNat hfits, UInt32.toNat_toUInt64, h.represents.counter_nextUuid]

/-- The uuids that an applied allocation answers with lie where the counter was
moved. -/
theorem Sound.allocation_drawn (h : Sound ext server store log) {request : AllocateUuidsRequest}
    {status : Status} {data : ResponseData}
    (hstep : server.step ext action =
      some (next, .mutation (.allocateUuids request) true status data))
    (hanswers : AnswersConsecutive
      ⟨server, (action, .mutation (.allocateUuids request) true status data), next⟩)
    (hwrap : store.nextUuid ≤ store.nextUuid + request.count.toUInt64) :
    let drawn := drawnUuids ext
      ⟨server, (action, .mutation (.allocateUuids request) true status data), next⟩
    drawn.Pairwise (· < ·) ∧ ∀ uuid ∈ drawn,
      uuid ≠ 0 ∧ store.nextUuid ≤ uuid ∧ uuid < store.nextUuid + request.count.toUInt64 := by
  intro drawn
  rcases h.allocateUuids_answer hstep with ⟨_, rfl⟩ | ⟨hok, _, _, _⟩
  · have hnone : drawn = [] := rfl
    rw [hnone]
    exact ⟨.nil, nofun⟩
  · obtain ⟨_, uuids, rfl, hrange⟩ := hanswers request true status data rfl hok
    have hall : drawn = uuids := rfl
    rw [hall]
    rw [h.represents.counter_nextUuid] at hrange
    constructor
    · have hpairs : (uuids.map UInt64.toNat).Pairwise (· < ·) := by
        rw [hrange]
        exact List.pairwise_lt_range'
      exact (List.pairwise_map.mp hpairs).imp UInt64.lt_iff_toNat_lt.mpr
    · intro uuid huuid
      have hmember : uuid.toNat ∈ List.range' store.nextUuid.toNat request.count.toNat := by
        rw [← hrange]
        exact List.mem_map_of_mem huuid
      have hbounds := List.mem_range'_1.mp hmember
      have hle : store.nextUuid ≤ uuid := UInt64.le_iff_toNat_le.mpr hbounds.1
      refine ⟨?_, hle, ?_⟩
      · rintro rfl
        exact h.coherent.nextUuid_ne (UInt64.le_zero_iff.mp hle)
      · rw [UInt64.lt_iff_toNat_lt, toNat_add_of_le hwrap, UInt32.toNat_toUInt64]
        exact hbounds.2

/-! ### One step -/

/-- A step that draws its uuids from the counter, each with an owner. -/
theorem UuidHistory.extend (h : UuidHistory ext records store log) {record : ServerRecord}
    (hanswers : AnswersConsecutive record)
    (hdrawn : (drawnUuids ext record).Pairwise (· < ·))
    (hrange : ∀ uuid ∈ drawnUuids ext record,
      uuid ≠ 0 ∧ store.nextUuid ≤ uuid ∧ uuid < store'.nextUuid)
    (hnext : store.nextUuid ≤ store'.nextUuid)
    (hcovered : ∀ uuid, store.nextUuid ≤ uuid → uuid < store'.nextUuid →
      ReservesUuid uuid record ∨ ∃ message ∈ log', message.principal = 0 ∧ message.uuid = uuid)
    (hkept : ∀ message ∈ log, message ∈ log')
    (hbusiness : ∀ message ∈ log', message.principal ≠ 0 → message ∈ log ∨
      record.after.db.log ext = record.before.db.log ext ++ [message] ∧
        ∃ reservation ∈ records, ReservesUuid message.uuid reservation) :
    UuidHistory ext (records ++ [record]) store' log' := by
  have hsplit : (records ++ [record]).flatMap (drawnUuids ext) =
      records.flatMap (drawnUuids ext) ++ drawnUuids ext record := by simp
  refine ⟨?_, ?_, ?_, ?_, ?_⟩
  · rw [hsplit]
    refine List.pairwise_append.mpr ⟨h.ascending, hdrawn, ?_⟩
    intro first hfirst second hsecond
    exact UInt64.lt_of_lt_of_le (h.bounded first hfirst).2 (hrange second hsecond).2.1
  · intro uuid huuid
    rw [hsplit] at huuid
    rcases List.mem_append.mp huuid with hold | hnew
    · obtain ⟨hne, hlt⟩ := h.bounded uuid hold
      exact ⟨hne, UInt64.lt_of_lt_of_le hlt hnext⟩
    · obtain ⟨hne, _, hlt⟩ := hrange uuid hnew
      exact ⟨hne, hlt⟩
  · intro other hother
    rcases List.mem_append.mp hother with hold | hnew
    · exact h.consecutive other hold
    · obtain rfl := List.mem_singleton.mp hnew
      exact hanswers
  · intro uuid hne hlt
    by_cases hold : uuid < store.nextUuid
    · rcases h.covered uuid hne hold with ⟨other, hother, hreserves⟩ | ⟨message, hmessage, hsystem⟩
      · exact Or.inl ⟨other, List.mem_append_left _ hother, hreserves⟩
      · exact Or.inr ⟨message, hkept message hmessage, hsystem⟩
    · rcases hcovered uuid (UInt64.not_lt.mp hold) hlt with hreserves | hsystem
      · exact Or.inl ⟨record, by simp, hreserves⟩
      · exact Or.inr hsystem
  · intro message hmessage hprincipal
    rcases hbusiness message hmessage hprincipal with hold | ⟨happended, hreserved⟩
    · obtain ⟨earlier, appended, later, rfl, hrest⟩ := h.business message hold hprincipal
      exact ⟨earlier, appended, later ++ [record], by simp, hrest⟩
    · exact ⟨records, record, [], by simp, happended, hreserved⟩

theorem drawnUuids_of_other {record : ServerRecord}
    (h : ∀ request applied status data,
      record.label.2 ≠ .mutation (.allocateUuids request) applied status data) :
    drawnUuids ext record = if record.label.2.changesChannel then
      ((record.after.db.log ext).getLast?.map (·.uuid)).toList else [] := by
  unfold drawnUuids
  split
  · rename_i hlabel
    exact absurd hlabel (h _ _ _ _)
  · rfl

/-- Only an allocation has the event of one. -/
theorem Applies.not_allocation (h : Applies store event effect)
    (heffect : ∀ next, effect ≠ .allocateUuids next) (request : AllocateUuidsRequest)
    (applied : Bool) (status : Status) (data : ResponseData) :
    event ≠ .mutation (.allocateUuids request) applied status data := by
  rintro rfl
  cases h with
  | mutation hperforms =>
      cases hperforms with
      | allocateUuids => exact heffect _ rfl

/-- The index entry of a message of the log. -/
theorem LogIndex.uuid_entry (h : LogIndex store log) {message : EventMessage}
    (hmessage : message ∈ log) :
    ∃ seq, store.usedUuids message.uuid = some seq ∧ log[seq.toNat]? = some message := by
  obtain ⟨position, hat⟩ := List.getElem?_of_mem hmessage
  have hlt := (List.getElem?_eq_some_iff.mp hat).1
  have hseq : log[(UInt64.ofNat position).toNat]? = some message := by
    rw [h.toNat_ofNat hlt, hat]
  exact ⟨_, (h.uuids _ _).mpr ⟨message, hseq, rfl⟩, hseq⟩

theorem LogIndex.uuid_inj (h : LogIndex store log) {message other : EventMessage}
    (hmessage : message ∈ log) (hother : other ∈ log) (huuid : message.uuid = other.uuid) :
    message = other := by
  obtain ⟨first, hfirst, hat⟩ := h.uuid_entry hmessage
  obtain ⟨second, hsecond, hat'⟩ := h.uuid_entry hother
  rw [huuid] at hfirst
  obtain rfl : first = second := Option.some.inj (hfirst.symm.trans hsecond)
  exact Option.some.inj (hat.symm.trans hat')

theorem Sound.uuidHistory (h : Sound ext server store log) (h' : Sound ext next store' log')
    (hstep : Server.Step ext server (action, event) next)
    (hadvances : Advances store log event store' log')
    (hhistory : UuidHistory ext records store log) :
    UuidHistory ext (records ++ [⟨server, (action, event), next⟩]) store' log' := by
  have hanswers := h.answersConsecutive h' hstep hadvances
  have hnext := (h.represents.noWrap h'.represents hstep.2).nextUuid
  have hlog := h.represents.log_eq h.coherent.logIndex
  have hlog' := h'.represents.log_eq h'.coherent.logIndex
  cases hadvances with
  | unchanged hevent =>
      have hnone : drawnUuids ext ⟨server, (action, event), next⟩ = [] := by
        unfold drawnUuids
        split
        · rename_i hlabel
          dsimp only at hlabel
          have hanswer := h.allocateUuids_answer (hlabel ▸ hstep.1)
          rcases hanswer with ⟨_, hdata⟩ | ⟨_, happlied, _⟩
          · cases hdata
          · rw [hlabel] at hevent
            cases hevent.symm.trans happlied
        · rw [Event.changesChannel_of_not_applied hevent]
          rfl
      refine hhistory.extend hanswers (hnone ▸ .nil) (by simp [hnone]) hnext ?_ (fun _ => id)
        (fun _ hmessage _ => Or.inl hmessage)
      intro uuid hge hlt
      exact absurd hlt (UInt64.not_lt.mpr hge)
  | @applied effect happlies hpermitted =>
      have hkept : ∀ message ∈ log, message ∈ log ++ effect.messages :=
        fun _ hmessage => List.mem_append_left _ hmessage
      have hkind := happlies.changesChannel hpermitted
      cases hpermitted.uuidEffect with
      | reserved heffect =>
          subst heffect
          cases happlies with
          | @mutation _ status data _ _ hperforms =>
              cases hperforms with
              | @allocateUuids request =>
                  have hdrawn := h.allocation_drawn hstep.1 hanswers hnext
                  refine hhistory.extend hanswers hdrawn.1 hdrawn.2 hnext ?_ hkept ?_
                  · intro uuid hge hlt
                    refine Or.inl ⟨rfl, ?_, ?_⟩
                    · rwa [h.represents.counter_nextUuid]
                    · rwa [h'.represents.counter_nextUuid]
                  · intro message hmessage _
                    exact Or.inl (by simpa [Effect.messages] using hmessage)
      | quiet hother hmessages hsame =>
          have hnone : drawnUuids ext ⟨server, (action, event), next⟩ = [] := by
            have hquiet : event.changesChannel = false := by
              rw [← Bool.not_eq_true, hkind, hmessages]
              simp
            rw [drawnUuids_of_other (happlies.not_allocation hother), hquiet]
            rfl
          refine hhistory.extend hanswers (hnone ▸ .nil) (by simp [hnone]) hnext ?_ hkept ?_
          · intro uuid hge hlt
            exact absurd (hsame ▸ hlt) (UInt64.not_lt.mpr hge)
          · intro message hmessage _
            exact Or.inl (by simpa [hmessages] using hmessage)
      | @business message hother hmessages hallowed hsame =>
          have hnone : drawnUuids ext ⟨server, (action, event), next⟩ = [] := by
            have hquiet : event.changesChannel = false := by
              rw [← Bool.not_eq_true, hkind, hmessages]
              simpa using hallowed.principal_ne
            rw [drawnUuids_of_other (happlies.not_allocation hother), hquiet]
            rfl
          refine hhistory.extend hanswers (hnone ▸ .nil) (by simp [hnone]) hnext ?_ hkept ?_
          · intro uuid hge hlt
            exact absurd (hsame ▸ hlt) (UInt64.not_lt.mpr hge)
          · intro found hfound _
            rw [hmessages] at hfound
            rcases List.mem_append.mp hfound with hold | hnew
            · exact Or.inl hold
            · obtain rfl := List.mem_singleton.mp hnew
              refine Or.inr ⟨by rw [hlog, hlog', hmessages], ?_⟩
              rcases hhistory.covered found.uuid hallowed.uuid_ne hallowed.uuid_lt with
                hreserved | ⟨system, hsystem, _, huuid⟩
              · exact hreserved
              · obtain ⟨seq, hused, _⟩ := h.coherent.logIndex.uuid_entry hsystem
                rw [huuid, hallowed.uuid_unused] at hused
                cases hused
      | @system message hother hmessages hprincipal huuid hne hsucc =>
          have hlast : drawnUuids ext ⟨server, (action, event), next⟩ = [message.uuid] := by
            have hchanges : event.changesChannel = true := by
              rw [hkind, hmessages]
              simpa using hprincipal
            rw [drawnUuids_of_other (happlies.not_allocation hother), hchanges]
            dsimp only
            rw [hlog', hmessages, List.getLast?_concat]
            rfl
          have hcounter : (store.apply effect).nextUuid.toNat = store.nextUuid.toNat + 1 := by
            have hle := UInt64.le_iff_toNat_le.mp hnext
            have hadd := UInt64.toNat_add store.nextUuid 1
            rw [UInt64.toNat_one] at hadd
            rw [hsucc] at hle ⊢
            have hlt := store.nextUuid.toNat_lt
            omega
          refine hhistory.extend hanswers (by simp [hlast]) ?_ hnext ?_ hkept ?_
          · intro uuid hdrawn
            obtain rfl : uuid = message.uuid := by simpa [hlast] using hdrawn
            refine ⟨hne, huuid ▸ UInt64.le_refl _, ?_⟩
            rw [UInt64.lt_iff_toNat_lt, huuid]
            omega
          · intro uuid hge hlt
            refine Or.inr ⟨message, by simp [hmessages], hprincipal, ?_⟩
            have hge := UInt64.le_iff_toNat_le.mp hge
            have hlt := UInt64.lt_iff_toNat_lt.mp hlt
            rw [huuid]
            apply UInt64.toNat_inj.mp
            omega
          · intro found hfound hbusiness
            rw [hmessages] at hfound
            rcases List.mem_append.mp hfound with hold | hnew
            · exact Or.inl hold
            · obtain rfl := List.mem_singleton.mp hnew
              exact absurd hprincipal hbusiness

/-! ### Runs -/

theorem run_uuidHistory {eventMs : UInt64}
    (hrun : Run (Recorded (Server.Step ext)) (Server.initial ext eventMs) records server) :
    ∃ store log, Sound ext server store log ∧ UuidHistory ext records store log := by
  refine hrun.history (P := fun records server => ∃ store log, Sound ext server store log ∧
    UuidHistory ext records store log) ?_ ?_
  · refine ⟨_, _, initial_sound ext eventMs, .nil, by simp, by simp, ?_, ?_⟩
    · intro uuid hne hlt
      exact absurd (UInt64.lt_one_iff.mp hlt) hne
    · intro message hmessage hprincipal
      obtain rfl := List.mem_singleton.mp hmessage
      exact absurd rfl hprincipal
  · rintro records _ ⟨before, ⟨action, event⟩, after⟩ _ _ ⟨store, log, hsound, hhistory⟩
      ⟨rfl, rfl, hstep⟩
    obtain ⟨store', log', hsound', hadvances⟩ := hsound.step hstep
    exact ⟨store', log', hsound', hsound.uuidHistory hsound' hstep hadvances hhistory⟩

/-- Along every run in which the counters do not wrap, with the states of the
run in its records. -/
theorem uuids_have_one_owner (ext : Externals) {eventMs : UInt64} {records : List ServerRecord}
    {server : Server}
    (hrun : Run (Recorded (Server.Step ext)) (Server.initial ext eventMs) records server) :
    UuidOwnership ext records server.db := by
  obtain ⟨store, log, hsound, hhistory⟩ := run_uuidHistory hrun
  have hlog := hsound.represents.log_eq hsound.coherent.logIndex
  refine ⟨hhistory.ascending, ?_, hhistory.consecutive, ?_, ?_⟩
  · intro hzero
    exact (hhistory.bounded 0 hzero).1 rfl
  · rw [hlog]
    exact hhistory.business
  · rw [hlog]
    intro message hmessage system hsystem hprincipal hother huuid
    -- Both stand in the log at the seq that the index has for the uuid.
    obtain rfl := hsound.coherent.logIndex.uuid_inj hmessage hsystem huuid
    exact hprincipal hother

/-- The session allocates uuids 1 and 2 and its channel's message takes uuid 3. -/
theorem session_uuids_owned :
    ∃ records, records.map StepRecord.label = Reference.sessionLabels ∧
      UuidOwnership Reference.externals records Reference.sessionServer.db := by
  obtain ⟨records, hlabels, hrun⟩ := Reference.session_run.recorded
  exact ⟨records, hlabels, uuids_have_one_owner Reference.externals hrun⟩

end Uuids

end OpenEvent
