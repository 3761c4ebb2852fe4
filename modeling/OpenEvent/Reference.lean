import OpenEvent.Lib.Wire
import OpenEvent.Server

/-!
One implementation of the externals, by which the model can be executed: the
records in formats that are read back as they were written, natural numbers
rounded to the nearest double, and JSON as RFC 8259 has it. With it, a session
of the server from its first start to a message that refers to an object.
-/

namespace OpenEvent.Reference

open OpenEventCore

/-! ### Formats -/

def uint64Wire : Wire UInt64 where
  write := encodeUint64
  read bytes :=
    if bytes.length < 8 then none else some (decodeUint64 (bytes.take 8), bytes.drop 8)
  read_write value rest := by
    have hlength := length_encodeUint64 value
    rw [if_neg (by rw [List.length_append, hlength]; omega), List.take_left' hlength,
      List.drop_left' hlength, decode_encodeUint64]

def stringWire : Wire String :=
  (uint64Wire.map (fun character : Char => UInt64.ofNat character.toNat)
    (fun number => Char.ofNat number.toNat) (by
      intro character
      have hlt : character.toNat < 2 ^ 64 := by
        have hsize := UInt32.toNat_lt character.val
        exact lt_trans hsize (by norm_num)
      rw [UInt64.toNat_ofNat', Nat.mod_eq_of_lt hlt, Char.ofNat_toNat])).list.map String.toList String.ofList
    (fun _ => String.ofList_toList)

def objectKeyWire : Wire ObjectKey :=
  (uint64Wire.pair stringWire).map (fun key => (key.objectId, key.objectToken))
    (fun found => ⟨found.1, found.2⟩) (fun _ => rfl)

def eventMessageWire : Wire EventMessage :=
  (uint64Wire.pair (uint64Wire.pair (uint64Wire.pair (uint64Wire.list.pair (Wire.byte.list.pair
    (uint64Wire.pair (uint64Wire.pair objectKeyWire.list))))))).map
    (fun message => (message.seq, message.channelId, message.principal, message.recipients,
      message.payload, message.tsMs, message.uuid, message.objectKeys))
    (fun (seq, channelId, principal, recipients, payload, tsMs, uuid, objectKeys) =>
      { seq, channelId, principal, recipients, payload, tsMs, uuid, objectKeys })
    (fun _ => rfl)

/-- A declared visibility has a code; any other number has its sign and size. -/
def visibilityWire : Wire Visibility :=
  (Wire.nat.pair Wire.nat).map
    (fun visibility => match visibility with
      | .visibilityPublic => (0, 0)
      | .visibilityProtected => (1, 0)
      | .visibilityPrivate => (2, 0)
      | .other (.ofNat size) => (3, size)
      | .other (.negSucc size) => (4, size))
    (fun (code, size) => match code with
      | 0 => .visibilityPublic
      | 1 => .visibilityProtected
      | 2 => .visibilityPrivate
      | 3 => .other (.ofNat size)
      | _ => .other (.negSucc size))
    (by
      intro visibility
      cases visibility with
      | other number => cases number <;> rfl
      | _ => rfl)

def channelInfoWire : Wire ChannelInfo :=
  (uint64Wire.pair (stringWire.pair (visibilityWire.pair (stringWire.pair (stringWire.pair
    (uint64Wire.option.pair uint64Wire.list)))))).map
    (fun channel => (channel.channelId, channel.name, channel.visibility, channel.protocol,
      channel.description, channel.creator, channel.members))
    (fun (channelId, name, visibility, protocol, description, creator, members) =>
      { channelId, name, visibility, protocol, description, creator, members })
    (fun _ => rfl)

def storedObjectWire : Wire StoredObject :=
  (uint64Wire.pair (stringWire.pair (uint64Wire.pair (stringWire.pair (stringWire.pair
    (stringWire.pair uint64Wire)))))).map
    (fun object => (object.objectId, object.objectToken, object.creatorPrincipal, object.name,
      object.type, object.description, object.nbytes))
    (fun (objectId, objectToken, creatorPrincipal, name, type, description, nbytes) =>
      { objectId, objectToken, creatorPrincipal, name, type, description, nbytes })
    (fun _ => rfl)

/-- A codec that accepts exactly one record, with nothing after it. -/
def codec {α : Type} (format : Wire α) : ProtoCodec α where
  serializeToString value := some (format.write value)
  parseFromString bytes :=
    match format.read bytes with
    | some (value, []) => some value
    | _ => none
  parse_serialize value bytes h := by
    have hread := format.read_write value []
    rw [List.append_nil, Option.some.inj h] at hread
    rw [hread]

/-! ### Numbers and JSON -/

def toDouble (number : ℚ) : ℚ := Double.roundNat (number.num / number.den).toNat

def externals : Externals where
  eventMessage := codec eventMessageWire
  channelInfo := codec channelInfoWire
  objectRecord := codec storedObjectWire
  initialization_serializes _ := rfl
  byteSizeLong message := (eventMessageWire.write message).length
  visibilityIsValid
    | .other _ => false
    | _ => true
  visibility_declared visibility h := by
    cases visibility with
    | other number => exact absurd rfl (h number)
    | _ => rfl
  toDouble := toDouble
  toDouble_nearest n := by
    have hfloor : ((n : ℚ).num / (n : ℚ).den).toNat = n := by simp
    rw [toDouble, hfloor]
    exact Double.roundNat_isNearest n
  jsonStringToStruct text :=
    match Rfc8259.decode text with
    | some (.object members) => some (Rfc8259.mapMembers toDouble members)
    | _ => none
  json_decodes text members h _ := by rw [h]

theorem byteSizeLong_pos (message : EventMessage) :
    0 < externals.byteSizeLong message := by
  have hlength : 8 ≤ (encodeUint64 message.seq).length := by rw [length_encodeUint64]
  exact Nat.lt_of_lt_of_le (by decide) (hlength.trans (List.sublist_append_left _ _).length_le)

/-! ### A session -/

def config : Config :=
  { maxPayloadBytes := 1024, maxScanRecords := 16, responseSoftLimitBytes := 4096 }

/-- The credential that the session's `AddToken` issues. -/
def credential : Bytes := Bytes.ofString "07070707-0707-0707-0707-070707070707"

/-- The capability that the session's `WriteObject` issues. -/
def objectKey : ObjectKey := ⟨1, "BQUFBQUFBQUFBQUFBQUFBQUFBQUFBQUFBQUFBQUFBQU"⟩

/-- Principal 7 gets a credential and two uuids, opens a private channel with
principal 8, publishes, writes an object and publishes its key. -/
def session : List Action :=
  [.openStore config {},
   .enterMutation 0 (.addToken ⟨7⟩) 10,
   .runMutation 0 { random := [.filled (List.replicate 16 7)] },
   .enterMutation 0 (.allocateUuids ⟨2⟩) 11,
   .runMutation 0 {},
   .enterMutation 0 (.createChannel ⟨7, credential, "alarms", .visibilityPrivate, "p", "d", [8]⟩) 12,
   .runMutation 0 { nowMs := 12 },
   .enterMutation 0 (.publish ⟨7, credential, 1, 2, 1, [8], [1, 2], []⟩) 13,
   .runMutation 0 {},
   .enterWrite 0 ⟨7, credential, "image", "png", "", [1, 2, 3]⟩ [.filled (List.replicate 32 5)],
   .prepareWrite 0 {},
   .fileCall 0 .success,
   .fileCall 0 (.transferred 3),
   .fileCall 0 .success,
   .fileCall 0 .success,
   .fileCall 0 .success,
   .fileCall 0 .success,
   .fileCall 0 .success,
   .commitWrite 0 {},
   .enterMutation 0 (.publishAutoSeq ⟨7, credential, 1, 2, [], [3], [objectKey]⟩) 14,
   .runMutation 0 {}]

theorem session_executes :
    (execute (Server.stepNoWrap externals) (Server.initial externals 5) session).isSome = true := by
  decide +kernel

def sessionLabels : List (Action × Event) := (Option.get _ session_executes).1

def sessionServer : Server := (Option.get _ session_executes).2

theorem session_run :
    Run (Server.Step externals) (Server.initial externals 5) sessionLabels sessionServer :=
  execute_run Server.stepNoWrap_step (Option.some_get session_executes).symm

theorem session_reachable : Reachable externals sessionServer := ⟨5, sessionLabels, session_run⟩

/-- Whether the server runs, without a fatal error and with the id 0 free for a mutation. -/
def idle (server : Server) : Bool :=
  match server.mode with
  | .running core => core.fatalError.isNone && (core.mutations 0).isNone
  | _ => false

theorem idle_running {server : Server} (h : idle server = true) :
    ∃ core, server.mode = .running core ∧ core.fatalError = none ∧ core.mutations 0 = none := by
  unfold idle at h
  cases hmode : server.mode with
  | running core =>
      rw [hmode] at h
      obtain ⟨havailable, hfree⟩ := Bool.and_eq_true_iff.mp h
      exact ⟨core, rfl, Option.isNone_iff_eq_none.mp havailable, Option.isNone_iff_eq_none.mp hfree⟩
  | closed =>
      rw [hmode] at h
      cases h
  | recovering config objects phase =>
      rw [hmode] at h
      cases h

/-! ### The first start -/

theorem opening_possible :
    ((Server.initial externals 5).stepNoWrap externals (.openStore config {})).isSome = true := by
  decide +kernel

def opening : Server × Event := Option.get _ opening_possible

/-- The server right after its first start. -/
def openServer : Server := opening.1

theorem opening_step :
    Server.Step externals (Server.initial externals 5) (.openStore config {}, opening.2)
      openServer := by
  have hstep : (Server.initial externals 5).stepNoWrap externals (.openStore config {}) =
      some opening := (Option.some_get opening_possible).symm
  exact Server.stepNoWrap_step _ _ _ _ (hstep.trans (congrArg some Prod.mk.eta.symm))

theorem openServer_reachable : Reachable externals openServer :=
  ⟨5, _, .single opening_step⟩

theorem openServer_mode : openServer.mode = .running { config } := by
  have hopened : opening.2.isOpened = true := by
    decide +kernel
  obtain ⟨hstep, _⟩ := opening_step
  dsimp only at hstep
  exact Server.step_opened hstep hopened

end OpenEvent.Reference
