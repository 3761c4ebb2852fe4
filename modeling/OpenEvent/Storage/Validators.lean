import OpenEvent.Externals
import OpenEvent.Storage.Database

/-! The checks that the storage readers apply to stored records. -/

namespace OpenEvent

open Rfc8259 (Value)

/-- `fields.find(name)` of a `Struct`. -/
def findField (fields : List (Bytes × Value)) (name : String) : Option Value :=
  (fields.find? (fun field => field.1 = Bytes.ofString name)).map Prod.snd

def validInitializationMessage (ext : Externals) (message : EventMessage) : Bool :=
  if message.seq ≠ 0 ∨ message.uuid ≠ 0 ∨ message.principal ≠ 0 ∨ message.channelId ≠ 0 ∨
      message.recipients ≠ [] ∨ message.objectKeys ≠ [] then false
  else
    match ext.jsonStringToStruct message.payload with
    | none => false
    | some fields =>
        match findField fields "kind", findField fields "data" with
        | some (.string kind), some (.object dataFields) =>
            kind = Bytes.ofString "system.initialization" &&
            (match findField dataFields "schema_version" with
              | some (.number schema) => schema = 1
              | _ => false) &&
            (findField fields "seq").isNone && (findField fields "channel_id").isNone &&
            (findField fields "principal").isNone && (findField fields "uuid").isNone
        | _, _ => false

/-- The `is_principal` test: `Struct` holds numbers as doubles. -/
def isPrincipal (ext : Externals) : Value → Bool
  | .number value =>
      0 < value && (⌊value⌋ : ℚ) = value && value ≤ ext.toDouble ((2 ^ 64 - 1 : ℕ) : ℚ)
  | _ => false

def isStringField (fields : List (Bytes × Value)) (name : String) : Bool :=
  match findField fields name with
  | some (.string _) => true
  | _ => false

def isPrincipalField (ext : Externals) (fields : List (Bytes × Value)) (name : String) : Bool :=
  match findField fields name with
  | some value => isPrincipal ext value
  | none => false

/-- The part of `ValidChannelSystemMessage` that depends on the event kind. -/
def validChannelEventData (ext : Externals) (kind : Bytes) (dataFields : List (Bytes × Value)) :
    Bool :=
  if kind = Bytes.ofString "system.member_added" ∨ kind = Bytes.ofString "system.member_removed" then
    isPrincipalField ext dataFields "member"
  else if kind ≠ Bytes.ofString "system.channel_initialized" then false
  else
    ["name", "protocol", "description", "visibility"].all (isStringField dataFields) &&
    (match findField dataFields "visibility" with
      | some (.string visibility) =>
          visibility = Bytes.ofString "public" || visibility = Bytes.ofString "protected" ||
            visibility = Bytes.ofString "private"
      | _ => false) &&
    isPrincipalField ext dataFields "creator" &&
    (match findField dataFields "members" with
      | some (.array members) => members ≠ [] && members.all (isPrincipal ext)
      | _ => false)

def validChannelSystemMessage (ext : Externals) (message : EventMessage) : Bool :=
  if message.recipients ≠ [] ∨ message.objectKeys ≠ [] then false
  else
    match ext.jsonStringToStruct message.payload with
    | none => false
    | some fields =>
        match findField fields "kind", findField fields "data" with
        | some (.string kind), some (.object dataFields) =>
            ["seq", "channel_id", "principal", "uuid", "ts_ms"].all
              (fun name => (findField fields name).isNone) &&
            (match findField dataFields "schema_version" with
              | some (.number schema) => schema = 1
              | _ => false) &&
            validChannelEventData ext kind dataFields
        | _, _ => false

def isBase64UrlByte (byte : UInt8) : Bool :=
  (0x41 ≤ byte && byte ≤ 0x5a) || (0x61 ≤ byte && byte ≤ 0x7a) ||
    (0x30 ≤ byte && byte ≤ 0x39) || byte = 0x2d || byte = 0x5f

def isBase64UrlToken (token : String) : Bool :=
  token.utf8ByteSize = kObjectTokenEncodedBytes && (Bytes.ofString token).all isBase64UrlByte

def parseObject (ext : Externals) (payload : Bytes) (expectedId : UInt64) : Result StoredObject :=
  match ext.objectRecord.parseFromString payload with
  | none => .error (.storageCorruption "decode object metadata" "invalid stored object metadata")
  | some record =>
      if record.objectId ≠ expectedId ∨ expectedId = 0 ∨
          isBase64UrlToken record.objectToken = false ∨ record.creatorPrincipal = 0 ∨
          record.name.isEmpty ∨ record.name.utf8ByteSize > kMaxObjectNameBytes ∨
          record.type.isEmpty ∨ record.type.utf8ByteSize > kMaxObjectTypeBytes ∨
          record.description.utf8ByteSize > kMaxObjectDescriptionBytes ∨ record.nbytes = 0 ∨
          record.nbytes.toNat > kMaxObjectBytes then
        .error (.storageCorruption "decode object metadata" "invalid stored object metadata")
      else .ok record

def validStoredChannel (ext : Externals) (channel : ChannelInfo) : Bool :=
  channel.channelId ≠ 0 &&
  (match channel.creator with
    | some creator => creator ≠ 0 && channel.members.contains creator
    | none => false) &&
  !channel.name.isEmpty && channel.name.utf8ByteSize ≤ 255 &&
  channel.protocol.utf8ByteSize ≤ 255 && channel.description.utf8ByteSize ≤ 4096 &&
  ext.visibilityIsValid channel.visibility && !channel.members.contains 0

/-- The reserved-field test of `ScanMessages`. -/
def validReservedFields (ext : Externals) (seq : UInt64) (message : EventMessage) : Bool :=
  if seq = 0 then validInitializationMessage ext message
  else
    !(message.uuid = 0 || message.channelId = 0 ||
      (message.principal = 0 && !validChannelSystemMessage ext message) ||
      message.recipients.contains 0)

/-- The object reference test of `ScanMessages`. -/
def validObjectReferences (message : EventMessage) : Bool :=
  !(message.objectKeys.length > kMaxObjectKeys ||
    message.objectKeys.any (fun key => key.objectId = 0 || !isBase64UrlToken key.objectToken))

end OpenEvent
