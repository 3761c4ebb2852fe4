import OpenEvent.Lib.Bytes

/-!
The records the server stores and the requests it answers. A proto3 `string`
field is a Lean `String`, which is UTF-8 by construction; a `bytes` field and
a credential, which is only ever part of a storage key, are byte strings.
Request fields that no modelled function reads do not exist in the source.
-/

namespace OpenEvent

/-! ### Limits -/

def kObjectTokenRandomBytes : Nat := 32
def kObjectTokenEncodedBytes : Nat := 43
def kMaxObjectNameBytes : Nat := 255
def kMaxObjectTypeBytes : Nat := 255
def kMaxObjectDescriptionBytes : Nat := 4096
def kMaxObjectBytes : Nat := 4 * 1024 * 1024
def kMaxObjectKeys : Nat := 1024
def kMaxUuidBatch : Nat := 1024
def kMaxChannelMembers : Nat := 1024
def kMessagePageSoftBytes : Nat := 17 * 1024 * 1024

/-! ### Stored records -/

structure ObjectKey where
  objectId : UInt64
  objectToken : String
deriving DecidableEq

structure EventMessage where
  seq : UInt64 := 0
  channelId : UInt64 := 0
  principal : UInt64 := 0
  recipients : List UInt64 := []
  payload : Bytes := []
  tsMs : UInt64 := 0
  uuid : UInt64 := 0
  objectKeys : List ObjectKey := []
deriving DecidableEq

/-- An open proto3 enum: the three declared values and any other number. -/
inductive Visibility where
  | visibilityPublic
  | visibilityProtected
  | visibilityPrivate
  | other (number : Int)
deriving DecidableEq

structure ChannelInfo where
  channelId : UInt64
  name : String
  visibility : Visibility
  protocol : String
  description : String
  creator : Option UInt64
  members : List UInt64
deriving DecidableEq

structure StoredObject where
  objectId : UInt64
  objectToken : String
  creatorPrincipal : UInt64
  name : String
  type : String
  description : String
  nbytes : UInt64
deriving DecidableEq

/-! ### Requests -/

structure AllocateUuidsRequest where
  count : UInt32

structure PublishRequest where
  principal : UInt64
  token : Bytes
  channelId : UInt64
  seq : UInt64
  uuid : UInt64
  recipients : List UInt64
  payload : Bytes
  objectKeys : List ObjectKey

structure PublishAutoSeqRequest where
  principal : UInt64
  token : Bytes
  channelId : UInt64
  uuid : UInt64
  recipients : List UInt64
  payload : Bytes
  objectKeys : List ObjectKey

structure FetchRequest where
  principal : UInt64
  token : Bytes
  fromSeq : UInt64
  limit : UInt32
  onlyMyRecipient : Bool
  channels : List UInt64

structure WriteObjectRequest where
  principal : UInt64
  token : Bytes
  name : String
  type : String
  description : String
  data : Bytes

structure CreateChannelRequest where
  principal : UInt64
  token : Bytes
  name : String
  visibility : Visibility
  protocol : String
  description : String
  members : List UInt64

structure GetChannelRequest where
  principal : UInt64
  token : Bytes
  channelId : UInt64

inductive ChannelFilter where
  | channelFilterAll
  | channelFilterJoined
  | channelFilterOwned
  | other (number : Int)
deriving DecidableEq

structure ListChannelsRequest where
  principal : UInt64
  token : Bytes
  filter : ChannelFilter

/-- The request of `AddMember` and of `RemoveMember`. -/
structure MemberRequest where
  principal : UInt64
  token : Bytes
  channelId : UInt64
  targetPrincipal : UInt64

structure AddTokenRequest where
  principal : UInt64

structure DeleteTokenRequest where
  principal : UInt64
  token : Bytes

structure ReadObjectRequest where
  objectId : UInt64
  objectToken : String
  offset : UInt64
  nbytes : UInt64

structure SubscribeRequest where
  principal : UInt64
  token : Bytes
  fromSeq : UInt64
  channels : List UInt64
  onlyMyRecipient : Bool

/-! ### Responses -/

structure FetchResponse where
  messages : List EventMessage := []
  nextSeq : UInt64 := 0
  lastSeq : UInt64 := 0
deriving DecidableEq

structure ObjectMetadata where
  name : String
  type : String
  description : String
  nbytes : UInt64
deriving DecidableEq

def StoredObject.metadata (object : StoredObject) : ObjectMetadata :=
  { name := object.name, type := object.type, description := object.description,
    nbytes := object.nbytes }

end OpenEvent
