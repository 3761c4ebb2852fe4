import OpenEvent.Lib.Double
import OpenEvent.Lib.JsonText
import OpenEvent.Records

/-!
What the server uses of the generated Protobuf code and of the Protobuf JSON
reader. None of it is in the repository, so it is a parameter of the model:
the functions the server calls, with the documented behaviour it relies on.
-/

namespace Rfc8259

mutual

/-- The value with every number replaced. -/
def Value.mapNumbers (f : ℚ → ℚ) : Value → Value
  | .null => .null
  | .bool value => .bool value
  | .number value => .number (f value)
  | .string value => .string value
  | .array elements => .array (mapElements f elements)
  | .object members => .object (mapMembers f members)

def mapElements (f : ℚ → ℚ) : List Value → List Value
  | [] => []
  | element :: rest => element.mapNumbers f :: mapElements f rest

def mapMembers (f : ℚ → ℚ) : List (Bytes × Value) → List (Bytes × Value)
  | [] => []
  | (name, value) :: rest => (name, value.mapNumbers f) :: mapMembers f rest

end

/-- No object in the value has two members of one name. RFC 8259 leaves the
meaning of repeated names to the reader. -/
inductive DistinctNames : Value → Prop
  | null : DistinctNames .null
  | bool (value : Bool) : DistinctNames (.bool value)
  | number (value : ℚ) : DistinctNames (.number value)
  | string (value : Bytes) : DistinctNames (.string value)
  | array {elements : List Value} (h : ∀ element ∈ elements, DistinctNames element) :
      DistinctNames (.array elements)
  | object {members : List (Bytes × Value)} (hnames : (members.map Prod.fst).Nodup)
      (h : ∀ member ∈ members, DistinctNames member.2) : DistinctNames (.object members)

end Rfc8259

namespace OpenEvent

/-- A generated message type: what is serialized parses back. `none` stands
for a `SerializeToString` that returns false. -/
structure ProtoCodec (α : Type) where
  serializeToString : α → Option Bytes
  parseFromString : Bytes → Option α
  parse_serialize : ∀ message bytes, serializeToString message = some bytes →
    parseFromString bytes = some message

/-- The payload of the message that `InitializeNew` stores. -/
def initializationPayload : Bytes :=
  Bytes.ofString "\x7b\"kind\":\"system.initialization\",\"data\":\x7b\"schema_version\":1\x7d\x7d"

/-- `InitializationMessage` with the clock reading given. -/
def initializationMessage (eventMs : UInt64) : EventMessage :=
  { tsMs := eventMs, payload := initializationPayload }

structure Externals where
  eventMessage : ProtoCodec EventMessage
  channelInfo : ProtoCodec ChannelInfo
  objectRecord : ProtoCodec StoredObject
  /-- `SerializeAsString` succeeds on the small initialization message. -/
  initialization_serializes :
    ∀ eventMs, (eventMessage.serializeToString (initializationMessage eventMs)).isSome
  byteSizeLong : EventMessage → Nat
  visibilityIsValid : Visibility → Bool
  /-- The declared enumerators are valid. -/
  visibility_declared : ∀ visibility, (∀ number, visibility ≠ .other number) →
    visibilityIsValid visibility = true
  /-- The conversion of a JSON number to the double of a `Struct` value. -/
  toDouble : ℚ → ℚ
  toDouble_nearest : ∀ n : ℕ, Double.IsNearest n (toDouble n)
  /-- `JsonStringToMessage` into a `Struct`: its fields, or none on failure. -/
  jsonStringToStruct : Bytes → Option (List (Bytes × Rfc8259.Value))
  /-- The reader decodes every RFC 8259 object text without repeated names. -/
  json_decodes : ∀ text members, Rfc8259.decode text = some (.object members) →
    Rfc8259.DistinctNames (.object members) →
    jsonStringToStruct text = some (Rfc8259.mapMembers toDouble members)

end OpenEvent
