import OpenEvent.Lib.JsonText
import OpenEvent.Records
import OpenEvent.Status

/-!
The texts the core generates: credentials, object tokens and the payloads of
the system messages.
-/

namespace OpenEvent

/-! ### Random tokens -/

/-- One result of `getrandom`: the bytes it delivered or an error. -/
inductive GetrandomResult where
  | filled (bytes : Bytes)
  | failed (error : Errno)

/-- The loop that fills a buffer of `size` random bytes. There is no result
when the calls given end before the loop does. -/
def fillRandom (size : Nat) : List GetrandomResult → Bytes → Option (Result Bytes)
  | results, bytes =>
      if size ≤ bytes.length then some (.ok bytes)
      else
        match results with
        | [] => none
        | .failed error :: rest =>
            if error = .eintr then fillRandom size rest bytes
            else some (.error { code := .internal, message := "getrandom failed: " ++ error.text })
        | .filled chunk :: rest =>
            if chunk.length ≤ size - bytes.length then fillRandom size rest (bytes ++ chunk)
            else none

def kHex : List UInt8 := Bytes.ofString "0123456789abcdef"

def hexDigits (byte : UInt8) : Bytes :=
  [kHex.getD (byte >>> 4).toNat 0, kHex.getD (byte &&& 0x0f).toNat 0]

/-- The hexadecimal groups of `GenerateToken`. -/
def formatToken (bytes : Bytes) : Bytes :=
  bytes.zipIdx.flatMap (fun (byte, i) =>
    hexDigits byte ++ if i = 3 ∨ i = 5 ∨ i = 7 ∨ i = 9 then [0x2d] else [])

def generateToken (random : List GetrandomResult) : Option (Result Bytes) :=
  (fillRandom 16 random []).map (fun filled => filled.map formatToken)

def kBase64Url : List Char :=
  "ABCDEFGHIJKLMNOPQRSTUVWXYZabcdefghijklmnopqrstuvwxyz0123456789-_".toList

def base64UrlChar (sextet : UInt32) : Char := kBase64Url.getD (sextet &&& 0x3f).toNat 'A'

/-- The encoding loop of `GenerateObjectToken` with its two tails. -/
def encodeBase64Url : Bytes → List Char
  | a :: b :: c :: rest =>
      let value := (a.toUInt32 <<< 16) ||| (b.toUInt32 <<< 8) ||| c.toUInt32
      base64UrlChar (value >>> 18) :: base64UrlChar (value >>> 12) ::
        base64UrlChar (value >>> 6) :: base64UrlChar value :: encodeBase64Url rest
  | [a, b] =>
      let value := (a.toUInt32 <<< 16) ||| (b.toUInt32 <<< 8)
      [base64UrlChar (value >>> 18), base64UrlChar (value >>> 12), base64UrlChar (value >>> 6)]
  | [a] =>
      let value := a.toUInt32 <<< 16
      [base64UrlChar (value >>> 18), base64UrlChar (value >>> 12)]
  | [] => []

def generateObjectToken (random : List GetrandomResult) : Option (Result String) :=
  (fillRandom kObjectTokenRandomBytes random []).map
    (fun filled => filled.map (fun bytes => String.ofList (encodeBase64Url bytes)))

/-! ### System message payloads -/

def escapeByte (byte : UInt8) : Bytes :=
  if byte = 0x22 ∨ byte = 0x5c then [0x5c, byte]
  else if byte < 0x20 then Bytes.ofString "\\u00" ++ hexDigits byte
  else [byte]

def jsonString (value : Bytes) : Bytes := 0x22 :: value.flatMap escapeByte ++ [0x22]

def visibilityText (visibility : Visibility) : String :=
  if visibility = .visibilityPrivate then "private"
  else if visibility = .visibilityProtected then "protected"
  else "public"

def channelInitializedPayload (channel : ChannelInfo) : Bytes :=
  Bytes.ofString
      "\x7b\"kind\":\"system.channel_initialized\",\"data\":\x7b\"schema_version\":1,\"name\":" ++
    jsonString (Bytes.ofString channel.name) ++ Bytes.ofString ",\"protocol\":" ++
    jsonString (Bytes.ofString channel.protocol) ++ Bytes.ofString ",\"description\":" ++
    jsonString (Bytes.ofString channel.description) ++ Bytes.ofString ",\"visibility\":\"" ++
    Bytes.ofString (visibilityText channel.visibility) ++ Bytes.ofString "\",\"creator\":" ++
    Bytes.decimal (channel.creator.getD 0).toNat ++ Bytes.ofString ",\"members\":[" ++
    Rfc8259.joinTexts (channel.members.map (fun member => Bytes.decimal member.toNat)) ++
    Bytes.ofString "]\x7d\x7d"

def memberChangedPayload (kind : String) (member : UInt64) : Bytes :=
  Bytes.ofString "\x7b\"kind\":\"" ++ Bytes.ofString kind ++
    Bytes.ofString "\",\"data\":\x7b\"schema_version\":1,\"member\":" ++
    Bytes.decimal member.toNat ++ Bytes.ofString "\x7d\x7d"

end OpenEvent
