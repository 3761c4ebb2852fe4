import OpenEvent.Lib.Decimal

/-!
A decoder for the JSON texts of RFC 8259 over UTF-8 bytes. Numbers keep their
exact rational value and object members their order. Only string contents can
hold bytes outside ASCII, so UTF-8 validity is checked on each decoded string.
-/

namespace Rfc8259

open Bytes

inductive Value where
  | null
  | bool (value : Bool)
  | number (value : ℚ)
  | string (value : Bytes)
  | array (elements : List Value)
  | object (members : List (Bytes × Value))

def isWhitespace (byte : UInt8) : Bool :=
  byte = 0x20 || byte = 0x09 || byte = 0x0a || byte = 0x0d

def skipWhitespace (input : Bytes) : Bytes := input.dropWhile isWhitespace

def hexDigit (byte : UInt8) : Option Nat :=
  if isDigit byte then some (byte.toNat - 0x30)
  else if 0x61 ≤ byte ∧ byte ≤ 0x66 then some (byte.toNat - 0x61 + 10)
  else if 0x41 ≤ byte ∧ byte ≤ 0x46 then some (byte.toNat - 0x41 + 10)
  else none

/-- Four hexadecimal digits: one UTF-16 code unit. -/
def parseUnit : Bytes → Option (Nat × Bytes)
  | a :: b :: c :: d :: rest => do
      let a ← hexDigit a
      let b ← hexDigit b
      let c ← hexDigit c
      let d ← hexDigit d
      pure (a * 4096 + b * 256 + c * 16 + d, rest)
  | _ => none

/-- The character named by an escape sequence, after its backslash, as UTF-8. -/
def parseEscape : Bytes → Option (Bytes × Bytes)
  | [] => none
  | kind :: rest =>
      if kind = 0x22 ∨ kind = 0x5c ∨ kind = 0x2f then some ([kind], rest)
      else if kind = 0x62 then some ([0x08], rest)
      else if kind = 0x66 then some ([0x0c], rest)
      else if kind = 0x6e then some ([0x0a], rest)
      else if kind = 0x72 then some ([0x0d], rest)
      else if kind = 0x74 then some ([0x09], rest)
      else if kind = 0x75 then do
        let (unit, rest) ← parseUnit rest
        if 0xd800 ≤ unit ∧ unit < 0xdc00 then
          -- A high surrogate is completed by the low surrogate escape that follows.
          match rest with
          | 0x5c :: 0x75 :: rest => do
              let (low, rest) ← parseUnit rest
              if 0xdc00 ≤ low ∧ low < 0xe000 then
                let scalar := 0x10000 + (unit - 0xd800) * 0x400 + (low - 0xdc00)
                pure (String.utf8EncodeChar (Char.ofNat scalar), rest)
              else none
          | _ => none
        else if 0xdc00 ≤ unit ∧ unit < 0xe000 then none
        else pure (String.utf8EncodeChar (Char.ofNat unit), rest)
      else none

/-- The content of a string after its opening quote. -/
def parseContent : Nat → Bytes → Option (Bytes × Bytes)
  | 0, _ => none
  | _ + 1, [] => none
  | fuel + 1, byte :: rest =>
      if byte = 0x22 then some ([], rest)
      else if byte = 0x5c then do
        let (first, rest) ← parseEscape rest
        let (more, rest) ← parseContent fuel rest
        pure (first ++ more, rest)
      else if byte < 0x20 then none
      else do
        let (more, rest) ← parseContent fuel rest
        pure (byte :: more, rest)

def parseString (fuel : Nat) : Bytes → Option (Bytes × Bytes)
  | [] => none
  | byte :: rest =>
      if byte = 0x22 then do
        let (content, rest) ← parseContent fuel rest
        if content.toByteArray.validateUTF8 then pure (content, rest) else none
      else none

def parseFraction : Bytes → Option (Bytes × Bytes)
  | [] => some ([], [])
  | byte :: rest =>
      if byte = 0x2e then
        let digits := rest.takeWhile isDigit
        if digits = [] then none else some (digits, rest.dropWhile isDigit)
      else some ([], byte :: rest)

def parseExponent : Bytes → Option (Int × Bytes)
  | [] => some (0, [])
  | byte :: rest =>
      if byte = 0x65 ∨ byte = 0x45 then
        let negative := rest.head? = some 0x2d
        let unsigned := if negative ∨ rest.head? = some 0x2b then rest.tail else rest
        let digits := unsigned.takeWhile isDigit
        if digits = [] then none
        else
          let magnitude : Int := digitsValue digits
          some (if negative then -magnitude else magnitude, unsigned.dropWhile isDigit)
      else some (0, byte :: rest)

def parseNumber (input : Bytes) : Option (ℚ × Bytes) := do
  let negative := input.head? = some 0x2d
  let unsigned := if negative then input.tail else input
  let whole := unsigned.takeWhile isDigit
  if whole = [] ∨ (1 < whole.length ∧ whole.head? = some 0x30) then none
  else
    let (fraction, rest) ← parseFraction (unsigned.dropWhile isDigit)
    let (exponent, rest) ← parseExponent rest
    let magnitude : ℚ := digitsValue (whole ++ fraction) * (10 : ℚ) ^ (exponent - fraction.length)
    pure (if negative then -magnitude else magnitude, rest)

mutual

def parseValue : Nat → Bytes → Option (Value × Bytes)
  | 0, _ => none
  | fuel + 1, input =>
      match skipWhitespace input with
      | [] => none
      | byte :: rest =>
          if byte = 0x22 then do
            let (content, rest) ← parseString fuel (byte :: rest)
            pure (.string content, rest)
          else if byte = 0x7b then
            match skipWhitespace rest with
            | 0x7d :: rest => some (.object [], rest)
            | rest => do
                let (members, rest) ← parseMembers fuel rest
                pure (.object members, rest)
          else if byte = 0x5b then
            match skipWhitespace rest with
            | 0x5d :: rest => some (.array [], rest)
            | rest => do
                let (elements, rest) ← parseElements fuel rest
                pure (.array elements, rest)
          else if ofString "null" <+: byte :: rest then some (.null, rest.drop 3)
          else if ofString "true" <+: byte :: rest then some (.bool true, rest.drop 3)
          else if ofString "false" <+: byte :: rest then some (.bool false, rest.drop 4)
          else do
            let (value, rest) ← parseNumber (byte :: rest)
            pure (.number value, rest)

/-- One or more elements and the closing bracket. -/
def parseElements : Nat → Bytes → Option (List Value × Bytes)
  | 0, _ => none
  | fuel + 1, input => do
      let (element, rest) ← parseValue fuel input
      match skipWhitespace rest with
      | 0x2c :: rest =>
          let (more, rest) ← parseElements fuel rest
          pure (element :: more, rest)
      | 0x5d :: rest => pure ([element], rest)
      | _ => none

/-- One or more members and the closing brace. -/
def parseMembers : Nat → Bytes → Option (List (Bytes × Value) × Bytes)
  | 0, _ => none
  | fuel + 1, input => do
      let (name, rest) ← parseString fuel (skipWhitespace input)
      match skipWhitespace rest with
      | 0x3a :: rest =>
          let (value, rest) ← parseValue fuel rest
          match skipWhitespace rest with
          | 0x2c :: rest =>
              let (more, rest) ← parseMembers fuel rest
              pure ((name, value) :: more, rest)
          | 0x7d :: rest => pure ([(name, value)], rest)
          | _ => none
      | _ => none

end

/-- A JSON text is one value with optional whitespace around it. -/
def decode (text : Bytes) : Option Value := do
  let (value, rest) ← parseValue (text.length + 1) text
  if skipWhitespace rest = [] then pure value else none

end Rfc8259
