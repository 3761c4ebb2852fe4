import OpenEvent.ChannelEvents

/-!
The payloads that the core writes are RFC 8259 texts of the values they are
meant to state, so that readers of the log and the storage checks find in them
what the writer put there.
-/

namespace OpenEvent

open Rfc8259

/-! ### Strings -/

private theorem hexDigit_kHex (n : Nat) (h : n < 16) : hexDigit (kHex.getD n 0) = some n := by
  have hall : ∀ m : Fin 16, hexDigit (kHex.getD m 0) = some m.val := by decide
  exact hall ⟨n, h⟩

private theorem parseUnit_hexDigits (byte : UInt8) (rest : Bytes) :
    parseUnit (0x30 :: 0x30 :: hexDigits byte ++ rest) = some (byte.toNat, rest) := by
  have hlt := byte.toNat_lt
  have hhigh : (byte >>> 4).toNat = byte.toNat / 16 := by
    rw [UInt8.toNat_shiftRight, show (4 : UInt8).toNat % 8 = 4 from rfl,
      Nat.shiftRight_eq_div_pow]
  have hlow : (byte &&& 0x0f).toNat = byte.toNat % 16 := by
    rw [UInt8.toNat_and, show (0x0f : UInt8).toNat = 2 ^ 4 - 1 from rfl,
      Nat.and_two_pow_sub_one_eq_mod]
  have hzero : hexDigit 0x30 = some 0 := by decide
  have hfirst := hexDigit_kHex (byte.toNat / 16) (by omega)
  have hsecond := hexDigit_kHex (byte.toNat % 16) (by omega)
  simp only [hexDigits, hhigh, hlow, parseUnit, List.cons_append, List.nil_append, hzero, hfirst,
    hsecond, Option.bind_eq_bind, Option.bind_some]
  simp
  omega

private theorem utf8EncodeChar_control (byte : UInt8) (h : byte < 0x20) :
    String.utf8EncodeChar (Char.ofNat byte.toNat) = [byte] := by
  have hlt : byte.toNat < 32 := by simpa [UInt8.lt_iff_toNat_lt] using h
  have hall : ∀ n : Fin 32, String.utf8EncodeChar (Char.ofNat n) = [UInt8.ofNat n] := by decide
  simpa using hall ⟨byte.toNat, hlt⟩

private theorem parseEscape_control (byte : UInt8) (h : byte < 0x20) (rest : Bytes) :
    parseEscape (0x75 :: 0x30 :: 0x30 :: hexDigits byte ++ rest) = some ([byte], rest) := by
  have hlt : byte.toNat < 32 := by simpa [UInt8.lt_iff_toNat_lt] using h
  have hunit := parseUnit_hexDigits byte rest
  simp only [List.cons_append] at hunit ⊢
  have hhigh : ¬ (0xd800 ≤ byte.toNat ∧ byte.toNat < 0xdc00) := by omega
  have hsurrogate : ¬ (0xdc00 ≤ byte.toNat ∧ byte.toNat < 0xe000) := by omega
  simp [parseEscape, hunit, hhigh, hsurrogate, utf8EncodeChar_control byte h]

private theorem parseContent_escapeByte (byte : UInt8) {fuel : Nat} {input content rest : Bytes}
    (h : parseContent fuel input = some (content, rest)) :
    parseContent (fuel + 1) (escapeByte byte ++ input) = some (byte :: content, rest) := by
  unfold escapeByte
  split_ifs with hquoted hcontrol
  · have hescape : parseEscape (byte :: input) = some ([byte], input) := by
      rcases hquoted with rfl | rfl <;> simp [parseEscape]
    exact parseContent_escape hescape h
  · have htext : Bytes.ofString "\\u00" = [0x5c, 0x75, 0x30, 0x30] := by decide
    rw [htext]
    exact parseContent_escape (parseEscape_control byte hcontrol input) h
  · exact parseContent_plain (fun heq => hquoted (Or.inl heq)) (fun heq => hquoted (Or.inr heq))
      hcontrol h

private theorem parseContent_flatMap (content : Bytes) (fuel : Nat) (rest : Bytes)
    (hfuel : (content.flatMap escapeByte).length < fuel) :
    parseContent fuel (content.flatMap escapeByte ++ 0x22 :: rest) = some (content, rest) := by
  induction content generalizing fuel with
  | nil =>
      obtain ⟨smaller, rfl⟩ : ∃ smaller, fuel = smaller + 1 := ⟨fuel - 1, by omega⟩
      exact parseContent_quote smaller rest
  | cons byte more ih =>
      have hpositive : 0 < (escapeByte byte).length := by
        unfold escapeByte
        split_ifs <;> simp [hexDigits]
      simp only [List.flatMap_cons, List.length_append] at hfuel
      obtain ⟨smaller, rfl⟩ : ∃ smaller, fuel = smaller + 1 := ⟨fuel - 1, by omega⟩
      rw [List.flatMap_cons, List.append_assoc]
      exact parseContent_escapeByte byte (ih smaller (by omega))

theorem ofString_toByteArray (text : String) :
    (Bytes.ofString text).toByteArray = text.toByteArray := by
  apply ByteArray.ext
  simp [Bytes.ofString, List.data_toByteArray]

/-- An escaped string stands for the string itself. -/
theorem quotes_jsonString (text : String) :
    Quotes (jsonString (Bytes.ofString text)) (Bytes.ofString text) := by
  refine quotes_of_content (fun fuel rest hfuel => parseContent_flatMap _ fuel rest hfuel) ?_
  rw [ofString_toByteArray]
  exact text.isValidUTF8

/-! ### Payloads -/

private def quoted (text : String) : Bytes := jsonString (Bytes.ofString text)

private def member (name : String) (value : Value) : Bytes × Value := (Bytes.ofString name, value)

private theorem denotesMember {name : String} {text : Bytes} {value : Value}
    (h : Denotes text value) :
    DenotesMember (memberText (quoted name) text) (member name value) :=
  ⟨⟨quoted name, text, rfl, quotes_jsonString name, h⟩⟩

/-- The object with a kind and data that every payload is. -/
private def payloadValue (kind : String) (data : List (Bytes × Value)) : Value :=
  .object [member "kind" (.string (Bytes.ofString kind)), member "data" (.object data)]

private theorem denotes_payload {kind : String} {texts : List Bytes}
    {data : List (Bytes × Value)} (h : List.Forall₂ DenotesMember texts data) (hne : texts ≠ []) :
    Denotes (0x7b :: joinTexts [memberText (quoted "kind") (quoted kind),
        memberText (quoted "data") (0x7b :: joinTexts texts ++ [0x7d])] ++ [0x7d])
      (payloadValue kind data) := by
  refine denotes_object ?_ (by simp)
  refine .cons (denotesMember (quotes_jsonString kind).denotes) (.cons ?_ .nil)
  exact denotesMember (denotes_object h hne)

private def versionMember : Bytes × Value := member "schema_version" (.number (1 : ℕ))

private theorem denotes_version :
    DenotesMember (memberText (quoted "schema_version") (Bytes.decimal 1)) versionMember :=
  denotesMember (denotes_decimal 1)

private def memberData (principal : UInt64) : List (Bytes × Value) :=
  [versionMember, member "member" (.number principal.toNat)]

private theorem denotes_memberChanged (kind : String) (principal : UInt64)
    (hkind : quoted kind = 0x22 :: Bytes.ofString kind ++ [0x22]) :
    Denotes (memberChangedPayload kind principal) (payloadValue kind (memberData principal)) := by
  have hdenotes := @denotes_payload kind
    [memberText (quoted "schema_version") (Bytes.decimal 1),
      memberText (quoted "member") (Bytes.decimal principal.toNat)] (memberData principal)
    (.cons denotes_version (.cons (denotesMember (denotes_decimal _)) .nil)) (by simp)
  convert hdenotes using 1
  rw [hkind]
  simp only [memberChangedPayload, joinTexts, memberText, List.append_assoc, List.cons_append]
  rfl

private def channelData (channel : ChannelInfo) : List (Bytes × Value) :=
  [versionMember, member "name" (.string (Bytes.ofString channel.name)),
    member "protocol" (.string (Bytes.ofString channel.protocol)),
    member "description" (.string (Bytes.ofString channel.description)),
    member "visibility" (.string (Bytes.ofString (visibilityText channel.visibility))),
    member "creator" (.number (channel.creator.getD 0).toNat),
    member "members" (.array (channel.members.map (fun principal => .number principal.toNat)))]

private theorem quoted_visibility (visibility : Visibility) :
    quoted (visibilityText visibility) =
      0x22 :: Bytes.ofString (visibilityText visibility) ++ [0x22] := by
  unfold visibilityText
  split_ifs <;> decide

private theorem denotes_channelInitialized (channel : ChannelInfo) (hmembers : channel.members ≠ []) :
    Denotes (channelInitializedPayload channel)
      (payloadValue "system.channel_initialized" (channelData channel)) := by
  have hlist : List.Forall₂ Denotes
      (channel.members.map (fun principal => Bytes.decimal principal.toNat))
      (channel.members.map (fun principal => Value.number principal.toNat)) := by
    rw [List.forall₂_map_left_iff, List.forall₂_map_right_iff]
    exact List.forall₂_same.mpr (fun principal _ => denotes_decimal principal.toNat)
  have hdenotes := @denotes_payload "system.channel_initialized"
    [memberText (quoted "schema_version") (Bytes.decimal 1),
      memberText (quoted "name") (quoted channel.name),
      memberText (quoted "protocol") (quoted channel.protocol),
      memberText (quoted "description") (quoted channel.description),
      memberText (quoted "visibility") (quoted (visibilityText channel.visibility)),
      memberText (quoted "creator") (Bytes.decimal (channel.creator.getD 0).toNat),
      memberText (quoted "members") (0x5b :: joinTexts
        (channel.members.map (fun principal => Bytes.decimal principal.toNat)) ++ [0x5d])]
    (channelData channel)
    (.cons denotes_version (.cons (denotesMember (quotes_jsonString _).denotes)
      (.cons (denotesMember (quotes_jsonString _).denotes)
        (.cons (denotesMember (quotes_jsonString _).denotes)
          (.cons (denotesMember (quotes_jsonString _).denotes)
            (.cons (denotesMember (denotes_decimal _))
              (.cons (denotesMember (denotes_array hlist (by simpa using hmembers))) .nil)))))))
    (by simp)
  convert hdenotes using 1
  rw [quoted_visibility]
  simp only [channelInitializedPayload, joinTexts, memberText, List.append_assoc,
    List.cons_append]
  rfl

/-- The text of a membership change decodes to its kind and its member and nothing else. -/
theorem decode_memberChangedPayload {kind : String} (principal : UInt64)
    (hkind : kind = "system.member_added" ∨ kind = "system.member_removed") :
    decode (memberChangedPayload kind principal) = some (.object
      [(Bytes.ofString "kind", .string (Bytes.ofString kind)),
        (Bytes.ofString "data", .object
          [(Bytes.ofString "schema_version", .number 1),
            (Bytes.ofString "member", .number principal.toNat)])]) := by
  have hquoted : quoted kind = 0x22 :: Bytes.ofString kind ++ [0x22] := by
    rcases hkind with rfl | rfl <;> decide
  have hdecoded := (denotes_memberChanged kind principal hquoted).decode
  rwa [payloadValue, memberData, versionMember, Nat.cast_one] at hdecoded

/-- The text of a new channel decodes to its fields and nothing else. -/
theorem decode_channelInitializedPayload (channel : ChannelInfo) (hmembers : channel.members ≠ []) :
    decode (channelInitializedPayload channel) = some (.object
      [(Bytes.ofString "kind", .string (Bytes.ofString "system.channel_initialized")),
        (Bytes.ofString "data", .object
          [(Bytes.ofString "schema_version", .number 1),
            (Bytes.ofString "name", .string (Bytes.ofString channel.name)),
            (Bytes.ofString "protocol", .string (Bytes.ofString channel.protocol)),
            (Bytes.ofString "description", .string (Bytes.ofString channel.description)),
            (Bytes.ofString "visibility",
              .string (Bytes.ofString (visibilityText channel.visibility))),
            (Bytes.ofString "creator", .number (channel.creator.getD 0).toNat),
            (Bytes.ofString "members",
              .array (channel.members.map (fun principal => .number principal.toNat)))])]) := by
  have hdecoded := (denotes_channelInitialized channel hmembers).decode
  rwa [payloadValue, channelData, versionMember, Nat.cast_one] at hdecoded

/-! ### What readers of the log decode -/

private theorem readText_ofString (text : String) :
    readText (.string (Bytes.ofString text)) = some text := by
  simp only [readText, ofString_toByteArray, String.fromUTF8?]
  rw [dif_pos text.isValidUTF8]
  rfl

private theorem readUint64_toNat (value : UInt64) :
    readUint64 (.number value.toNat) = some value := by
  have hlt := value.toNat_lt
  have hnum : (value.toNat : ℚ).num = value.toNat := Rat.num_natCast _
  have hden : (value.toNat : ℚ).den = 1 := Rat.den_natCast _
  simp only [readUint64, hnum, hden]
  rw [if_pos ⟨trivial, by omega, by exact_mod_cast hlt⟩]
  simp

private theorem readMembers_toNat (members : List UInt64) :
    readMembers (.array (members.map (fun principal => Value.number principal.toNat))) =
      some members := by
  simp only [readMembers]
  induction members with
  | nil => rfl
  | cons first rest ih => simp [readUint64_toNat, ih]

private theorem readVisibility_visibilityText {visibility : Visibility}
    (h : ∀ number, visibility ≠ .other number) :
    readVisibility (.string (Bytes.ofString (visibilityText visibility))) = some visibility := by
  cases visibility with
  | visibilityPublic => decide
  | visibilityProtected => decide
  | visibilityPrivate => decide
  | other number => exact absurd rfl (h number)

private theorem decode_payload {payload : Bytes} {kind : String} {data : List (Bytes × Value)}
    (h : Denotes payload (payloadValue kind data)) :
    decodeChannelEvent payload = readChannelEvent (Bytes.ofString kind) data := by
  have hdata : Bytes.ofString "kind" ≠ Bytes.ofString "data" := by decide
  simp [decodeChannelEvent, h.decode, payloadValue, findField, member, hdata]

private theorem findField_member {data : List (Bytes × Value)} {name : String} {value : Value}
    (h : data.find? (fun field => field.1 = Bytes.ofString name) = some (member name value)) :
    findField data name = some value := by
  simp [findField, h, member]

private theorem find_member {principal : UInt64} :
    findField (memberData principal) "member" = some (.number principal.toNat) := by
  have hne : Bytes.ofString "schema_version" ≠ Bytes.ofString "member" := by decide
  simp [findField, memberData, versionMember, member, hne]

theorem decode_memberAdded (principal : UInt64) :
    decodeChannelEvent (memberChangedPayload "system.member_added" principal) =
      some (.memberAdded principal) := by
  have hinitialized : Bytes.ofString "system.member_added" ≠
      Bytes.ofString "system.channel_initialized" := by decide
  rw [decode_payload (denotes_memberChanged "system.member_added" principal (by decide)),
    readChannelEvent, if_neg hinitialized, if_pos rfl, find_member,
    Option.bind_some, readUint64_toNat, Option.map_some]

theorem decode_memberRemoved (principal : UInt64) :
    decodeChannelEvent (memberChangedPayload "system.member_removed" principal) =
      some (.memberRemoved principal) := by
  have hinitialized : Bytes.ofString "system.member_removed" ≠
      Bytes.ofString "system.channel_initialized" := by decide
  have hadded : Bytes.ofString "system.member_removed" ≠ Bytes.ofString "system.member_added" := by
    decide
  rw [decode_payload (denotes_memberChanged "system.member_removed" principal (by decide)),
    readChannelEvent, if_neg hinitialized, if_neg hadded, if_pos rfl, find_member,
    Option.bind_some, readUint64_toNat, Option.map_some]

private theorem find_channelData (channel : ChannelInfo) :
    findField (channelData channel) "name" = some (.string (Bytes.ofString channel.name)) ∧
    findField (channelData channel) "protocol" =
      some (.string (Bytes.ofString channel.protocol)) ∧
    findField (channelData channel) "description" =
      some (.string (Bytes.ofString channel.description)) ∧
    findField (channelData channel) "visibility" =
      some (.string (Bytes.ofString (visibilityText channel.visibility))) ∧
    findField (channelData channel) "creator" =
      some (.number (channel.creator.getD 0).toNat) ∧
    findField (channelData channel) "members" =
      some (.array (channel.members.map (fun principal => .number principal.toNat))) := by
  refine ⟨?_, ?_, ?_, ?_, ?_, ?_⟩ <;>
    exact findField_member (by rfl)

private theorem readChannelEvent_initialized {data : List (Bytes × Value)}
    {name protocol description : String} {visibility : Visibility} {creator : UInt64}
    {members : List UInt64} (hname : (findField data "name").bind readText = some name)
    (hprotocol : (findField data "protocol").bind readText = some protocol)
    (hdescription : (findField data "description").bind readText = some description)
    (hvisibility : (findField data "visibility").bind readVisibility = some visibility)
    (hcreator : (findField data "creator").bind readUint64 = some creator)
    (hmembers : (findField data "members").bind readMembers = some members) :
    readChannelEvent (Bytes.ofString "system.channel_initialized") data =
      some (.channelInitialized name protocol description visibility creator members) := by
  rw [readChannelEvent, if_pos rfl, hname, hprotocol, hdescription, hvisibility, hcreator, hmembers]
  rfl

theorem decode_channelInitialized (channel : ChannelInfo) {creator : UInt64}
    (hcreator : channel.creator = some creator) (hmembers : channel.members ≠ [])
    (hvisibility : ∀ number, channel.visibility ≠ .other number) :
    decodeChannelEvent (channelInitializedPayload channel) =
      some (.channelInitialized channel.name channel.protocol channel.description
        channel.visibility creator channel.members) := by
  obtain ⟨hname, hprotocol, hdescription, hvisible, hcreated, hlist⟩ := find_channelData channel
  have hprincipal : (channel.creator.getD 0) = creator := by rw [hcreator, Option.getD_some]
  rw [decode_payload (denotes_channelInitialized channel hmembers)]
  apply readChannelEvent_initialized
  · rw [hname, Option.bind_some, readText_ofString]
  · rw [hprotocol, Option.bind_some, readText_ofString]
  · rw [hdescription, Option.bind_some, readText_ofString]
  · rw [hvisible, Option.bind_some, readVisibility_visibilityText hvisibility]
  · rw [hcreated, hprincipal, Option.bind_some, readUint64_toNat]
  · rw [hlist, Option.bind_some, readMembers_toNat]

/-! ### What the storage checks find -/

theorem findField_mapMembers (f : ℚ → ℚ) (fields : List (Bytes × Value)) (name : String) :
    findField (mapMembers f fields) name = (findField fields name).map (Value.mapNumbers f) := by
  induction fields with
  | nil => rfl
  | cons field rest ih =>
      by_cases hname : field.1 = Bytes.ofString name
      · simp [findField, mapMembers, hname]
      · simpa [findField, mapMembers, hname] using ih

variable {ext : Externals}

private theorem distinctNames_payload {kind : String} {data : List (Bytes × Value)}
    (h : DistinctNames (.object data)) : DistinctNames (payloadValue kind data) := by
  refine .object ?_ ?_
  · simp only [member, List.map_cons, List.map_nil]
    decide
  · intro found hfound
    simp only [List.mem_cons, List.not_mem_nil, or_false] at hfound
    rcases hfound with rfl | rfl
    · exact .string _
    · exact h

private theorem struct_payload {payload : Bytes} {kind : String} {data : List (Bytes × Value)}
    (h : Denotes payload (payloadValue kind data)) (hnames : DistinctNames (.object data)) :
    ext.jsonStringToStruct payload = some [member "kind" (.string (Bytes.ofString kind)),
      member "data" (.object (mapMembers ext.toDouble data))] := by
  rw [ext.json_decodes payload _ h.decode (distinctNames_payload hnames)]
  simp [member, mapMembers, Value.mapNumbers]

/-- The names that a payload may not use. -/
private theorem find_payload_absent {kind : String} {data : Value} :
    ["seq", "channel_id", "principal", "uuid", "ts_ms"].all (fun name =>
      (findField [member "kind" (.string (Bytes.ofString kind)), member "data" data] name).isNone) =
        true := by
  rfl

private theorem validVersion {data : List (Bytes × Value)}
    (h : findField data "schema_version" = some (.number (1 : ℕ))) :
    findField (mapMembers ext.toDouble data) "schema_version" = some (.number 1) := by
  have hone : ext.toDouble ((1 : ℕ) : ℚ) = 1 := by
    simpa using (ext.toDouble_nearest 1).eq_self (by norm_num)
  rw [findField_mapMembers, h, Option.map_some, Value.mapNumbers, hone]

private theorem validChannelSystemMessage_payload {message : EventMessage} {kind : String}
    {data : List (Bytes × Value)} (hrecipients : message.recipients = [])
    (hkeys : message.objectKeys = []) (h : Denotes message.payload (payloadValue kind data))
    (hnames : DistinctNames (.object data))
    (hversion : findField data "schema_version" = some (.number (1 : ℕ)))
    (hdata : validChannelEventData ext (Bytes.ofString kind) (mapMembers ext.toDouble data) = true) :
    validChannelSystemMessage ext message = true := by
  have hkind (data : Value) : findField [member "kind" (.string (Bytes.ofString kind)),
      member "data" data] "kind" = some (.string (Bytes.ofString kind)) := rfl
  have hfound (data : Value) : findField [member "kind" (.string (Bytes.ofString kind)),
      member "data" data] "data" = some data := rfl
  rw [validChannelSystemMessage, if_neg (by simp [hrecipients, hkeys]),
    struct_payload h hnames]
  simp only [hkind, hfound, find_payload_absent, validVersion hversion, hdata]
  rfl

theorem isPrincipal_toDouble {principal : UInt64} (h : principal ≠ 0) :
    isPrincipal ext (.number (ext.toDouble principal.toNat)) = true := by
  have hpositive : 0 < principal.toNat :=
    Nat.pos_of_ne_zero (fun heq => h (UInt64.toNat_inj.mp heq))
  have hlt := principal.toNat_lt
  have hnear := ext.toDouble_nearest principal.toNat
  have hmax := (ext.toDouble_nearest (2 ^ 64 - 1)).max_uint64
  simp only [isPrincipal, Bool.and_eq_true, decide_eq_true_eq]
  refine ⟨⟨hnear.pos hpositive, hnear.floor_eq⟩, ?_⟩
  rw [hmax]
  exact hnear.le_two_pow hlt.le

theorem validChannelSystemMessage_memberChanged {message : EventMessage} {kind : String}
    {principal : UInt64} (hrecipients : message.recipients = []) (hkeys : message.objectKeys = [])
    (hkind : kind = "system.member_added" ∨ kind = "system.member_removed")
    (hpayload : message.payload = memberChangedPayload kind principal) (hprincipal : principal ≠ 0) :
    validChannelSystemMessage ext message = true := by
  have hquoted : quoted kind = 0x22 :: Bytes.ofString kind ++ [0x22] := by
    rcases hkind with rfl | rfl <;> decide
  have hdenotes := denotes_memberChanged kind principal hquoted
  rw [← hpayload] at hdenotes
  refine validChannelSystemMessage_payload hrecipients hkeys hdenotes ?_ rfl ?_
  · refine .object (by simp only [memberData, versionMember, member, List.map_cons]; decide) ?_
    intro found hfound
    simp only [memberData, versionMember, List.mem_cons, List.not_mem_nil, or_false] at hfound
    rcases hfound with rfl | rfl <;> exact .number _
  · have hmember : isPrincipalField ext (mapMembers ext.toDouble (memberData principal)) "member" =
        true := by
      rw [isPrincipalField, findField_mapMembers, find_member]
      exact isPrincipal_toDouble hprincipal
    rw [validChannelEventData, if_pos (hkind.imp (congrArg _) (congrArg _))]
    exact hmember

private theorem validChannelEventData_initialized {channel : ChannelInfo} {creator : UInt64}
    (hcreator : channel.creator = some creator) (hzero : creator ≠ 0)
    (hmembers : channel.members ≠ []) (hmember : 0 ∉ channel.members) :
    validChannelEventData ext (Bytes.ofString "system.channel_initialized")
      (mapMembers ext.toDouble (channelData channel)) = true := by
  obtain ⟨hname, hprotocol, hdescription, hvisible, hcreated, hlist⟩ := find_channelData channel
  have hkind : ¬ (Bytes.ofString "system.channel_initialized" =
      Bytes.ofString "system.member_added" ∨ Bytes.ofString "system.channel_initialized" =
        Bytes.ofString "system.member_removed") := by decide
  have hstrings : ["name", "protocol", "description", "visibility"].all
      (isStringField (mapMembers ext.toDouble (channelData channel))) = true := by
    simp [isStringField, findField_mapMembers, hname, hprotocol, hdescription, hvisible,
      Value.mapNumbers]
  have hcreatorField :
      isPrincipalField ext (mapMembers ext.toDouble (channelData channel)) "creator" = true := by
    rw [isPrincipalField, findField_mapMembers, hcreated, hcreator]
    exact isPrincipal_toDouble hzero
  have hmap (members : List UInt64) : mapElements ext.toDouble
      (members.map (fun principal => Value.number principal.toNat)) =
        members.map (fun principal => .number (ext.toDouble principal.toNat)) := by
    induction members with
    | nil => rfl
    | cons first rest ih => simp [mapElements, Value.mapNumbers, ih]
  have hall : ∀ principal ∈ channel.members,
      isPrincipal ext (.number (ext.toDouble principal.toNat)) = true := by
    intro principal hprincipal
    apply isPrincipal_toDouble
    rintro rfl
    exact hmember hprincipal
  have hnonempty : channel.members.map
      (fun principal => Value.number (ext.toDouble principal.toNat)) ≠ [] := by
    simpa using hmembers
  have htexts : (Bytes.ofString (visibilityText channel.visibility) = Bytes.ofString "public" ∨
      Bytes.ofString (visibilityText channel.visibility) = Bytes.ofString "protected") ∨
        Bytes.ofString (visibilityText channel.visibility) = Bytes.ofString "private" := by
    unfold visibilityText
    split_ifs
    · exact Or.inr rfl
    · exact Or.inl (Or.inr rfl)
    · exact Or.inl (Or.inl rfl)
  rw [validChannelEventData, if_neg hkind, if_neg (by simp), hstrings, hcreatorField,
    findField_mapMembers, findField_mapMembers, hvisible, hlist]
  simp only [Option.map_some, Value.mapNumbers, hmap, List.all_map, Bool.true_and, Bool.and_true,
    Bool.and_eq_true, Bool.or_eq_true, decide_eq_true_eq, List.all_eq_true]
  exact ⟨htexts, hnonempty, hall⟩

theorem validChannelSystemMessage_initialized {message : EventMessage} {channel : ChannelInfo}
    {creator : UInt64} (hrecipients : message.recipients = []) (hkeys : message.objectKeys = [])
    (hpayload : message.payload = channelInitializedPayload channel)
    (hcreator : channel.creator = some creator) (hzero : creator ≠ 0)
    (hmembers : channel.members ≠ []) (hmember : 0 ∉ channel.members) :
    validChannelSystemMessage ext message = true := by
  have hdenotes := denotes_channelInitialized channel hmembers
  rw [← hpayload] at hdenotes
  refine validChannelSystemMessage_payload hrecipients hkeys hdenotes ?_ rfl ?_
  · refine .object (by
      simp only [channelData, versionMember, member, List.map_cons, List.map_nil]; decide) ?_
    intro found hfound
    simp only [channelData, versionMember, List.mem_cons, List.not_mem_nil, or_false] at hfound
    rcases hfound with rfl | rfl | rfl | rfl | rfl | rfl | rfl <;>
      first
        | exact .number _
        | exact .string _
        | (refine .array ?_
           intro element helement
           obtain ⟨principal, _, rfl⟩ := List.mem_map.mp helement
           exact .number _)
  · exact validChannelEventData_initialized hcreator hzero hmembers hmember

/-- The message that `InitializeNew` stores passes its own check. -/
theorem validInitializationMessage_initializationMessage (tsMs : UInt64) :
    validInitializationMessage ext (initializationMessage tsMs) = true := by
  have hdata : List.Forall₂ DenotesMember
      [memberText (quoted "schema_version") (Bytes.decimal 1)] [versionMember] :=
    .cons denotes_version .nil
  have hdenotes : Denotes initializationPayload
      (payloadValue "system.initialization" [versionMember]) := by
    have hpayload := @denotes_payload "system.initialization" _ _ hdata (by simp)
    convert hpayload using 1
    decide
  have hnames : DistinctNames (.object [versionMember]) := by
    refine .object (by simp) ?_
    intro found hfound
    obtain rfl := List.mem_singleton.mp hfound
    exact .number _
  have hversion := @validVersion ext [versionMember] rfl
  have hkind (data : Value) : findField [member "kind" (.string (Bytes.ofString
      "system.initialization")), member "data" data] "kind" =
        some (.string (Bytes.ofString "system.initialization")) := rfl
  have hfound (data : Value) : findField [member "kind" (.string (Bytes.ofString
      "system.initialization")), member "data" data] "data" = some data := rfl
  rw [validInitializationMessage, if_neg (by simp [initializationMessage])]
  simp only [initializationMessage, struct_payload hdenotes hnames, hkind, hfound, hversion]
  rfl

end OpenEvent
