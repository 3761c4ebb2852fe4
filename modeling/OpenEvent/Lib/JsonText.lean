import OpenEvent.Lib.Rfc8259

/-!
Texts that denote a value wherever they stand: the decoder reads them off the
front of any input whose next byte may follow a value. The rules below build
such texts from numerals, strings, arrays and objects without whitespace.
-/

namespace Rfc8259

open Bytes

/-- What may follow a value that is written without whitespace around it. -/
def Delimited (rest : Bytes) : Prop :=
  rest = [] ∨ ∃ byte more, rest = byte :: more ∧ (byte = 0x2c ∨ byte = 0x5d ∨ byte = 0x7d)

/-- A text that starts a value, not whitespace or the end of an array. -/
def StartsValue (text : Bytes) : Prop :=
  ∃ byte more, text = byte :: more ∧ isWhitespace byte = false ∧ byte ≠ 0x5d

structure Denotes (text : Bytes) (value : Value) : Prop where
  starts : StartsValue text
  parses : ∀ fuel rest, text.length ≤ fuel → Delimited rest →
    parseValue fuel (text ++ rest) = some (value, rest)

/-- A quoted text with the content it stands for. -/
structure Quotes (text : Bytes) (content : Bytes) : Prop where
  starts : ∃ more, text = 0x22 :: more
  parses : ∀ fuel rest, text.length ≤ fuel + 1 →
    parseString fuel (text ++ rest) = some (content, rest)

theorem delimited_cons {byte : UInt8} {rest : Bytes}
    (h : byte = 0x2c ∨ byte = 0x5d ∨ byte = 0x7d) : Delimited (byte :: rest) :=
  Or.inr ⟨byte, rest, rfl, h⟩

theorem skipWhitespace_cons {byte : UInt8} {rest : Bytes} (h : isWhitespace byte = false) :
    skipWhitespace (byte :: rest) = byte :: rest := by
  simp [skipWhitespace, h]

theorem StartsValue.skipWhitespace {text : Bytes} (h : StartsValue text) (rest : Bytes) :
    skipWhitespace (text ++ rest) = text ++ rest := by
  obtain ⟨byte, more, rfl, hspace, _⟩ := h
  exact skipWhitespace_cons hspace

theorem parseContent_quote (fuel : Nat) (rest : Bytes) :
    parseContent (fuel + 1) (0x22 :: rest) = some ([], rest) := by
  simp [parseContent]

theorem parseContent_plain {byte : UInt8} {fuel : Nat} {input content rest : Bytes}
    (hquote : byte ≠ 0x22) (hescape : byte ≠ 0x5c) (hcontrol : ¬ byte < 0x20)
    (h : parseContent fuel input = some (content, rest)) :
    parseContent (fuel + 1) (byte :: input) = some (byte :: content, rest) := by
  simp [parseContent, hquote, hescape, hcontrol, h]

theorem parseContent_escape {fuel : Nat} {input middle first content rest : Bytes}
    (hescape : parseEscape input = some (first, middle))
    (h : parseContent fuel middle = some (content, rest)) :
    parseContent (fuel + 1) (0x5c :: input) = some (first ++ content, rest) := by
  simp [parseContent, hescape, h]

/-- A body that the string scanner reads as `content` up to the closing quote. -/
theorem quotes_of_content {body content : Bytes}
    (hbody : ∀ fuel rest, body.length < fuel →
      parseContent fuel (body ++ 0x22 :: rest) = some (content, rest))
    (hutf8 : content.toByteArray.IsValidUTF8) :
    Quotes (0x22 :: body ++ [0x22]) content := by
  refine ⟨⟨_, rfl⟩, ?_⟩
  intro fuel rest hfuel
  have hcontent := hbody fuel rest (by simp at hfuel; omega)
  simp [parseString, hcontent, hutf8]

theorem Quotes.denotes {text content : Bytes} (h : Quotes text content) :
    Denotes text (.string content) := by
  obtain ⟨more, rfl⟩ := h.starts
  refine ⟨⟨0x22, more, rfl, by decide, by decide⟩, ?_⟩
  intro fuel rest hfuel _
  cases fuel with
  | zero => simp at hfuel
  | succ fuel =>
      have hstring := h.parses fuel rest hfuel
      rw [List.cons_append] at hstring
      rw [List.cons_append, parseValue, skipWhitespace_cons (by decide)]
      simp [hstring]

private theorem takeWhile_digits {digits rest : Bytes} (h : ∀ byte ∈ digits, isDigit byte = true)
    (hrest : Delimited rest) :
    (digits ++ rest).takeWhile isDigit = digits ∧ (digits ++ rest).dropWhile isDigit = rest := by
  have hstop : rest.takeWhile isDigit = [] ∧ rest.dropWhile isDigit = rest := by
    rcases hrest with rfl | ⟨byte, more, rfl, hbyte⟩
    · simp
    · have hnot : isDigit byte = false := by
        rcases hbyte with rfl | rfl | rfl <;> decide
      simp [hnot]
  rw [List.takeWhile_append_of_pos h, List.dropWhile_append_of_pos h, hstop.1, hstop.2]
  simp

private theorem parseNumber_decimal (n : Nat) {rest : Bytes} (hrest : Delimited rest) :
    parseNumber (decimal n ++ rest) = some ((n : ℚ), rest) := by
  have hdigits : ∀ byte ∈ decimal n, isDigit byte = true :=
    fun _ member => isDigit_of_mem_decimal member
  obtain ⟨htake, hdrop⟩ := takeWhile_digits hdigits hrest
  have hsign : (decimal n).head? ≠ some 0x2d := by
    intro heq
    have hminus : isDigit 0x2d = true := isDigit_of_mem_decimal (List.mem_of_head? heq)
    exact absurd hminus (by decide)
  have hzero : ¬ (1 < (decimal n).length ∧ (decimal n).head? = some 0x30) :=
    fun h => decimal_head_ne_zero n h.1 h.2
  have hfraction : parseFraction rest = some ([], rest) := by
    rcases hrest with rfl | ⟨byte, more, rfl, rfl | rfl | rfl⟩ <;> simp [parseFraction]
  have hexponent : parseExponent rest = some (0, rest) := by
    rcases hrest with rfl | ⟨byte, more, rfl, rfl | rfl | rfl⟩ <;> simp [parseExponent]
  simp [parseNumber, hsign, htake, hdrop, decimal_ne_nil, hzero, hfraction, hexponent,
    digitsValue_decimal]

theorem denotes_decimal (n : Nat) : Denotes (decimal n) (.number n) := by
  obtain ⟨byte, more, hdigits⟩ := List.exists_cons_of_ne_nil (decimal_ne_nil n)
  have hdigit : isDigit byte = true := isDigit_of_mem_decimal (n := n) (by simp [hdigits])
  have hrange : 48 ≤ byte.toNat ∧ byte.toNat ≤ 57 := by
    simpa [isDigit, UInt8.le_iff_toNat_le] using hdigit
  have hne (other : UInt8) (h : other.toNat < 48 ∨ 57 < other.toNat) : byte ≠ other := by
    rintro rfl
    omega
  have hspace : isWhitespace byte = false := by
    simp [isWhitespace, hne 0x20 (by decide), hne 0x09 (by decide), hne 0x0a (by decide),
      hne 0x0d (by decide)]
  refine ⟨⟨byte, more, hdigits, hspace, hne 0x5d (by decide)⟩, ?_⟩
  intro fuel rest hfuel hrest
  cases fuel with
  | zero => exact absurd hfuel (by simp [hdigits])
  | succ fuel =>
      have hnumber := parseNumber_decimal n hrest
      have hnull : ¬ ofString "null" <+: byte :: (more ++ rest) := by
        rw [show ofString "null" = [0x6e, 0x75, 0x6c, 0x6c] by decide, List.cons_prefix_cons]
        exact fun h => hne 0x6e (by decide) h.1.symm
      have htrue : ¬ ofString "true" <+: byte :: (more ++ rest) := by
        rw [show ofString "true" = [0x74, 0x72, 0x75, 0x65] by decide, List.cons_prefix_cons]
        exact fun h => hne 0x74 (by decide) h.1.symm
      have hfalse : ¬ ofString "false" <+: byte :: (more ++ rest) := by
        rw [show ofString "false" = [0x66, 0x61, 0x6c, 0x73, 0x65] by decide, List.cons_prefix_cons]
        exact fun h => hne 0x66 (by decide) h.1.symm
      rw [hdigits, List.cons_append] at hnumber ⊢
      rw [parseValue, skipWhitespace_cons hspace]
      simp [hne 0x22 (by decide), hne 0x7b (by decide), hne 0x5b (by decide), hnull, htrue,
        hfalse, hnumber]

/-- Texts separated by commas. -/
def joinTexts : List Bytes → Bytes
  | [] => []
  | [text] => text
  | text :: more => text ++ 0x2c :: joinTexts more

private theorem parseElements_last {fuel : Nat} {input rest : Bytes} {value : Value}
    (h : parseValue fuel input = some (value, 0x5d :: rest)) :
    parseElements (fuel + 1) input = some ([value], rest) := by
  simp [parseElements, h, skipWhitespace_cons (by decide : isWhitespace 0x5d = false)]

private theorem parseElements_comma {fuel : Nat} {input middle rest : Bytes} {value : Value}
    {values : List Value} (h : parseValue fuel input = some (value, 0x2c :: middle))
    (hmore : parseElements fuel middle = some (values, rest)) :
    parseElements (fuel + 1) input = some (value :: values, rest) := by
  simp [parseElements, h, hmore, skipWhitespace_cons (by decide : isWhitespace 0x2c = false)]

private theorem parseElements_join {texts : List Bytes} {values : List Value}
    (hdenotes : List.Forall₂ Denotes texts values) (hne : texts ≠ []) (fuel : Nat) (rest : Bytes)
    (hfuel : (joinTexts texts).length < fuel) :
    parseElements fuel (joinTexts texts ++ 0x5d :: rest) = some (values, rest) := by
  induction hdenotes generalizing fuel with
  | nil => exact absurd rfl hne
  | @cons text value texts values hhead htail ih =>
      obtain ⟨fuel, rfl⟩ : ∃ smaller, fuel = smaller + 1 := ⟨fuel - 1, by omega⟩
      cases htail with
      | nil =>
          exact parseElements_last (hhead.parses fuel (0x5d :: rest)
            (by simp only [joinTexts] at hfuel; omega) (delimited_cons (by simp)))
      | @cons next nextValue more moreValues hnext hmore =>
          simp only [joinTexts, List.length_append, List.length_cons] at hfuel
          have hrest := ih (by simp) fuel (by omega)
          have hvalue := hhead.parses fuel
            (0x2c :: (joinTexts (next :: more) ++ 0x5d :: rest)) (by omega)
            (delimited_cons (by simp))
          have hjoined : joinTexts (text :: next :: more) ++ 0x5d :: rest =
              text ++ 0x2c :: (joinTexts (next :: more) ++ 0x5d :: rest) := by
            simp [joinTexts]
          rw [hjoined]
          exact parseElements_comma hvalue hrest

private theorem startsValue_join {texts : List Bytes} {values : List Value}
    (hdenotes : List.Forall₂ Denotes texts values) (hne : texts ≠ []) :
    StartsValue (joinTexts texts) := by
  cases hdenotes with
  | nil => exact absurd rfl hne
  | cons hhead htail =>
      obtain ⟨byte, more, rfl, hspace, hclose⟩ := hhead.starts
      cases htail with
      | nil => exact ⟨byte, more, rfl, hspace, hclose⟩
      | cons _ _ => exact ⟨byte, _, rfl, hspace, hclose⟩

theorem denotes_array {texts : List Bytes} {values : List Value}
    (hdenotes : List.Forall₂ Denotes texts values) (hne : texts ≠ []) :
    Denotes (0x5b :: joinTexts texts ++ [0x5d]) (.array values) := by
  refine ⟨⟨0x5b, _, rfl, by decide, by decide⟩, ?_⟩
  intro fuel rest hfuel _
  obtain ⟨fuel, rfl⟩ : ∃ smaller, fuel = smaller + 1 := ⟨fuel - 1, by simp at hfuel; omega⟩
  have helements := parseElements_join hdenotes hne fuel rest (by simp at hfuel; omega)
  have hstarts := startsValue_join hdenotes hne
  have hskip := hstarts.skipWhitespace (0x5d :: rest)
  obtain ⟨byte, more, hjoined, _, hclose⟩ := hstarts
  rw [hjoined] at helements hskip ⊢
  simp only [List.cons_append, List.append_assoc, List.nil_append] at helements hskip ⊢
  rw [parseValue, skipWhitespace_cons (by decide)]
  simp only [hskip]
  simp [hclose, helements]

/-- One member of an object text. -/
def memberText (name value : Bytes) : Bytes := name ++ 0x3a :: value

structure DenotesMember (text : Bytes) (member : Bytes × Value) : Prop where
  split : ∃ name value, text = memberText name value ∧ Quotes name member.1 ∧
    Denotes value member.2

private theorem parseMembers_last {fuel : Nat} {input middle rest : Bytes} {name : Bytes}
    {value : Value} (hname : parseString fuel (skipWhitespace input) = some (name, 0x3a :: middle))
    (hvalue : parseValue fuel middle = some (value, 0x7d :: rest)) :
    parseMembers (fuel + 1) input = some ([(name, value)], rest) := by
  simp [parseMembers, hname, hvalue, skipWhitespace_cons (by decide : isWhitespace 0x3a = false),
    skipWhitespace_cons (by decide : isWhitespace 0x7d = false)]

private theorem parseMembers_comma {fuel : Nat} {input middle after rest : Bytes} {name : Bytes}
    {value : Value} {members : List (Bytes × Value)}
    (hname : parseString fuel (skipWhitespace input) = some (name, 0x3a :: middle))
    (hvalue : parseValue fuel middle = some (value, 0x2c :: after))
    (hmore : parseMembers fuel after = some (members, rest)) :
    parseMembers (fuel + 1) input = some ((name, value) :: members, rest) := by
  simp [parseMembers, hname, hvalue, hmore,
    skipWhitespace_cons (by decide : isWhitespace 0x3a = false),
    skipWhitespace_cons (by decide : isWhitespace 0x2c = false)]

theorem Quotes.skipWhitespace {text content : Bytes} (h : Quotes text content) (rest : Bytes) :
    skipWhitespace (text ++ rest) = text ++ rest := by
  obtain ⟨more, rfl⟩ := h.starts
  exact skipWhitespace_cons (by decide)

private theorem parseMembers_join {texts : List Bytes} {members : List (Bytes × Value)}
    (hdenotes : List.Forall₂ DenotesMember texts members) (hne : texts ≠ []) (fuel : Nat)
    (rest : Bytes) (hfuel : (joinTexts texts).length < fuel) :
    parseMembers fuel (joinTexts texts ++ 0x7d :: rest) = some (members, rest) := by
  induction hdenotes generalizing fuel with
  | nil => exact absurd rfl hne
  | @cons text member texts members hhead htail ih =>
      obtain ⟨fuel, rfl⟩ : ∃ smaller, fuel = smaller + 1 := ⟨fuel - 1, by omega⟩
      obtain ⟨⟨name, value, rfl, hname, hvalue⟩⟩ := hhead
      cases htail with
      | nil =>
          simp only [joinTexts, memberText, List.length_append, List.length_cons] at hfuel
          have hquoted := hname.parses fuel (0x3a :: value ++ 0x7d :: rest) (by omega)
          rw [← hname.skipWhitespace] at hquoted
          have hparsed := hvalue.parses fuel (0x7d :: rest) (by omega) (delimited_cons (by simp))
          have htext : joinTexts [memberText name value] ++ 0x7d :: rest =
              name ++ (0x3a :: value ++ 0x7d :: rest) := by
            simp [joinTexts, memberText]
          rw [htext]
          exact parseMembers_last hquoted hparsed
      | @cons next nextMember more moreMembers hnext hmore =>
          simp only [joinTexts, memberText, List.length_append, List.length_cons] at hfuel
          have hrest := ih (by simp) fuel (by omega)
          have hquoted := hname.parses fuel
            (0x3a :: value ++ 0x2c :: (joinTexts (next :: more) ++ 0x7d :: rest)) (by omega)
          rw [← hname.skipWhitespace] at hquoted
          have hparsed := hvalue.parses fuel
            (0x2c :: (joinTexts (next :: more) ++ 0x7d :: rest)) (by omega)
            (delimited_cons (by simp))
          have htext : joinTexts (memberText name value :: next :: more) ++ 0x7d :: rest =
              name ++ (0x3a :: value ++ 0x2c :: (joinTexts (next :: more) ++ 0x7d :: rest)) := by
            simp [joinTexts, memberText]
          rw [htext]
          exact parseMembers_comma hquoted hparsed hrest

theorem denotes_object {texts : List Bytes} {members : List (Bytes × Value)}
    (hdenotes : List.Forall₂ DenotesMember texts members) (hne : texts ≠ []) :
    Denotes (0x7b :: joinTexts texts ++ [0x7d]) (.object members) := by
  refine ⟨⟨0x7b, _, rfl, by decide, by decide⟩, ?_⟩
  intro fuel rest hfuel _
  obtain ⟨fuel, rfl⟩ : ∃ smaller, fuel = smaller + 1 := ⟨fuel - 1, by simp at hfuel; omega⟩
  have hmembers := parseMembers_join hdenotes hne fuel rest (by simp at hfuel; omega)
  have hstarts : ∃ more, joinTexts texts = 0x22 :: more := by
    cases hdenotes with
    | nil => exact absurd rfl hne
    | cons hhead htail =>
        obtain ⟨⟨name, value, rfl, hname, _⟩⟩ := hhead
        obtain ⟨more, rfl⟩ := hname.starts
        cases htail with
        | nil => exact ⟨_, rfl⟩
        | cons _ _ => exact ⟨_, rfl⟩
  obtain ⟨more, hjoined⟩ := hstarts
  rw [hjoined] at hmembers ⊢
  simp only [List.cons_append, List.append_assoc, List.nil_append] at hmembers ⊢
  rw [parseValue, skipWhitespace_cons (by decide)]
  simp [skipWhitespace_cons (by decide : isWhitespace 0x22 = false), hmembers]

theorem Denotes.decode {text : Bytes} {value : Value} (h : Denotes text value) :
    decode text = some value := by
  have hparsed := h.parses (text.length + 1) [] (by omega) (Or.inl rfl)
  rw [List.append_nil] at hparsed
  simp [Rfc8259.decode, hparsed, Rfc8259.skipWhitespace]

end Rfc8259
