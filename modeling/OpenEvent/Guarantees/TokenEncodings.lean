import OpenEvent.Lib.Base64
import OpenEvent.Refinement.Objects

/-!
The credentials the server makes out of random bytes: object tokens are the
unpadded base64url text of 32 bytes, principal tokens the hexadecimal groups of
16 bytes. Neither loses any of them.
-/

namespace OpenEvent

/-! ### The loop over `getrandom` -/

/-- The bytes that the calls delivered, in order. -/
def delivered : List GetrandomResult → Bytes
  | [] => []
  | .filled chunk :: rest => chunk ++ delivered rest
  | .failed _ :: rest => delivered rest

/-- The calls deliver the bytes in parts of any size, some of them interrupted. -/
structure Delivers (random : List GetrandomResult) (bytes : Bytes) : Prop where
  bytes_eq : delivered random = bytes
  interrupted : ∀ error, GetrandomResult.failed error ∈ random → error = .eintr

theorem fillRandom_delivered {size : Nat} {random : List GetrandomResult} {start : Bytes}
    (hinterrupted : ∀ error, GetrandomResult.failed error ∈ random → error = .eintr)
    (hsize : start.length + (delivered random).length = size) :
    fillRandom size random start = some (.ok (start ++ delivered random)) := by
  induction random generalizing start with
  | nil =>
      rw [fillRandom.eq_def]
      simp only [delivered, List.length_nil] at hsize ⊢
      rw [if_pos (by omega), List.append_nil]
  | cons result rest ih =>
      have hrest : ∀ error, GetrandomResult.failed error ∈ rest → error = .eintr :=
        fun error hmem => hinterrupted error (List.mem_cons_of_mem _ hmem)
      rw [fillRandom.eq_def]
      simp only
      cases result with
      | failed error =>
          obtain rfl := hinterrupted error List.mem_cons_self
          rw [delivered] at hsize ⊢
          split_ifs with hfull
          · have hnil : delivered rest = [] := List.length_eq_zero_iff.mp (by omega)
            rw [hnil, List.append_nil]
          · simpa using ih hrest hsize
      | filled chunk =>
          rw [delivered, List.length_append] at hsize
          rw [delivered]
          split_ifs with hfull
          · have hnil : chunk ++ delivered rest = [] :=
              List.length_eq_zero_iff.mp (by rw [List.length_append]; omega)
            rw [hnil, List.append_nil]
          · have hfilled := @ih (start ++ chunk) hrest (by rw [List.length_append]; omega)
            simp only
            rw [if_pos (by omega), hfilled, List.append_assoc]

theorem Delivers.fillRandom {random : List GetrandomResult} {bytes : Bytes}
    (h : Delivers random bytes) :
    OpenEvent.fillRandom bytes.length random [] = some (.ok bytes) := by
  obtain ⟨rfl, hinterrupted⟩ := h
  simpa using @fillRandom_delivered (delivered random).length random [] hinterrupted (by simp)

/-! ### Object tokens -/

/-- The word of the encoding loop as a number. -/
private theorem toNat_word (a b c : UInt8) :
    ((a.toUInt32 <<< 16) ||| (b.toUInt32 <<< 8) ||| c.toUInt32).toNat =
      a.toNat * 65536 + b.toNat * 256 + c.toNat := by
  have ha := a.toNat_lt
  have hb := b.toNat_lt
  have hc := c.toNat_lt
  have hlow : b.toNat <<< 8 ||| c.toNat = b.toNat * 256 + c.toNat := by
    rw [← Nat.shiftLeft_add_eq_or_of_lt hc, Nat.shiftLeft_eq]
  have hhigh : a.toNat <<< 16 ||| (b.toNat * 256 + c.toNat) =
      a.toNat * 65536 + (b.toNat * 256 + c.toNat) := by
    rw [← Nat.shiftLeft_add_eq_or_of_lt (by omega), Nat.shiftLeft_eq]
  have hshiftA : (a.toUInt32 <<< 16).toNat = a.toNat <<< 16 := by
    simp [Nat.shiftLeft_eq]
    omega
  have hshiftB : (b.toUInt32 <<< 8).toNat = b.toNat <<< 8 := by
    simp [Nat.shiftLeft_eq]
    omega
  rw [UInt32.toNat_or, UInt32.toNat_or, hshiftA, hshiftB, UInt8.toNat_toUInt32, Nat.or_assoc,
    hlow, hhigh, Nat.add_assoc]

private theorem base64UrlChar_eq (value : UInt32) :
    base64UrlChar value = kBase64Url.getD (value.toNat % 64) 'A' := by
  have hmask : (value &&& 0x3f).toNat = value.toNat % 64 := by
    rw [UInt32.toNat_and]
    exact Nat.and_two_pow_sub_one_eq_mod value.toNat 6
  rw [base64UrlChar, hmask]

/-- The four characters of a word are those of its four groups of bits. -/
private theorem base64UrlChar_word {value : UInt32} {a b c : Nat} (ha : a < 256) (hb : b < 256)
    (hc : c < 256) (hvalue : value.toNat = a * 65536 + b * 256 + c) :
    base64UrlChar (value >>> 18) = kBase64Url.getD (a / 4) 'A' ∧
    base64UrlChar (value >>> 12) = kBase64Url.getD (a % 4 * 16 + b / 16) 'A' ∧
    base64UrlChar (value >>> 6) = kBase64Url.getD (b % 16 * 4 + c / 64) 'A' ∧
    base64UrlChar value = kBase64Url.getD (c % 64) 'A' := by
  have h18 : (value >>> 18).toNat = value.toNat / 2 ^ 18 := by
    simp [Nat.shiftRight_eq_div_pow]
  have h12 : (value >>> 12).toNat = value.toNat / 2 ^ 12 := by
    simp [Nat.shiftRight_eq_div_pow]
  have h6 : (value >>> 6).toNat = value.toNat / 2 ^ 6 := by
    simp [Nat.shiftRight_eq_div_pow]
  rw [base64UrlChar_eq, base64UrlChar_eq, base64UrlChar_eq, base64UrlChar_eq, h18, h12, h6, hvalue]
  refine ⟨congrArg (kBase64Url.getD · 'A') ?_, congrArg (kBase64Url.getD · 'A') ?_,
    congrArg (kBase64Url.getD · 'A') ?_, congrArg (kBase64Url.getD · 'A') ?_⟩
  all_goals omega

theorem kBase64Url_eq : kBase64Url = Base64.urlAlphabet := by decide +kernel

/-- The loop with its two tails is the unpadded base64url encoding. -/
theorem encodeBase64Url_eq (bytes : Bytes) :
    encodeBase64Url bytes = Base64.encode Base64.urlAlphabet bytes := by
  rw [← kBase64Url_eq]
  induction bytes using encodeBase64Url.induct with
  | case1 a b c rest ih =>
      obtain ⟨h18, h12, h6, h0⟩ :=
        base64UrlChar_word a.toNat_lt b.toNat_lt c.toNat_lt (toNat_word a b c)
      have hsextets := Base64.sextets_three a b c (rest.flatMap Base64.bitsOfByte)
      simp only [encodeBase64Url, Base64.encode, List.flatMap_cons, hsextets, List.map_cons]
      rw [h18, h12, h6, h0, ih, Base64.encode]
  | case2 a b =>
      have hword : ((a.toUInt32 <<< 16) ||| (b.toUInt32 <<< 8)).toNat =
          a.toNat * 65536 + b.toNat * 256 + 0 := by
        simpa using toNat_word a b 0
      obtain ⟨h18, h12, h6, _⟩ :=
        base64UrlChar_word a.toNat_lt b.toNat_lt (by decide : 0 < 256) hword
      have hsextets := Base64.sextets_two a b
      simp only [encodeBase64Url, Base64.encode, List.flatMap_cons, List.flatMap_nil,
        List.append_nil, hsextets, List.map_cons, List.map_nil]
      rw [h18, h12, h6, Nat.zero_div, Nat.add_zero]
  | case3 a =>
      have hword : (a.toUInt32 <<< 16).toNat = a.toNat * 65536 + 0 * 256 + 0 := by
        simpa using toNat_word a 0 0
      obtain ⟨h18, h12, _, _⟩ :=
        base64UrlChar_word a.toNat_lt (by decide : 0 < 256) (by decide : 0 < 256) hword
      have hsextets := Base64.sextets_one a
      simp only [encodeBase64Url, Base64.encode, List.flatMap_cons, List.flatMap_nil,
        List.append_nil, hsextets, List.map_cons, List.map_nil]
      rw [h18, h12, Nat.zero_div, Nat.add_zero]
  | case4 => rfl

theorem Delivers.generateObjectToken {random : List GetrandomResult} {bytes : Bytes}
    (h : Delivers random bytes) (hsize : bytes.length = kObjectTokenRandomBytes) :
    OpenEvent.generateObjectToken random =
      some (.ok (String.ofList (Base64.encode Base64.urlAlphabet bytes))) := by
  rw [OpenEvent.generateObjectToken, ← hsize, h.fillRandom, ← encodeBase64Url_eq]
  rfl

/-! ### Principal tokens -/

def isLowerHexByte (byte : UInt8) : Bool :=
  (0x30 ≤ byte && byte ≤ 0x39) || (0x61 ≤ byte && byte ≤ 0x66)

/-- A group of lower-case hexadecimal digits. -/
def HexGroup (size : Nat) (group : Bytes) : Prop :=
  group.length = size ∧ group.all isLowerHexByte = true

/-- Lower-case hexadecimal in groups of 8, 4, 4, 4 and 12 digits, a hyphen between two groups. -/
def IsGroupedHex (token : Bytes) : Prop :=
  ∃ first second third fourth fifth : Bytes,
    token = first ++ [0x2d] ++ second ++ [0x2d] ++ third ++ [0x2d] ++ fourth ++ [0x2d] ++ fifth ∧
    HexGroup 8 first ∧ HexGroup 4 second ∧ HexGroup 4 third ∧ HexGroup 4 fourth ∧
    HexGroup 12 fifth

private theorem hexDigits_facts (byte : UInt8) :
    (hexDigits byte).all isLowerHexByte = true ∧
      16 * kHex.idxOf ((hexDigits byte).getD 0 0) + kHex.idxOf ((hexDigits byte).getD 1 0) =
        byte.toNat := by
  have hall : ∀ value < 256, (hexDigits (UInt8.ofNat value)).all isLowerHexByte = true ∧
      16 * kHex.idxOf ((hexDigits (UInt8.ofNat value)).getD 0 0) +
        kHex.idxOf ((hexDigits (UInt8.ofNat value)).getD 1 0) = value := by
    decide +kernel
  simpa using hall byte.toNat byte.toNat_lt

private theorem hexDigits_injective : Function.Injective hexDigits := by
  intro left right h
  apply UInt8.toNat_inj.mp
  rw [← (hexDigits_facts left).2, ← (hexDigits_facts right).2, h]

private theorem hexGroup_flatMap (bytes : Bytes) :
    HexGroup (2 * bytes.length) (bytes.flatMap hexDigits) := by
  induction bytes with
  | nil => exact ⟨rfl, rfl⟩
  | cons byte rest ih =>
      have hlength : (hexDigits byte).length = 2 := rfl
      constructor
      · rw [List.flatMap_cons, List.length_append, hlength, ih.1, List.length_cons]
        ring
      · rw [List.flatMap_cons, List.all_append, (hexDigits_facts byte).1, ih.2]
        rfl

theorem formatToken_grouped {bytes : Bytes} (h : bytes.length = 16) :
    IsGroupedHex (formatToken bytes) := by
  have hgroups : formatToken bytes =
      (bytes.take 4).flatMap hexDigits ++ [0x2d] ++ ((bytes.drop 4).take 2).flatMap hexDigits ++
        [0x2d] ++ ((bytes.drop 6).take 2).flatMap hexDigits ++ [0x2d] ++
        ((bytes.drop 8).take 2).flatMap hexDigits ++ [0x2d] ++
        (bytes.drop 10).flatMap hexDigits := by
    match bytes, h with
    | [_, _, _, _, _, _, _, _, _, _, _, _, _, _, _, _], _ => rfl
  refine ⟨_, _, _, _, _, hgroups, ?_, ?_, ?_, ?_, ?_⟩
  all_goals
    refine (congrArg (HexGroup · _) ?_).mp (hexGroup_flatMap _)
    simp [h]

/-- Without its hyphens a token is the digits of all the bytes. -/
private theorem filter_formatToken (bytes : Bytes) :
    (formatToken bytes).filter (· ≠ 0x2d) = bytes.flatMap hexDigits := by
  have hdigits (byte : UInt8) : (hexDigits byte).filter (· ≠ 0x2d) = hexDigits byte := by
    apply List.filter_eq_self.mpr
    intro digit hdigit
    have hlower := List.all_eq_true.mp (hexDigits_facts byte).1 digit hdigit
    simp only [decide_eq_true_eq, ne_eq]
    rintro rfl
    exact absurd hlower (by decide)
  have hfrom (start : Nat) : ((bytes.zipIdx start).flatMap (fun entry => hexDigits entry.1 ++
      if entry.2 = 3 ∨ entry.2 = 5 ∨ entry.2 = 7 ∨ entry.2 = 9 then [0x2d] else [])).filter
        (· ≠ 0x2d) = bytes.flatMap hexDigits := by
    induction bytes generalizing start with
    | nil => rfl
    | cons byte rest ih =>
        rw [List.zipIdx_cons, List.flatMap_cons, List.filter_append, ih, List.flatMap_cons,
          List.filter_append, hdigits]
        split <;> simp
  exact hfrom 0

theorem formatToken_injective : Function.Injective formatToken := by
  intro left right h
  apply Base64.flatMap_injective (by decide : 0 < 2) (fun _ => rfl) hexDigits_injective
  rw [← filter_formatToken, ← filter_formatToken, h]

theorem Delivers.generateToken {random : List GetrandomResult} {bytes : Bytes}
    (h : Delivers random bytes) (hsize : bytes.length = 16) :
    OpenEvent.generateToken random = some (.ok (formatToken bytes)) := by
  rw [OpenEvent.generateToken, ← hsize, h.fillRandom]
  rfl

theorem IsGroupedHex.length_eq {token : Bytes} (h : IsGroupedHex token) : token.length = 36 := by
  obtain ⟨first, second, third, fourth, fifth, rfl, hfirst, hsecond, hthird, hfourth, hfifth⟩ := h
  simp [hfirst.1, hsecond.1, hthird.1, hfourth.1, hfifth.1]

/-- Every 32 random bytes, delivered in any parts, give an object token: their unpadded base64url
text, which the storage accepts. Every 16 give a principal token of 36 characters in five
hexadecimal groups. Other bytes give another token. -/
theorem tokens_keep_their_bytes :
    (∀ random bytes, Delivers random bytes → bytes.length = 32 →
      ∃ token : String, generateObjectToken random = some (.ok token) ∧
        token.length = 43 ∧ isBase64UrlToken token = true ∧
        token.toList = Base64.encode Base64.urlAlphabet bytes ∧
        ∀ random' bytes', Delivers random' bytes' → bytes'.length = 32 →
          generateObjectToken random' = some (.ok token) → bytes' = bytes) ∧
    (∀ random bytes, Delivers random bytes → bytes.length = 16 →
      ∃ token : Bytes, generateToken random = some (.ok token) ∧
        token ≠ [] ∧ token.length = 36 ∧ IsGroupedHex token ∧
        ∀ random' bytes', Delivers random' bytes' → bytes'.length = 16 →
          generateToken random' = some (.ok token) → bytes' = bytes) := by
  constructor
  · intro random bytes hdelivers hsize
    have htoken := hdelivers.generateObjectToken hsize
    have hshape := generateObjectToken_shape htoken
    refine ⟨_, htoken, ?_, hshape, by simp, ?_⟩
    · rw [String.length_ofList, ← encodeBase64Url_eq, length_encodeBase64Url, hsize]
    · intro random' bytes' hdelivers' hsize' htoken'
      rw [hdelivers'.generateObjectToken hsize'] at htoken'
      have hsame : String.ofList (Base64.encode Base64.urlAlphabet bytes') =
          String.ofList (Base64.encode Base64.urlAlphabet bytes) := by
        simpa using htoken'
      have hcount : Base64.urlAlphabet.length = 64 := by decide
      have hnodup : Base64.urlAlphabet.Nodup := by decide +kernel
      exact Base64.encode_inj hcount hnodup (hsize'.trans hsize.symm)
        (by simpa using congrArg String.toList hsame)
  · intro random bytes hdelivers hsize
    have htoken := hdelivers.generateToken hsize
    have hgrouped := formatToken_grouped hsize
    refine ⟨_, htoken, generateToken_ne htoken, hgrouped.length_eq, hgrouped, ?_⟩
    intro random' bytes' hdelivers' hsize' htoken'
    rw [hdelivers'.generateToken hsize'] at htoken'
    exact formatToken_injective (by simpa using htoken')

/-- Both tokens of bytes that arrived in two parts around an interruption. -/
theorem tokens_of_interrupted_calls :
    (∃ token : String, generateObjectToken [.filled (List.replicate 20 0xff), .failed .eintr,
        .filled (List.replicate 12 0x2a)] = some (.ok token) ∧ isBase64UrlToken token = true) ∧
      ∃ token : Bytes, generateToken [.filled (List.replicate 5 0), .failed .eintr,
        .filled (List.replicate 11 0xab)] = some (.ok token) ∧ IsGroupedHex token := by
  obtain ⟨token, htoken, _, hshape, _⟩ := tokens_keep_their_bytes.1
    [.filled (List.replicate 20 0xff), .failed .eintr, .filled (List.replicate 12 0x2a)]
    (List.replicate 20 0xff ++ List.replicate 12 0x2a) ⟨rfl, by simp⟩ rfl
  obtain ⟨token', htoken', _, _, hgrouped, _⟩ := tokens_keep_their_bytes.2
    [.filled (List.replicate 5 0), .failed .eintr, .filled (List.replicate 11 0xab)]
    (List.replicate 5 0 ++ List.replicate 11 0xab) ⟨rfl, by simp⟩ rfl
  exact ⟨⟨token, htoken, hshape⟩, token', htoken', hgrouped⟩

end OpenEvent
