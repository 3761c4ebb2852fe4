import OpenEvent.Lib.Bytes

/-!
Base64 without padding: the bits of the bytes in order, six at a time, the last
group filled with zeros, each group written as a character of an alphabet.
-/

namespace Base64

/-- The number a string of bits denotes, most significant first. -/
def number : List Bool → Nat
  | [] => 0
  | bit :: rest => bit.toNat * 2 ^ rest.length + number rest

/-- The bits of a byte, most significant first. -/
def bitsOfByte (byte : UInt8) : List Bool :=
  [byte.toNat.testBit 7, byte.toNat.testBit 6, byte.toNat.testBit 5, byte.toNat.testBit 4,
    byte.toNat.testBit 3, byte.toNat.testBit 2, byte.toNat.testBit 1, byte.toNat.testBit 0]

/-- The numbers of the groups of six bits, the last group filled with zeros. -/
def sextets : List Bool → List Nat
  | a :: b :: c :: d :: e :: f :: rest => number [a, b, c, d, e, f] :: sextets rest
  | [] => []
  | bits => [number (bits ++ List.replicate (6 - bits.length) false)]

/-- The URL and filename safe alphabet: upper-case letters, lower-case letters, digits, and the two
characters that need no escape. -/
def urlAlphabet : List Char :=
  (List.range 26).map (fun i => Char.ofNat ('A'.toNat + i)) ++
    (List.range 26).map (fun i => Char.ofNat ('a'.toNat + i)) ++
    (List.range 10).map (fun i => Char.ofNat ('0'.toNat + i)) ++ ['-', '_']

def encode (alphabet : List Char) (bytes : Bytes) : List Char :=
  (sextets (bytes.flatMap bitsOfByte)).map (fun sextet => alphabet.getD sextet 'A')

theorem number_lt (bits : List Bool) : number bits < 2 ^ bits.length := by
  induction bits with
  | nil => simp [number]
  | cons bit rest ih =>
      have hbit : bit.toNat ≤ 1 := Bool.toNat_le bit
      rw [number, List.length_cons, pow_succ]
      nlinarith

theorem number_append (left right : List Bool) :
    number (left ++ right) = number left * 2 ^ right.length + number right := by
  induction left with
  | nil => simp [number]
  | cons bit rest ih =>
      rw [List.cons_append, number, number, ih, List.length_append, pow_add]
      ring

theorem number_inj {left right : List Bool} (hlength : left.length = right.length)
    (h : number left = number right) : left = right := by
  induction left generalizing right with
  | nil => exact (List.length_eq_zero_iff.mp hlength.symm).symm
  | cons bit rest ih =>
      cases right with
      | nil => simp at hlength
      | cons bit' rest' =>
          have hrests : rest.length = rest'.length := by simpa using hlength
          rw [number, number, hrests] at h
          have hlt := number_lt rest
          have hlt' := number_lt rest'
          rw [hrests] at hlt
          have hpower : 0 < 2 ^ rest'.length := Nat.two_pow_pos _
          have hbits : bit = bit' := by
            cases bit <;> cases bit' <;> simp at h ⊢ <;> omega
          rw [hbits, ih hrests (by rw [hbits] at h; omega)]

@[simp] theorem length_bitsOfByte (byte : UInt8) : (bitsOfByte byte).length = 8 := rfl

theorem number_bitsOfByte (byte : UInt8) : number (bitsOfByte byte) = byte.toNat := by
  have hall : ∀ value < 256, number [value.testBit 7, value.testBit 6, value.testBit 5,
      value.testBit 4, value.testBit 3, value.testBit 2, value.testBit 1, value.testBit 0] =
        value := by
    decide +kernel
  exact hall byte.toNat byte.toNat_lt

theorem bitsOfByte_injective : Function.Injective bitsOfByte := by
  intro left right h
  apply UInt8.toNat_inj.mp
  rw [← number_bitsOfByte left, ← number_bitsOfByte right, h]

theorem length_flatMap_bits (bytes : Bytes) :
    (bytes.flatMap bitsOfByte).length = 8 * bytes.length := by
  induction bytes with
  | nil => rfl
  | cons byte rest ih =>
      rw [List.flatMap_cons, List.length_append, length_bitsOfByte, ih, List.length_cons]
      ring

/-- A code of fixed positive length for each item loses no item of a list. -/
theorem flatMap_injective {α β : Type} {code : α → List β} {size : Nat} (hpos : 0 < size)
    (hsize : ∀ item, (code item).length = size) (hcode : Function.Injective code) :
    Function.Injective (List.flatMap code) := by
  have hne (item : α) (rest : List α) : (item :: rest).flatMap code ≠ [] := by
    intro hnil
    have hlength := congrArg List.length hnil
    simp only [List.flatMap_cons, List.length_append, hsize, List.length_nil] at hlength
    omega
  intro left right h
  induction left generalizing right with
  | nil =>
      cases right with
      | nil => rfl
      | cons item rest => exact absurd h.symm (hne item rest)
  | cons item rest ih =>
      cases right with
      | nil => exact absurd h (hne item rest)
      | cons item' rest' =>
          rw [List.flatMap_cons, List.flatMap_cons] at h
          obtain ⟨hitem, hrest⟩ := List.append_inj h ((hsize item).trans (hsize item').symm)
          rw [hcode hitem, ih hrest]

private theorem number_high (byte : UInt8) :
    number [byte.toNat.testBit 7, byte.toNat.testBit 6, byte.toNat.testBit 5,
      byte.toNat.testBit 4, byte.toNat.testBit 3, byte.toNat.testBit 2] = byte.toNat / 4 ∧
    number [byte.toNat.testBit 7, byte.toNat.testBit 6, byte.toNat.testBit 5,
      byte.toNat.testBit 4] = byte.toNat / 16 ∧
    number [byte.toNat.testBit 7, byte.toNat.testBit 6] = byte.toNat / 64 := by
  have hall : ∀ value < 256,
      number [value.testBit 7, value.testBit 6, value.testBit 5, value.testBit 4,
        value.testBit 3, value.testBit 2] = value / 4 ∧
      number [value.testBit 7, value.testBit 6, value.testBit 5, value.testBit 4] = value / 16 ∧
      number [value.testBit 7, value.testBit 6] = value / 64 := by
    decide +kernel
  exact hall byte.toNat byte.toNat_lt

private theorem number_low (byte : UInt8) :
    number [byte.toNat.testBit 5, byte.toNat.testBit 4, byte.toNat.testBit 3,
      byte.toNat.testBit 2, byte.toNat.testBit 1, byte.toNat.testBit 0] = byte.toNat % 64 ∧
    number [byte.toNat.testBit 3, byte.toNat.testBit 2, byte.toNat.testBit 1,
      byte.toNat.testBit 0] = byte.toNat % 16 ∧
    number [byte.toNat.testBit 1, byte.toNat.testBit 0] = byte.toNat % 4 := by
  have hall : ∀ value < 256,
      number [value.testBit 5, value.testBit 4, value.testBit 3, value.testBit 2,
        value.testBit 1, value.testBit 0] = value % 64 ∧
      number [value.testBit 3, value.testBit 2, value.testBit 1, value.testBit 0] = value % 16 ∧
      number [value.testBit 1, value.testBit 0] = value % 4 := by
    decide +kernel
  exact hall byte.toNat byte.toNat_lt

/-- Three bytes are four groups. -/
theorem sextets_three (a b c : UInt8) (rest : List Bool) :
    sextets (bitsOfByte a ++ (bitsOfByte b ++ (bitsOfByte c ++ rest))) =
      a.toNat / 4 :: (a.toNat % 4 * 16 + b.toNat / 16) :: (b.toNat % 16 * 4 + c.toNat / 64) ::
        c.toNat % 64 :: sextets rest := by
  rw [← (number_high a).1, ← (number_low a).2.2, ← (number_high b).2.1, ← (number_low b).2.1,
    ← (number_high c).2.2, ← (number_low c).1]
  exact congrArg₂ List.cons rfl (congrArg₂ List.cons
    (number_append [_, _] [_, _, _, _]) (congrArg₂ List.cons (number_append [_, _, _, _] [_, _]) rfl))

/-- Two bytes at the end are three groups. -/
theorem sextets_two (a b : UInt8) :
    sextets (bitsOfByte a ++ bitsOfByte b) =
      [a.toNat / 4, a.toNat % 4 * 16 + b.toNat / 16, b.toNat % 16 * 4] := by
  rw [← (number_high a).1, ← (number_low a).2.2, ← (number_high b).2.1, ← (number_low b).2.1]
  exact congrArg₂ List.cons rfl (congrArg₂ List.cons
    (number_append [_, _] [_, _, _, _]) (congrArg₂ List.cons (number_append [_, _, _, _] [_, _]) rfl))

/-- One byte at the end is two groups. -/
theorem sextets_one (a : UInt8) :
    sextets (bitsOfByte a) = [a.toNat / 4, a.toNat % 4 * 16] := by
  rw [← (number_high a).1, ← (number_low a).2.2]
  exact congrArg₂ List.cons rfl (congrArg₂ List.cons (number_append [_, _] [_, _, _, _]) rfl)

theorem sextets_lt (bits : List Bool) : ∀ sextet ∈ sextets bits, sextet < 64 := by
  induction bits using sextets.induct with
  | case1 a b c d e f rest ih =>
      intro sextet hsextet
      rcases List.mem_cons.mp hsextet with rfl | hrest
      · exact number_lt [a, b, c, d, e, f]
      · exact ih sextet hrest
  | case2 => simp [sextets]
  | case3 bits hfull hempty =>
      intro sextet hsextet
      have hlength : bits.length < 6 := by
        rcases bits with _ | ⟨a, _ | ⟨b, _ | ⟨c, _ | ⟨d, _ | ⟨e, _ | ⟨f, rest⟩⟩⟩⟩⟩⟩
        all_goals simp
        exact absurd rfl (hfull a b c d e f rest)
      rw [sextets.eq_3 bits hfull hempty, List.mem_singleton] at hsextet
      have hlt := number_lt (bits ++ List.replicate (6 - bits.length) false)
      rw [List.length_append, List.length_replicate, Nat.add_sub_cancel' hlength.le] at hlt
      omega

theorem sextets_inj {left right : List Bool} (hlength : left.length = right.length)
    (h : sextets left = sextets right) : left = right := by
  induction left using sextets.induct generalizing right with
  | case1 a b c d e f rest ih =>
      obtain ⟨a', b', c', d', e', f', rest', rfl⟩ :
          ∃ a b c d e f rest, right = a :: b :: c :: d :: e :: f :: rest := by
        rcases right with _ | ⟨a, _ | ⟨b, _ | ⟨c, _ | ⟨d, _ | ⟨e, _ | ⟨f, rest⟩⟩⟩⟩⟩⟩
        all_goals simp at hlength ⊢
      obtain ⟨hgroup, hrest⟩ := List.cons.inj h
      have hgroups : [a, b, c, d, e, f] = [a', b', c', d', e', f'] := number_inj rfl hgroup
      rw [ih (by simpa using hlength) hrest]
      simp_all
  | case2 => exact (List.length_eq_zero_iff.mp hlength.symm).symm
  | case3 bits hfull hempty =>
      have hright : ∀ a b c d e f rest, right = a :: b :: c :: d :: e :: f :: rest → False := by
        rintro a b c d e f rest rfl
        rcases bits with _ | ⟨a, _ | ⟨b, _ | ⟨c, _ | ⟨d, _ | ⟨e, _ | ⟨f, rest⟩⟩⟩⟩⟩⟩
        all_goals simp at hlength
        exact hfull _ _ _ _ _ _ _ rfl
      have hrightNe : right = [] → False := by
        rintro rfl
        exact hempty (List.length_eq_zero_iff.mp hlength)
      rw [sextets.eq_3 bits hfull hempty, sextets.eq_3 right hright hrightNe, ← hlength] at h
      have happended := number_inj (by simp [hlength]) (List.cons.inj h).1
      exact (List.append_inj happended hlength).1

/-- Byte strings of one length with the same encoding are equal. -/
theorem encode_inj {alphabet : List Char} (hsize : alphabet.length = 64) (hnodup : alphabet.Nodup)
    {left right : Bytes} (hlength : left.length = right.length)
    (h : encode alphabet left = encode alphabet right) : left = right := by
  have hread (bits : List Bool) :
      ((sextets bits).map (fun sextet => alphabet.getD sextet 'A')).map alphabet.idxOf =
        sextets bits := by
    rw [List.map_map]
    refine (List.map_congr_left ?_).trans (List.map_id _)
    intro sextet hsextet
    have hlt := sextets_lt bits sextet hsextet
    simp only [Function.comp_apply, id]
    rw [List.getD_eq_getElem?_getD, List.getElem?_eq_getElem (by omega), Option.getD_some]
    exact hnodup.idxOf_getElem sextet (by omega)
  apply flatMap_injective (by decide) length_bitsOfByte bitsOfByte_injective
  apply sextets_inj
  · rw [length_flatMap_bits, length_flatMap_bits, hlength]
  · rw [← hread, ← hread (right.flatMap bitsOfByte)]
    exact congrArg (List.map alphabet.idxOf) h

end Base64
