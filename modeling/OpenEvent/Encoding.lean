import OpenEvent.Lib.Bytes

/-! Fixed-width big-endian integers, as the storage keys and counters use them. -/

namespace OpenEvent

def encodeUint64 (value : UInt64) : Bytes :=
  [7, 6, 5, 4, 3, 2, 1, 0].map (fun i : UInt64 => (value >>> (i * 8)).toUInt8)

def decodeUint64 (value : Bytes) : UInt64 :=
  if value.length ≠ 8 then 0
  else value.foldl (fun (out : UInt64) byte => (out <<< 8) ||| byte.toUInt64) 0

@[simp] theorem length_encodeUint64 (value : UInt64) : (encodeUint64 value).length = 8 := rfl

theorem value_encodeUint64 (value : UInt64) : Bytes.value (encodeUint64 value) = value.toNat := by
  have hlt := value.toNat_lt
  simp only [encodeUint64, List.map_cons, List.map_nil, Bytes.value, List.foldl_cons,
    List.foldl_nil, UInt64.toNat_toUInt8, UInt64.toNat_shiftRight, UInt64.toNat_mul,
    UInt64.toNat_ofNat, Nat.shiftRight_eq_div_pow]
  norm_num
  omega

theorem encodeUint64_injective : Function.Injective encodeUint64 := by
  intro left right h
  apply UInt64.toNat_inj.mp
  rw [← value_encodeUint64, ← value_encodeUint64, h]

@[simp] theorem encodeUint64_inj {left right : UInt64} :
    encodeUint64 left = encodeUint64 right ↔ left = right :=
  encodeUint64_injective.eq_iff

theorem encodeUint64_lt_iff (left right : UInt64) :
    encodeUint64 left < encodeUint64 right ↔ left < right := by
  rw [Bytes.lt_iff_value_lt (by simp), value_encodeUint64, value_encodeUint64, UInt64.lt_iff_toNat_lt]

private theorem shift_or_toNat (out : UInt64) (byte : UInt8) (h : out.toNat < 2 ^ 56) :
    ((out <<< 8) ||| byte.toUInt64).toNat = out.toNat * 256 + byte.toNat := by
  have hbyte : byte.toNat < 2 ^ 8 := byte.toNat_lt
  rw [UInt64.toNat_or, UInt64.toNat_shiftLeft, UInt8.toNat_toUInt64]
  have hshift : out.toNat <<< ((8 : UInt64).toNat % 64) % 2 ^ 64 = out.toNat <<< 8 := by
    rw [show (8 : UInt64).toNat % 64 = 8 from rfl, Nat.shiftLeft_eq]
    omega
  rw [hshift, Nat.shiftLeft_eq, mul_comm, ← Nat.two_pow_add_eq_or_of_lt hbyte]

private theorem foldl_decode (bytes : Bytes) (out : UInt64)
    (h : out.toNat * 256 ^ bytes.length + Bytes.value bytes < 2 ^ 64)
    (hlength : bytes.length ≤ 8) (hout : out.toNat < 256 ^ (8 - bytes.length)) :
    (bytes.foldl (fun (out : UInt64) byte => (out <<< 8) ||| byte.toUInt64) out).toNat =
      out.toNat * 256 ^ bytes.length + Bytes.value bytes := by
  induction bytes generalizing out with
  | nil => simp [Bytes.value]
  | cons byte rest ih =>
      have hlength' : rest.length + 1 ≤ 8 := by simpa using hlength
      have hpow : (256 : Nat) ^ (8 - (rest.length + 1)) ≤ 256 ^ 7 :=
        Nat.pow_le_pow_right (by decide) (by omega)
      simp only [List.length_cons] at hout
      have hstep := shift_or_toNat out byte (by
        have : (256 : Nat) ^ 7 = 2 ^ 56 := by norm_num
        omega)
      rw [Bytes.value_cons, List.length_cons, pow_succ] at h
      have hvalue : (out.toNat * 256 + byte.toNat) * 256 ^ rest.length + Bytes.value rest =
          out.toNat * (256 ^ rest.length * 256) + (byte.toNat * 256 ^ rest.length +
            Bytes.value rest) := by ring
      have hnext : (out.toNat * 256 + byte.toNat) < 256 ^ (8 - rest.length) := by
        have hexp : 8 - rest.length = 8 - (rest.length + 1) + 1 := by omega
        have hbyte : byte.toNat < 256 := byte.toNat_lt
        rw [hexp, pow_succ]
        omega
      rw [List.foldl_cons, ih _ (by rw [hstep, hvalue]; exact h) (by omega) (by rw [hstep]; exact hnext),
        hstep, hvalue, Bytes.value_cons, List.length_cons, pow_succ]

theorem decodeUint64_toNat {bytes : Bytes} (h : bytes.length = 8) :
    (decodeUint64 bytes).toNat = Bytes.value bytes := by
  have hlt := Bytes.value_lt bytes
  rw [h] at hlt
  rw [decodeUint64, if_neg (by simp [h]), foldl_decode bytes 0 (by norm_num at hlt ⊢; omega)
    (by omega) (by simp [h])]
  simp

@[simp] theorem decode_encodeUint64 (value : UInt64) : decodeUint64 (encodeUint64 value) = value := by
  apply UInt64.toNat_inj.mp
  rw [decodeUint64_toNat (length_encodeUint64 value), value_encodeUint64]

theorem encode_decodeUint64 {bytes : Bytes} (h : bytes.length = 8) :
    encodeUint64 (decodeUint64 bytes) = bytes := by
  apply Bytes.value_injective (by rw [length_encodeUint64, h])
  rw [value_encodeUint64, decodeUint64_toNat h]

end OpenEvent
