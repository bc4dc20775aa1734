import BlobInscription.Bytes.Hex
import Mathlib.Algebra.Order.Ring.Nat

namespace BlobInscription.Bytes

theorem toNatLE_lt (bytes : Bytes) : toNatLE bytes < 256 ^ bytes.length := by
  induction bytes with
  | nil => simp [toNatLE]
  | cons b bs ih =>
      have hb : b.toNat < 256 := b.toNat_lt
      simp only [toNatLE, List.length_cons, pow_succ]
      omega

theorem toNatLE_ofNatLE (width n : Nat) : toNatLE (ofNatLE width n) = n % 256 ^ width := by
  induction width generalizing n with
  | zero => simp [ofNatLE, toNatLE, Nat.mod_one]
  | succ width ih =>
      have hb : (UInt8.ofNat n).toNat = n % 256 := UInt8.toNat_ofNat' ..
      rw [ofNatLE, toNatLE, ih, hb, pow_succ, Nat.mul_comm (256 ^ width), Nat.mod_mul]

theorem ofNatLE_toNatLE (bytes : Bytes) : ofNatLE bytes.length (toNatLE bytes) = bytes := by
  induction bytes with
  | nil => rfl
  | cons b bs ih =>
      have hb : b.toNat < 256 := b.toNat_lt
      have hdiv : (b.toNat + 256 * toNatLE bs) / 256 = toNatLE bs := by omega
      simp only [List.length_cons, ofNatLE, toNatLE, hdiv, ih, List.cons.injEq, and_true]
      apply UInt8.toNat_inj.mp
      have hn : (UInt8.ofNat (b.toNat + 256 * toNatLE bs)).toNat =
          (b.toNat + 256 * toNatLE bs) % 256 := UInt8.toNat_ofNat' ..
      omega

theorem toNatBE_reverse (bytes : Bytes) : toNatBE bytes.reverse = toNatLE bytes := by
  rw [toNatBE, List.foldl_reverse]
  induction bytes with
  | nil => rfl
  | cons b bs ih =>
      rw [List.foldr_cons, ih, toNatLE]
      exact Nat.add_comm _ _

theorem toNatBE_ofNatBE (width n : Nat) : toNatBE (ofNatBE width n) = n % 256 ^ width := by
  rw [ofNatBE, toNatBE_reverse, toNatLE_ofNatLE]

theorem ofNatBE_toNatBE (bytes : Bytes) : ofNatBE bytes.length (toNatBE bytes) = bytes := by
  have hlittle := ofNatLE_toNatLE bytes.reverse
  rw [← toNatBE_reverse, List.reverse_reverse, List.length_reverse] at hlittle
  rw [ofNatBE, hlittle, List.reverse_reverse]

theorem toList_loop (bytes : ByteArray) (i : Nat) (done : List UInt8) :
    ByteArray.toList.loop bytes i done = done.reverse ++ bytes.data.toList.drop i := by
  fun_induction ByteArray.toList.loop bytes i done with
  | case1 i done hi ih =>
      have hlt : i < bytes.data.toList.length := hi
      have hget : bytes.get! i = bytes.data.toList[i] := getElem!_pos bytes.data i hi
      rw [ih, List.reverse_cons, List.append_assoc, List.singleton_append, hget,
        List.drop_eq_getElem_cons hlt]
  | case2 i done hi =>
      have hend : bytes.data.toList.length ≤ i := Nat.le_of_not_lt hi
      rw [List.drop_eq_nil_of_le hend, List.append_nil]

theorem ofText_injective : Function.Injective ofText := by
  intro text other h
  simp only [ofText, ByteArray.toList, toList_loop, List.reverse_nil, List.nil_append,
    List.drop_zero] at h
  exact String.toByteArray_inj.mp (ByteArray.ext (Array.toList_inj.mp h))

theorem hexValue?_hexDigit {n : Nat} (h : n < 16) : hexValue? (hexDigit n) = some n := by
  revert n
  decide

theorem isHexBlank_hexDigit {n : Nat} (h : n < 16) : isHexBlank (hexDigit n) = false := by
  revert n
  decide

theorem readHex_flatMap_hexPair (bytes done : Bytes) :
    readHex (bytes.flatMap hexPair) done = some (done.reverse ++ bytes) := by
  induction bytes generalizing done with
  | nil => simp [readHex]
  | cons b bytes ih =>
      have hb : b.toNat < 256 := b.toNat_lt
      have hhigh : b.toNat / 16 < 16 := by omega
      have hlow : b.toNat % 16 < 16 := by omega
      have hbyte : UInt8.ofNat (16 * (b.toNat / 16) + b.toNat % 16) = b := by
        rw [Nat.div_add_mod, UInt8.ofNat_toNat]
      simp [hexPair, readHex, isHexBlank_hexDigit, hexValue?_hexDigit, hhigh, hlow, hbyte, ih]

theorem ofHex?_hex (bytes : Bytes) : ofHex? (hex bytes) = some bytes := by
  simp [ofHex?, hex, readHex_flatMap_hexPair]

theorem hex_injective : Function.Injective hex := by
  intro bytes other h
  have hread := ofHex?_hex bytes
  rw [h, ofHex?_hex] at hread
  exact (Option.some.inj hread).symm

end BlobInscription.Bytes
