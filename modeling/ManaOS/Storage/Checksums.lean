/-
The checksum of the partition table as a remainder of polynomials.

The register is read as a reflected word, so that a turn of `update_crc32` multiplies it by `X`
modulo the generator.

* `crc32_standard` (**CRC-32**): the checksum is the reflected CRC-32.
-/
import Mathlib.RingTheory.AdjoinRoot
import ManaOS.Lib.BitPolynomial
import ManaOS.Storage.GuidPartitionTable

namespace ManaOS
open Polynomial BitPolynomial List

/-- The generator of CRC-32. -/
noncomputable def crc32Generator : (ZMod 2)[X] := X ^ 32 + ofWord (0x04c11db7 : BitVec 32)

/-- The bits of a message, each byte from its low end, as coefficients in descending order. -/
noncomputable def messagePolynomial : List UInt8 → (ZMod 2)[X]
  | [] => 0
  | byte :: bytes => X ^ (8 * bytes.length) * reflected byte.toBitVec + messagePolynomial bytes

/-- The reflected CRC-32 of a message: its remainder, with initial and final complement. -/
noncomputable def standardCrc32 (bytes : List UInt8) : (ZMod 2)[X] :=
  (X ^ (8 * bytes.length) * ofWord (0xffffffff : BitVec 32) + X ^ 32 * messagePolynomial bytes) %ₘ
    crc32Generator + ofWord (0xffffffff : BitVec 32)

/-- Equality up to multiples of the generator. -/
noncomputable abbrev residue := AdjoinRoot.mk crc32Generator

/-! ### The register as a remainder -/

lemma shiftCrc32_eq (crc32 : BitVec 32) :
  shiftCrc32 crc32 = (crc32 >>> 1) ^^^ if crc32.getLsbD 0 then crc32Polynomial else 0 := by
  have hbit : crc32 &&& 1 = BitVec.setWidth 32 (.ofBool (crc32.getLsbD 0)) :=
    BitVec.and_one_eq_setWidth_ofBool_getLsbD
  simp only [shiftCrc32, hbit]
  cases crc32.getLsbD 0 <;> rfl

lemma reflected_crc32Polynomial : reflected crc32Polynomial = ofWord (0x04c11db7 : BitVec 32) :=
  congrArg ofWord (by decide +kernel)

lemma mk_shiftCrc32 (crc32 : BitVec 32) : residue (reflected (shiftCrc32 crc32)) =
  residue (X * reflected crc32) := by
  rw [AdjoinRoot.mk_eq_mk, X_mul_reflected, shiftCrc32_eq, reflected_xor]
  cases crc32.getLsbD 0 with
  | false => simp [reflected_zero]
  | true =>
    rw [if_pos rfl, if_pos rfl, add_sub_add_left_eq_sub, CharTwo.sub_eq_add, add_comm,
      reflected_crc32Polynomial]
    rfl

lemma mk_updateCrc32 (crc32 : BitVec 32) (byte : UInt8) :
    residue (reflected (updateCrc32 crc32 byte)) =
      residue (X ^ 8 * reflected crc32 + X ^ 32 * reflected byte.toBitVec) := by
  have hiterate : ∀ n word, residue (reflected (shiftCrc32^[n] word)) =
    residue (X ^ n * reflected word) := by
    intro n _
    induction n with
    | zero => simp
    | succ n ih =>
      rw [Function.iterate_succ_apply', mk_shiftCrc32, map_mul, ih, ← map_mul, pow_succ', mul_assoc]
  rw [updateCrc32, hiterate, reflected_xor, reflected_setWidth byte.toBitVec 24, mul_add,
    ← mul_assoc, ← pow_add]

lemma mk_updateCrc32Bytes (crc32 : BitVec 32) (bytes : List UInt8) :
  residue (reflected (updateCrc32Bytes crc32 bytes)) =
    residue (X ^ (8 * bytes.length) * reflected crc32 + X ^ 32 * messagePolynomial bytes) := by
  induction bytes generalizing crc32 with
  | nil => simp [updateCrc32Bytes, messagePolynomial]
  | cons byte bytes ih =>
    rw [updateCrc32Bytes, List.foldl_cons, ← updateCrc32Bytes, ih, map_add, map_mul, mk_updateCrc32,
      ← map_mul, ← map_add, messagePolynomial, List.length_cons]
    generalize reflected crc32 = r, reflected byte.toBitVec = b, messagePolynomial bytes = m
    exact congrArg residue (by ring)

lemma crc32_eq_remainder (bytes : List UInt8) :
  reflected (finalizeCrc32 (updateCrc32Bytes crc32Initial bytes)) = standardCrc32 bytes := by
  have hones : reflected crc32Initial = ofWord (0xffffffff : BitVec 32) :=
    congrArg ofWord (by decide +kernel)
  have hlow : (ofWord (0x04c11db7 : BitVec 32)).degree < 32 := by
    rw [← reflected_crc32Polynomial]
    exact degree_reflected_lt _
  have hmonic : crc32Generator.Monic := monic_X_pow_add hlow
  obtain ⟨q, hq⟩ := AdjoinRoot.mk_eq_mk.1 (mk_updateCrc32Bytes crc32Initial bytes)
  have hnot : ∀ word, finalizeCrc32 word = word ^^^ crc32Initial := fun word =>
    BitVec.xor_allOnes.symm
  rw [standardCrc32, ← hones, hnot, reflected_xor]
  refine congrArg (· + reflected crc32Initial)
    (div_modByMonic_unique (-q) _ hmonic ⟨by rw [mul_neg, ← hq]; ring, ?_⟩).2.symm
  rw [crc32Generator, degree_add_eq_left_of_degree_lt (by rwa [degree_X_pow]), degree_X_pow]
  exact degree_reflected_lt _

/-! ### Changes of one byte -/

lemma shiftCrc32_injective : Function.Injective shiftCrc32 := by
  intro a b h
  have htop : ∀ word, (shiftCrc32 word).getLsbD 31 = word.getLsbD 0 := by
    intro word
    rw [shiftCrc32_eq, BitVec.getLsbD_xor, BitVec.getLsbD_ushiftRight,
      word.getLsbD_of_ge _ (by decide)]
    cases word.getLsbD 0 <;> rfl
  have hlow : a.getLsbD 0 = b.getLsbD 0 := by rw [← htop, h, htop]
  rw [shiftCrc32_eq, shiftCrc32_eq, hlow, BitVec.xor_left_inj] at h
  refine BitVec.eq_of_getLsbD_eq fun i _ => ?_
  cases i with
  | zero => exact hlow
  | succ i => simpa [Nat.add_comm] using congrArg (BitVec.getLsbD · i) h

lemma updateCrc32Bytes_injective (bytes : List UInt8) :
  Function.Injective (updateCrc32Bytes · bytes) := by
  induction bytes with
  | nil => exact Function.injective_id
  | cons _ _ ih =>
    intro a b h
    exact (BitVec.xor_left_inj _).1 (shiftCrc32_injective.iterate 8 (ih h))

lemma updateCrc32Bytes_set_ne (h : bytes[i]? = some byte) (hne : byte' ≠ byte) :
  updateCrc32Bytes crc32 (bytes.set i byte') ≠ updateCrc32Bytes crc32 bytes := by
  induction bytes generalizing i crc32 with
  | nil => cases h
  | cons _ bytes ih =>
    cases i with
    | succ i => exact ih h
    | zero =>
      cases h
      intro hsame
      have hword := (BitVec.xor_right_inj _).1
        (shiftCrc32_injective.iterate 8 (updateCrc32Bytes_injective bytes hsame))
      refine hne (UInt8.toBitVec_inj.1 ?_)
      simpa using congrArg (BitVec.setWidth 8) hword

lemma fromBytes_lt (bytes : List UInt8) : fromBytes bytes < 256 ^ bytes.length := by
  induction bytes with
  | nil => exact Nat.one_pos
  | cons byte _ _ =>
    have hbyte := byte.toNat_lt
    rw [fromBytes, length_cons, Nat.pow_succ]
    omega

lemma fromBytes_set_ne (h : bytes[i]? = some byte) (hne : byte' ≠ byte) :
  fromBytes (bytes.set i byte') ≠ fromBytes bytes := by
  induction bytes generalizing i with
  | nil => cases h
  | cons _ _ ih =>
    cases i with
    | succ i =>
      have hrest := ih h
      rw [set_cons_succ, fromBytes, fromBytes]
      omega
    | zero =>
      cases h
      intro hsame
      refine hne (UInt8.toNat_inj.1 ?_)
      rw [set_cons_zero, fromBytes, fromBytes] at hsame
      omega

/-- The header with zeros for its checksum. -/
def clearCrcField (bytes : List UInt8) : List UInt8 :=
  bytes.take 16 ++ replicate 4 0 ++ bytes.drop 20

/-- What the checksum of the header reads at a position. -/
def headerByte (i : ℕ) (byte : UInt8) : UInt8 := if 16 ≤ i ∧ i < 20 then 0 else byte

lemma calculateHeaderCrc32_eq (sector : List UInt8) (headerSize : ℕ) :
    calculateHeaderCrc32 sector headerSize =
      finalizeCrc32
        (updateCrc32Bytes crc32Initial ((sector.take headerSize).mapIdx headerByte)) := by
  rw [calculateHeaderCrc32, updateCrc32Bytes, mapIdx_eq_zipIdx_map, foldl_map]
  rfl

lemma mapIdx_headerByte (h : 20 ≤ bytes.length) :
  bytes.mapIdx headerByte = clearCrcField bytes := by
  refine ext_getElem? fun i => ?_
  have hlen : (bytes.take 16).length = 16 := by
    rw [length_take]
    omega
  rw [getElem?_mapIdx, clearCrcField, append_assoc, getElem?_append, getElem?_append, hlen,
    length_replicate, getElem?_take, getElem?_drop, getElem?_replicate]
  by_cases hfield : 16 ≤ i ∧ i < 20
  · rw [getElem?_eq_getElem (by omega), Option.map_some, headerByte, if_pos hfield,
      if_neg (by omega), if_pos (by omega), if_pos (by omega)]
  have hkeep : headerByte i = id := funext fun byte => if_neg hfield
  rw [hkeep, Option.map_id_fun, id]
  split_ifs with hlow hmid
  · rfl
  · omega
  · rw [show 20 + (i - 16 - 4) = i by omega]

lemma fromBytes_take_lt (bytes : List UInt8) : fromBytes (bytes.take 4) < 2 ^ 32 :=
  Nat.lt_of_lt_of_le (fromBytes_lt _)
    (Nat.pow_le_pow_right (by decide : 0 < 256) (length_take_le 4 bytes))

lemma calculateHeaderCrc32_set_ne
    (h : calculateHeaderCrc32 bytes headerSize = fromBytes ((bytes.drop 16).take 4))
    (hi : i < headerSize) (hget : bytes[i]? = some byte) (hne : byte' ≠ byte) :
    calculateHeaderCrc32 (bytes.set i byte') headerSize ≠
      fromBytes (((bytes.set i byte').drop 16).take 4) := by
  have htake : ((bytes.take headerSize).mapIdx headerByte)[i]? = some (headerByte i byte) := by
    rw [getElem?_mapIdx, getElem?_take_of_lt hi, hget]
    rfl
  rw [calculateHeaderCrc32_eq] at h ⊢
  rw [take_set, mapIdx_set, drop_set]
  by_cases hfield : 16 ≤ i ∧ i < 20
  · have hzero : headerByte i byte' = headerByte i byte := by
      rw [headerByte, headerByte, if_pos hfield, if_pos hfield]
    obtain ⟨_, hself⟩ := List.getElem?_eq_some_iff.1 htake
    rw [hzero, ← hself, set_getElem_self, h, if_neg (by omega)]
    have hstored : ((bytes.drop 16).take 4)[i - 16]? = some byte := by
      rw [getElem?_take_of_lt (by omega), getElem?_drop, Nat.add_sub_cancel' hfield.1, hget]
    intro hsame
    have hnat := congrArg BitVec.toNat hsame
    rw [BitVec.natCast_eq_ofNat, BitVec.natCast_eq_ofNat, BitVec.toNat_ofNat, BitVec.toNat_ofNat,
      Nat.mod_eq_of_lt (fromBytes_take_lt _), Nat.mod_eq_of_lt (fromBytes_take_lt _),
      take_set] at hnat
    exact fromBytes_set_ne hstored hne hnat.symm
  have hstored : (if i < 16 then bytes.drop 16 else
    (bytes.drop 16).set (i - 16) byte').take 4 = (bytes.drop 16).take 4 := by
    split
    · rfl
    · rw [take_set, set_eq_of_length_le]
      rw [length_take]
      omega
  rw [hstored, ← h]
  intro hsame
  refine updateCrc32Bytes_set_ne htake ?_ (BitVec.not_inj.1 hsame)
  rwa [headerByte, headerByte, if_neg hfield, if_neg hfield]

lemma inspectHeader_set {sector sector' : Sector} (h : inspectHeader sector ≠ none)
  (hbytes : sector'.bytes = sector.bytes.set i byte')
  (hsize : sector'.readLe 4 12 = sector.readLe 4 12) (hi : i < sector.readLe 4 12)
  (hget : sector.bytes[i]? = some byte) (hne : byte' ≠ byte) : inspectHeader sector' = none := by
  have hcrc : calculateHeaderCrc32 sector.bytes (sector.readLe 4 12) = sector.readLe 4 16 := by
    by_contra hbad
    refine h ?_
    simp only [inspectHeader, if_pos hbad, ite_self]
  have hdiff := calculateHeaderCrc32_set_ne hcrc hi hget hne
  rw [← hbytes] at hdiff
  have hdiff : calculateHeaderCrc32 sector'.bytes (sector.readLe 4 12) ≠ sector'.readLe 4 16 :=
    hdiff
  simp only [inspectHeader, hsize, if_pos hdiff, ite_self]

/-- **The checksum is the reflected CRC-32**, however the bytes are split, and for a header that of
its bytes with zeros for the stored checksum.  **A change of one byte of an array or of an accepted
header is detected.** -/
theorem crc32_standard :
    (∀ (chunks : List (List UInt8)) (crc32 : BitVec 32),
      finalizeCrc32 (chunks.foldl updateCrc32Bytes crc32Initial) = crc32 ↔
        reflected crc32 = standardCrc32 chunks.flatten) ∧
    (∀ (sector : List UInt8) (headerSize : ℕ),
      20 ≤ headerSize →
      headerSize ≤ sector.length →
      reflected (calculateHeaderCrc32 sector headerSize) =
        standardCrc32 (clearCrcField (sector.take headerSize))) ∧
    (∀ (bytes : List UInt8) (i : ℕ) (byte byte' : UInt8),
      bytes[i]? = some byte →
      byte' ≠ byte →
      finalizeCrc32 (updateCrc32Bytes crc32Initial (bytes.set i byte')) ≠
        finalizeCrc32 (updateCrc32Bytes crc32Initial bytes)) ∧
    ∀ (sector sector' : Sector) (i : ℕ) (byte byte' : UInt8),
      inspectHeader sector ≠ none →
      sector'.bytes = sector.bytes.set i byte' →
      sector'.readLe 4 12 = sector.readLe 4 12 →
      i < sector.readLe 4 12 →
      sector.bytes[i]? = some byte →
      byte' ≠ byte →
      inspectHeader sector' = none := by
  refine ⟨fun chunks crc32 => ?_,
    fun sector headerSize hlow hhigh => ?_, fun bytes i byte byte' hget hne hsame => ?_, fun sector
    sector' i byte byte' h hbytes hsize hi hget hne => inspectHeader_set h hbytes hsize hi hget hne⟩
  · have hchunks : chunks.foldl updateCrc32Bytes crc32Initial =
      updateCrc32Bytes crc32Initial chunks.flatten := foldl_flatten.symm
    rw [hchunks, ← crc32_eq_remainder, eq_comm, reflected_injective.eq_iff]
  · rw [calculateHeaderCrc32_eq, mapIdx_headerByte (by rw [length_take]; omega), crc32_eq_remainder]
  · exact updateCrc32Bytes_set_ne hget hne (BitVec.not_inj.1 hsame)

end ManaOS
