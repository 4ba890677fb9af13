import Cockpitctl.Domain.Signing

/-!
# The steps of the keyed hash

The keyed hash is written by hand: a key is copied into a block of zeros, the block is combined in
place with two pads, and two hashers are fed in turn. Copies and indices that are out of bounds end
the program. They never are, and the steps compute the formula of the keyed hash, for every key.

## Main definitions

* `Hasher`: a hash that is fed in parts
* `Hmac.copyFromSlice`, `Hmac.keyBlockOf`, `Hmac.xorLoop`, `Hmac.hmacSha256`: the steps
* `Hmac.blockKey`, `Hmac.formula`: the key of a block, and the formula

## Main results

* `Hmac.xorLoop_eq`: the loop combines both pads with the whole block
* `Hmac.hmacSha256_eq_formula`: the steps compute the formula
* `Hmac.toList_formula`: the formula is the one that policies are signed with
-/

namespace Cockpitctl

/-- A hash that is fed in parts: what it was fed so far. -/
structure Hasher where
  absorbed : Bytes := []

/-- Feed a part. -/
def Hasher.update (h : Hasher) (bytes : Bytes) : Hasher := ⟨h.absorbed ++ bytes⟩

/-- The hash of the parts. -/
def Hasher.finalize (sha256 : Bytes → Vector UInt8 32) (h : Hasher) : Vector UInt8 32 :=
  sha256 h.absorbed

namespace Hmac

/-- Copy bytes over the first ones of an array, which has to have as many. -/
def copyFromSlice {n : ℕ} (dst : Vector UInt8 n) (stop : ℕ) (src : Bytes) :
    Option (Vector UInt8 n) :=
  if h : stop ≤ n ∧ src.length = stop then
    some ⟨(src ++ dst.toList.drop stop).toArray, by simp [h.2]; omega⟩
  else none

/-- Combine a byte of an array with another byte. -/
def xorAt {n : ℕ} (v : Vector UInt8 n) (i : ℕ) (b : UInt8) : Option (Vector UInt8 n) :=
  if h : i < n then some (v.set i (v[i] ^^^ b)) else none

/-- One pass of the loop: a byte of both pads. -/
def xorStep {n : ℕ} (keyBlock : Vector UInt8 n) (pads : Vector UInt8 n × Vector UInt8 n)
    (i : ℕ) : Option (Vector UInt8 n × Vector UInt8 n) := do
  let ipad ← xorAt pads.1 i (← keyBlock[i]?)
  let opad ← xorAt pads.2 i (← keyBlock[i]?)
  return (ipad, opad)

/-- The loop over the block. -/
def xorLoop {n : ℕ} (keyBlock : Vector UInt8 n) (pads : Vector UInt8 n × Vector UInt8 n) :
    Option (Vector UInt8 n × Vector UInt8 n) :=
  (List.range n).foldlM (xorStep keyBlock) pads

/-- The block of a key: zeros with the key, or with its hash when it is too long, copied over. -/
def keyBlockOf (sha256 : Bytes → Vector UInt8 32) (key : Bytes) :
    Option (Vector UInt8 hmacBlock) :=
  if key.length > hmacBlock then
    copyFromSlice (.replicate hmacBlock 0) 32 (sha256 key).toList
  else copyFromSlice (.replicate hmacBlock 0) key.length key

/-- The keyed hash of a message, step by step; nothing when the program ends on the way. -/
def hmacSha256 (sha256 : Bytes → Vector UInt8 32) (key message : Bytes) :
    Option (Vector UInt8 32) := do
  let keyBlock ← keyBlockOf sha256 key
  let (ipad, opad) ← xorLoop keyBlock (.replicate hmacBlock 0x36, .replicate hmacBlock 0x5c)
  let inner := ({} : Hasher).update ipad.toList
  let innerDigest := (inner.update message).finalize sha256
  let outer := ({} : Hasher).update opad.toList
  let digest := (outer.update innerDigest.toList).finalize sha256
  copyFromSlice (.replicate 32 0) 32 digest.toList

/-! ## The formula -/

/-- The key of a block: the key itself, or its hash when it is longer than a block, padded with
zeros. -/
def blockKey (sha256 : Bytes → Vector UInt8 32) (key : Bytes) : Bytes :=
  padBlock (if hmacBlock < key.length then (sha256 key).toList else key)

/-- Combine bytes with those of a pad. -/
def xorPad (bytes : Bytes) (pad : UInt8) : Bytes :=
  List.zipWith (· ^^^ ·) bytes (List.replicate hmacBlock pad)

/-- The formula of the keyed hash. -/
def formula (sha256 : Bytes → Vector UInt8 32) (key message : Bytes) : Vector UInt8 32 :=
  let keyBlock := blockKey sha256 key
  sha256 (xorPad keyBlock 0x5c ++ (sha256 (xorPad keyBlock 0x36 ++ message)).toList)

/-! ## The steps -/

section Steps

variable {n : ℕ} {keyBlock v : Vector UInt8 n} {stop : ℕ} {src : Bytes}

/-- A copy within bounds leaves what stands behind it. -/
theorem copyFromSlice_of_le (dst : Vector UInt8 n) (hstop : stop ≤ n)
    (hlength : src.length = stop) :
    ∃ v, copyFromSlice dst stop src = some v ∧ v.toList = src ++ dst.toList.drop stop := by
  refine ⟨_, dif_pos ⟨hstop, hlength⟩, ?_⟩
  simp [Vector.toList]

/-- The bytes before a place combined with those of the block. -/
def xored (keyBlock v : Vector UInt8 n) (k : ℕ) : Vector UInt8 n :=
  .ofFn fun j => if j < k then v[j] ^^^ keyBlock[j] else v[j]

theorem getElem_xored {k j : ℕ} (hj : j < n) :
    (xored keyBlock v k)[j] = if j < k then v[j] ^^^ keyBlock[j] else v[j] := by
  simp [xored]

theorem xored_zero : xored keyBlock v 0 = v := by
  ext j hj
  rw [getElem_xored hj, if_neg (Nat.not_lt_zero j)]

/-- Combining the next byte. -/
theorem xorAt_xored {k : ℕ} (hk : k < n) :
    xorAt (xored keyBlock v k) k keyBlock[k] = some (xored keyBlock v (k + 1)) := by
  rw [xorAt, dif_pos hk]
  congr 1
  ext j hj
  rw [Vector.getElem_set, getElem_xored hj, getElem_xored hj, getElem_xored hk,
    if_neg (lt_irrefl k)]
  by_cases hkj : k = j
  · subst hkj
    rw [if_pos rfl, if_pos (Nat.lt_succ_self k)]
  · have hlt : j < k + 1 ↔ j < k := by omega
    rw [if_neg hkj]
    simp only [hlt]

/-- **The loop combines both pads** with the whole block. -/
theorem xorLoop_eq (ipad opad : Vector UInt8 n) :
    xorLoop keyBlock (ipad, opad) = some (xored keyBlock ipad n, xored keyBlock opad n) := by
  -- After `k` passes, the first `k` bytes of both pads are combined.
  have hpasses : ∀ k ≤ n, (List.range k).foldlM (xorStep keyBlock) (ipad, opad) =
      some (xored keyBlock ipad k, xored keyBlock opad k) := by
    intro k hk
    induction k with
    | zero =>
      rw [xored_zero, xored_zero]
      rfl
    | succ k ih =>
      have hlt : k < n := hk
      rw [List.range_succ, List.foldlM_append, ih hlt.le]
      simp [xorStep, xorAt_xored hlt, Vector.getElem?_eq_getElem hlt]
  exact hpasses n le_rfl

theorem toList_xored (keyBlock : Vector UInt8 hmacBlock) (pad : UInt8) :
    (xored keyBlock (.replicate hmacBlock pad) hmacBlock).toList = xorPad keyBlock.toList pad := by
  refine List.ext_getElem ?_ fun j hj _ => ?_
  · simp [xorPad]
  · have hlt : j < hmacBlock := by simpa using hj
    simp [xorPad, getElem_xored hlt, hlt, UInt8.xor_comm]

end Steps

/-- The block of a key is there, whatever its length. -/
theorem exists_keyBlock (sha256 : Bytes → Vector UInt8 32) (key : Bytes) :
    ∃ keyBlock, keyBlockOf sha256 key = some keyBlock ∧
      keyBlock.toList = blockKey sha256 key := by
  unfold keyBlockOf blockKey padBlock
  split_ifs with hlong
  · have hhash : (sha256 key).toList.length = 32 := Vector.length_toList
    obtain ⟨v, hv, htoList⟩ := copyFromSlice_of_le (.replicate hmacBlock 0)
      (by decide : 32 ≤ hmacBlock) hhash
    refine ⟨v, hv, ?_⟩
    rw [htoList, hhash, Vector.toList_replicate, List.drop_replicate]
  · obtain ⟨v, hv, htoList⟩ := copyFromSlice_of_le (.replicate hmacBlock 0)
      (not_lt.mp hlong) rfl
    refine ⟨v, hv, ?_⟩
    rw [htoList, Vector.toList_replicate, List.drop_replicate]

/-- Copying a digest over an array of its length. -/
theorem copyFromSlice_digest (digest : Vector UInt8 32) :
    copyFromSlice (.replicate 32 0) 32 digest.toList = some digest := by
  obtain ⟨v, hv, htoList⟩ := copyFromSlice_of_le (.replicate 32 0) le_rfl
    (Vector.length_toList : digest.toList.length = 32)
  rw [Vector.toList_replicate, List.drop_replicate, Nat.sub_self, List.replicate_zero,
    List.append_nil, Vector.toList_inj] at htoList
  rw [hv, htoList]

/-- **The steps compute the formula** of the keyed hash, whatever the length of the key, and no copy
is out of bounds. -/
theorem hmacSha256_eq_formula (sha256 : Bytes → Vector UInt8 32) (key message : Bytes) :
    hmacSha256 sha256 key message = some (formula sha256 key message) := by
  obtain ⟨keyBlock, hkey, hblock⟩ := exists_keyBlock sha256 key
  rw [hmacSha256, hkey, Option.bind_eq_bind, Option.bind_some, xorLoop_eq,
    Option.bind_eq_bind, Option.bind_some]
  -- The hashers were fed the pads and what follows them.
  simp only [Hasher.update, Hasher.finalize, List.nil_append, toList_xored, hblock,
    copyFromSlice_digest]
  rfl

/-! ## Signing -/

/-- A block is combined with a pad byte by byte. -/
theorem xorPad_of_length {bytes : Bytes} (h : bytes.length = hmacBlock) (pad : UInt8) :
    xorPad bytes pad = bytes.map (pad ^^^ ·) := by
  refine List.ext_getElem (by simp [xorPad, h]) fun j hj _ => ?_
  simp [xorPad, UInt8.xor_comm]

/-- **The formula** is the one that policies are signed with. -/
theorem toList_formula (sha256 : Bytes → Vector UInt8 32) (key message : Bytes) :
    (formula sha256 key message).toList =
      Cockpitctl.hmacSha256 (fun bytes => (sha256 bytes).toList) key message := by
  obtain ⟨keyBlock, -, hblock⟩ := exists_keyBlock sha256 key
  have hlength : (blockKey sha256 key).length = hmacBlock := by
    rw [← hblock, Vector.length_toList]
  rw [formula, xorPad_of_length hlength, xorPad_of_length hlength]
  rfl

end Hmac

end Cockpitctl
