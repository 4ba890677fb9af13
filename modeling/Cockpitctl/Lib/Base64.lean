import Mathlib.Data.Char
import Mathlib.Data.List.Basic

/-!
# Base64

The encoding of bytes by characters of an alphabet of 64, three bytes to a group of four; the last
group is padded. An encoding is canonical: the bits that no byte fills are zero.

## Main definitions

* `Base64.digit`, `Base64.value?`: the alphabet
* `Base64.encode`, `Base64.decode`: encode bytes, and read an encoding

## Main results

* `Base64.decode_eq_some_iff`: a text is read as the bytes of which it is the encoding
* `Base64.mem_encode`: the characters of an encoding
* `Base64.length_lt_length_encode`: an encoding is longer than its bytes
-/

namespace Base64

/-- The character of six bits. -/
def digit (n : ℕ) : Char :=
  if n < 26 then Char.ofNat (n + 65)
  else if n < 52 then Char.ofNat (n + 71)
  else if n < 62 then Char.ofNat (n - 4)
  else if n = 62 then '+'
  else '/'

/-- The six bits of a character. -/
def value? (c : Char) : Option ℕ :=
  if 65 ≤ c.toNat ∧ c.toNat ≤ 90 then some (c.toNat - 65)
  else if 97 ≤ c.toNat ∧ c.toNat ≤ 122 then some (c.toNat - 71)
  else if 48 ≤ c.toNat ∧ c.toNat ≤ 57 then some (c.toNat + 4)
  else if c = '+' then some 62
  else if c = '/' then some 63
  else none

/-- Encode bytes. -/
def encode : List UInt8 → List Char
  | [] => []
  | [a] => [digit (a.toNat / 4), digit (a.toNat % 4 * 16), '=', '=']
  | [a, b] => [digit (a.toNat / 4), digit (a.toNat % 4 * 16 + b.toNat / 16),
      digit (b.toNat % 16 * 4), '=']
  | a :: b :: c :: bs =>
    digit (a.toNat / 4) :: digit (a.toNat % 4 * 16 + b.toNat / 16) ::
      digit (b.toNat % 16 * 4 + c.toNat / 64) :: digit (c.toNat % 64) :: encode bs

/-- Read a padded group. -/
def decodePadded (w x y : Char) : Option (List UInt8) :=
  (value? w).bind fun w => (value? x).bind fun x =>
    if y = '=' then if x % 16 = 0 then some [UInt8.ofNat (w * 4 + x / 16)] else none
    else (value? y).bind fun y =>
      if y % 4 = 0 then
        some [UInt8.ofNat (w * 4 + x / 16), UInt8.ofNat (x % 16 * 16 + y / 4)]
      else none

/-- Read a group. -/
def decodeGroup (w x y z : Char) : Option (List UInt8) :=
  (value? w).bind fun w => (value? x).bind fun x => (value? y).bind fun y => (value? z).map fun z =>
    [UInt8.ofNat (w * 4 + x / 16), UInt8.ofNat (x % 16 * 16 + y / 4), UInt8.ofNat (y % 4 * 64 + z)]

/-- Read an encoding. -/
def decode : List Char → Option (List UInt8)
  | [] => some []
  | w :: x :: y :: z :: cs =>
    if z = '=' then if cs = [] then decodePadded w x y else none
    else (decodeGroup w x y z).bind fun bs => (decode cs).map (bs ++ ·)
  | _ => none

/-! ## The alphabet -/

theorem value?_digit {n : ℕ} (h : n < 64) : value? (digit n) = some n := by
  revert n
  decide +kernel

/-- A character stands for its bits alone. -/
theorem digit_of_value? {c : Char} {n : ℕ} (h : value? c = some n) : digit n = c ∧ n < 64 := by
  unfold value? at h
  split_ifs at h with hupper hlower hnumeral hplus hslash
  · obtain rfl := Option.some.inj h
    unfold digit
    rw [if_pos (by omega), Nat.sub_add_cancel hupper.1, Char.ofNat_toNat]
    exact ⟨rfl, by omega⟩
  · obtain rfl := Option.some.inj h
    unfold digit
    rw [if_neg (by omega), if_pos (by omega), Nat.sub_add_cancel (by omega), Char.ofNat_toNat]
    exact ⟨rfl, by omega⟩
  · obtain rfl := Option.some.inj h
    unfold digit
    rw [if_neg (by omega), if_neg (by omega), if_pos (by omega), Nat.add_sub_cancel,
      Char.ofNat_toNat]
    exact ⟨rfl, by omega⟩
  · obtain rfl := Option.some.inj h
    exact ⟨hplus.symm, by decide⟩
  · obtain rfl := Option.some.inj h
    exact ⟨hslash.symm, by decide⟩

theorem digit_ne_pad {n : ℕ} (h : n < 64) : digit n ≠ '=' := by
  intro hpad
  have hvalue := value?_digit h
  rw [hpad] at hvalue
  cases hvalue

/-! ## One group -/

theorem ofNat_eq {n : ℕ} (a : UInt8) (h : n = a.toNat) : UInt8.ofNat n = a := by
  rw [h, UInt8.ofNat_toNat]

theorem decodeGroup_digit (a b c : UInt8) : decodeGroup (digit (a.toNat / 4))
    (digit (a.toNat % 4 * 16 + b.toNat / 16)) (digit (b.toNat % 16 * 4 + c.toNat / 64))
    (digit (c.toNat % 64)) = some [a, b, c] := by
  have ha := a.toNat_lt
  have hb := b.toNat_lt
  have hc := c.toNat_lt
  unfold decodeGroup
  rw [value?_digit (by omega), value?_digit (by omega), value?_digit (by omega),
    value?_digit (by omega)]
  show some [_, _, _] = _
  rw [ofNat_eq a (by omega), ofNat_eq b (by omega), ofNat_eq c (by omega)]

theorem decodePadded_digit (a : UInt8) : decodePadded (digit (a.toNat / 4))
    (digit (a.toNat % 4 * 16)) '=' = some [a] := by
  have ha := a.toNat_lt
  unfold decodePadded
  rw [value?_digit (by omega), value?_digit (by omega)]
  rw [Option.bind_some, Option.bind_some, if_pos rfl, if_pos (by omega), ofNat_eq a (by omega)]

theorem decodePadded_digits (a b : UInt8) : decodePadded (digit (a.toNat / 4))
    (digit (a.toNat % 4 * 16 + b.toNat / 16)) (digit (b.toNat % 16 * 4)) = some [a, b] := by
  have ha := a.toNat_lt
  have hb := b.toNat_lt
  unfold decodePadded
  rw [value?_digit (by omega), value?_digit (by omega), value?_digit (by omega)]
  show (if _ then _ else if _ then some [_, _] else none) = _
  rw [if_neg (digit_ne_pad (by omega)), if_pos (by omega), ofNat_eq a (by omega),
    ofNat_eq b (by omega)]

/-- A group that is read is the encoding of its bytes. -/
theorem encode_of_decodeGroup {w x y z : Char} {group : List UInt8}
    (h : decodeGroup w x y z = some group) (bs : List UInt8) :
    encode (group ++ bs) = w :: x :: y :: z :: encode bs := by
  unfold decodeGroup at h
  simp only [Option.bind_eq_some_iff, Option.map_eq_some_iff] at h
  obtain ⟨k, hk, l, hl, m, hm, n, hn, rfl⟩ := h
  obtain ⟨rfl, hk⟩ := digit_of_value? hk
  obtain ⟨rfl, hl⟩ := digit_of_value? hl
  obtain ⟨rfl, hm⟩ := digit_of_value? hm
  obtain ⟨rfl, hn⟩ := digit_of_value? hn
  have ha : (UInt8.ofNat (k * 4 + l / 16)).toNat = k * 4 + l / 16 :=
    UInt8.toNat_ofNat_of_lt' (by change _ < 256; omega)
  have hb : (UInt8.ofNat (l % 16 * 16 + m / 4)).toNat = l % 16 * 16 + m / 4 :=
    UInt8.toNat_ofNat_of_lt' (by change _ < 256; omega)
  have hc : (UInt8.ofNat (m % 4 * 64 + n)).toNat = m % 4 * 64 + n :=
    UInt8.toNat_ofNat_of_lt' (by change _ < 256; omega)
  show digit _ :: digit _ :: digit _ :: digit _ :: encode bs = _
  rw [ha, hb, hc, show (k * 4 + l / 16) / 4 = k by omega,
    show (k * 4 + l / 16) % 4 * 16 + (l % 16 * 16 + m / 4) / 16 = l by omega,
    show (l % 16 * 16 + m / 4) % 16 * 4 + (m % 4 * 64 + n) / 64 = m by omega,
    show (m % 4 * 64 + n) % 64 = n by omega]

/-- A padded group that is read is the encoding of its bytes. -/
theorem encode_of_decodePadded {w x y : Char} {bs : List UInt8}
    (h : decodePadded w x y = some bs) : encode bs = [w, x, y, '='] := by
  unfold decodePadded at h
  simp only [Option.bind_eq_some_iff] at h
  obtain ⟨k, hk, l, hl, h⟩ := h
  obtain ⟨rfl, hk⟩ := digit_of_value? hk
  obtain ⟨rfl, hl⟩ := digit_of_value? hl
  have ha : (UInt8.ofNat (k * 4 + l / 16)).toNat = k * 4 + l / 16 :=
    UInt8.toNat_ofNat_of_lt' (by change _ < 256; omega)
  split_ifs at h with hpad hzero
  · obtain rfl := Option.some.inj h
    obtain rfl := hpad
    show [digit _, digit _, '=', '='] = _
    rw [ha, show (k * 4 + l / 16) / 4 = k by omega,
      show (k * 4 + l / 16) % 4 * 16 = l by omega]
  · obtain ⟨m, hm, h⟩ := Option.bind_eq_some_iff.mp h
    split_ifs at h with hzero
    obtain rfl := Option.some.inj h
    obtain ⟨rfl, hm⟩ := digit_of_value? hm
    have hb : (UInt8.ofNat (l % 16 * 16 + m / 4)).toNat = l % 16 * 16 + m / 4 :=
      UInt8.toNat_ofNat_of_lt' (by change _ < 256; omega)
    show [digit _, digit _, digit _, '='] = _
    rw [ha, hb, show (k * 4 + l / 16) / 4 = k by omega,
      show (k * 4 + l / 16) % 4 * 16 + (l % 16 * 16 + m / 4) / 16 = l by omega,
      show (l % 16 * 16 + m / 4) % 16 * 4 = m by omega]

/-! ## Texts -/

/-- **What is encoded** is read back. -/
theorem decode_encode (bs : List UInt8) : decode (encode bs) = some bs := by
  induction bs using encode.induct with
  | case1 => rfl
  | case2 a => exact decodePadded_digit a
  | case3 a b => exact decodePadded_digits a b
  | case4 a b c bs ih =>
    have hc := c.toNat_lt
    unfold encode decode
    rw [if_neg (digit_ne_pad (by omega)), decodeGroup_digit, ih]
    rfl

/-- **What is read** is what was encoded. -/
theorem encode_of_decode {cs : List Char} {bs : List UInt8} (h : decode cs = some bs) :
    encode bs = cs := by
  induction cs using decode.induct generalizing bs with
  | case1 =>
    obtain rfl := Option.some.inj h
    rfl
  | case2 w x y => exact encode_of_decodePadded h
  | case3 w x y cs hcs =>
    unfold decode at h
    rw [if_pos rfl, if_neg hcs] at h
    cases h
  | case4 w x y z cs hz ih =>
    unfold decode at h
    rw [if_neg hz] at h
    obtain ⟨group, hgroup, hrest⟩ := Option.bind_eq_some_iff.mp h
    obtain ⟨bs', hbs', rfl⟩ := Option.map_eq_some_iff.mp hrest
    rw [encode_of_decodeGroup hgroup, ih hbs']
  | case5 cs hnil hgroups =>
    unfold decode at h
    split at h
    · exact absurd rfl hnil
    · exact absurd rfl (hgroups _ _ _ _ _)
    · cases h

/-- **A text is read** as the bytes of which it is the encoding. -/
theorem decode_eq_some_iff {cs : List Char} {bs : List UInt8} :
    decode cs = some bs ↔ cs = encode bs := by
  constructor
  · exact fun h => (encode_of_decode h).symm
  · rintro rfl
    exact decode_encode bs

/-- Different bytes have different encodings. -/
theorem encode_injective : Function.Injective encode := by
  intro bs bs' h
  have hread := decode_encode bs
  rw [h, decode_encode] at hread
  exact (Option.some.inj hread).symm

/-- **The characters of an encoding** are those of the alphabet, and the padding. -/
theorem mem_encode {bs : List UInt8} {ch : Char} (h : ch ∈ encode bs) :
    ch = '=' ∨ ∃ n < 64, ch = digit n := by
  induction bs using encode.induct with
  | case1 => cases h
  | case2 a =>
    have ha := a.toNat_lt
    simp only [encode, List.mem_cons, List.not_mem_nil, or_false] at h
    rcases h with rfl | rfl | h | h
    · exact Or.inr ⟨_, by omega, rfl⟩
    · exact Or.inr ⟨_, by omega, rfl⟩
    · exact Or.inl h
    · exact Or.inl h
  | case3 a b =>
    have ha := a.toNat_lt
    have hb := b.toNat_lt
    simp only [encode, List.mem_cons, List.not_mem_nil, or_false] at h
    rcases h with rfl | rfl | rfl | h
    · exact Or.inr ⟨_, by omega, rfl⟩
    · exact Or.inr ⟨_, by omega, rfl⟩
    · exact Or.inr ⟨_, by omega, rfl⟩
    · exact Or.inl h
  | case4 a b c bs ih =>
    have ha := a.toNat_lt
    have hb := b.toNat_lt
    have hc := c.toNat_lt
    simp only [encode, List.mem_cons] at h
    rcases h with rfl | rfl | rfl | rfl | h
    · exact Or.inr ⟨_, by omega, rfl⟩
    · exact Or.inr ⟨_, by omega, rfl⟩
    · exact Or.inr ⟨_, by omega, rfl⟩
    · exact Or.inr ⟨_, by omega, rfl⟩
    · exact ih h

/-- **An encoding is longer** than its bytes. -/
theorem length_lt_length_encode {bs : List UInt8} (h : bs ≠ []) :
    bs.length < (encode bs).length := by
  induction bs using encode.induct with
  | case1 => exact absurd rfl h
  | case2 a => simp [encode]
  | case3 a b => simp [encode]
  | case4 a b c bs ih =>
    rw [encode]
    rcases eq_or_ne bs [] with rfl | hbs
    · simp [encode]
    · have hlt := ih hbs
      simp only [List.length_cons]
      omega

end Base64
