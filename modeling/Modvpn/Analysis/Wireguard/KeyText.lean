/-
# A key has one text

On characters below 256 the branch-free readers agree with the tables of the two
alphabets. What `toBase64` writes is then the only text of such characters that
`fromBase64` reads as that key, and `fromHex` reads what `toHex` writes, in upper or
lower case. Wider characters are another matter: every key is also read from a text
that has none of the digits in it.
-/

import Modvpn.Arithmetic.Words
import Modvpn.Wireguard.Key

namespace Modvpn.Wireguard

open Java Words

/-! ## Characters and code units -/

/-- Each character fits in a byte. -/
def Narrow (text : String) : Prop := ∀ c ∈ text.toList, c.toNat < 256

theorem narrow_of_all {text : String} (h : (text.toList.all fun c => c.toNat < 256) = true) :
    Narrow text := by
  intro c hc
  simpa using List.all_eq_true.mp h c hc

theorem codeUnits_of_lt {c : Char} (h : c.toNat < 256) : codeUnits c = [BitVec.ofNat 16 c.toNat] := by
  rw [codeUnits, if_pos (by omega)]

theorem flatMap_codeUnits {chars : List Char} (h : ∀ c ∈ chars, c.toNat < 256) :
    chars.flatMap codeUnits = chars.map fun c => BitVec.ofNat 16 c.toNat := by
  induction chars with
  | nil => rfl
  | cons c chars ih =>
      rw [List.flatMap_cons, codeUnits_of_lt (h c (List.mem_cons_self ..)),
        ih fun other hother => h other (List.mem_cons_of_mem _ hother)]
      rfl

theorem toCharArray_of_narrow {text : String} (h : Narrow text) :
    toCharArray text = text.toList.map fun c => BitVec.ofNat 16 c.toNat :=
  flatMap_codeUnits h

theorem toNat_ofNat {n : Nat} (h : n < 256) : (Char.ofNat n).toNat = n := by
  have hvalid : n.isValidChar := .inl (by omega)
  rw [Char.ofNat, dif_pos hvalid]
  rfl

theorem toCharArray_ofCharArray {units : List JavaChar} (h : ∀ unit ∈ units, unit.toNat < 256) :
    toCharArray (ofCharArray units) = units := by
  have hback : ∀ unit ∈ units, BitVec.ofNat 16 (Char.ofNat unit.toNat).toNat = unit := by
    intro unit hunit
    rw [toNat_ofNat (h unit hunit), BitVec.ofNat_toNat, BitVec.setWidth_eq]
  rw [toCharArray, ofCharArray, String.toList_ofList, flatMap_codeUnits]
  · rw [List.map_map]
    exact (List.map_congr_left hback).trans (List.map_id' units)
  · intro c hc
    obtain ⟨unit, hunit, rfl⟩ := List.mem_map.mp hc
    rw [toNat_ofNat (h unit hunit)]
    exact h unit hunit

/-- A narrow text is what its code units spell. -/
theorem ofCharArray_toCharArray {text : String} (h : Narrow text) :
    ofCharArray (toCharArray text) = text := by
  have hback : ∀ c ∈ text.toList, Char.ofNat (BitVec.ofNat 16 c.toNat).toNat = c := by
    intro c hc
    have hlt : c.toNat < 65536 := by
      have := h c hc
      omega
    rw [BitVec.toNat_ofNat, Nat.mod_eq_of_lt hlt, Char.ofNat_toNat]
  rw [toCharArray_of_narrow h, ofCharArray, List.map_map]
  calc String.ofList (text.toList.map _)
      = String.ofList (text.toList.map id) := congrArg _ (List.map_congr_left hback)
    _ = text := by rw [List.map_id, String.ofList_toList]

namespace Key

/-! ## The base64 alphabet -/

/-- The value of a character, by the table of the alphabet. -/
def base64Value (c : Nat) : Option Nat :=
  if 65 ≤ c ∧ c ≤ 90 then some (c - 65)
  else if 97 ≤ c ∧ c ≤ 122 then some (c - 71)
  else if 48 ≤ c ∧ c ≤ 57 then some (c + 4)
  else if c = 43 then some 62
  else if c = 47 then some 63
  else none

/-- The character of a value, by the same table. -/
def base64Code (d : Nat) : Nat :=
  if d < 26 then d + 65 else if d < 52 then d + 71 else if d < 62 then d - 4
  else if d = 62 then 43 else 47

theorem base64Value_eq_some {c d : Nat} :
    base64Value c = some d ↔ d < 64 ∧ base64Code d = c := by
  unfold base64Value base64Code
  split_ifs <;> simp <;> omega

theorem select_of_lt {low high : Char} {c : Nat} {offset : JavaInt} (hlow : 0 < low.toNat)
    (hhigh : high.toNat < 255) (hrange : low.toNat ≤ high.toNat) (hc : c < 256)
    (hoffset : low.toNat ≤ c → offset.toNat < 16777216) :
    select low high (BitVec.ofNat 32 c) offset =
      if low.toNat ≤ c ∧ c ≤ high.toNat then offset else 0 := by
  have hbelow : code low - 1 = BitVec.ofNat 32 (low.toNat - 1) := by
    apply BitVec.eq_of_toNat_eq
    bv_omega
  have habove : code high + 1 = BitVec.ofNat 32 (high.toNat + 1) := by
    apply BitVec.eq_of_toNat_eq
    bv_omega
  rw [select, hbelow, habove,
    mask_between (by omega) (by omega) hc fun hlt => hoffset (by omega)]
  have hiff : low.toNat - 1 < c ∧ c < high.toNat + 1 ↔ low.toNat ≤ c ∧ c ≤ high.toNat := by omega
  simp only [hiff]

theorem sextet_of_lt {c : Nat} (hc : c < 256) :
    sextet (BitVec.ofNat 32 c) = ((base64Value c).map (BitVec.ofNat 32)).getD (-1) := by
  have hupper : select 'A' 'Z' (BitVec.ofNat 32 c) (BitVec.ofNat 32 c - 64) =
      if 65 ≤ c ∧ c ≤ 90 then BitVec.ofNat 32 c - 64 else 0 :=
    select_of_lt (by decide) (by decide) (by decide) hc fun (h : 65 ≤ c) => by bv_omega
  have hlower : select 'a' 'z' (BitVec.ofNat 32 c) (BitVec.ofNat 32 c - 70) =
      if 97 ≤ c ∧ c ≤ 122 then BitVec.ofNat 32 c - 70 else 0 :=
    select_of_lt (by decide) (by decide) (by decide) hc fun (h : 97 ≤ c) => by bv_omega
  have hdigit : select '0' '9' (BitVec.ofNat 32 c) (BitVec.ofNat 32 c + 5) =
      if 48 ≤ c ∧ c ≤ 57 then BitVec.ofNat 32 c + 5 else 0 :=
    select_of_lt (by decide) (by decide) (by decide) hc fun (h : 48 ≤ c) => by bv_omega
  have hplus : select '+' '+' (BitVec.ofNat 32 c) 63 = if 43 ≤ c ∧ c ≤ 43 then 63 else 0 :=
    select_of_lt (by decide) (by decide) (by decide) hc fun _ => by decide
  have hslash : select '/' '/' (BitVec.ofNat 32 c) 64 = if 47 ≤ c ∧ c ≤ 47 then 64 else 0 :=
    select_of_lt (by decide) (by decide) (by decide) hc fun _ => by decide
  rw [sextet, hupper, hlower, hdigit, hplus, hslash]
  unfold base64Value
  split_ifs <;> first | omega | skip
  all_goals
    simp only [Option.map_some, Option.getD_some, Option.map_none, Option.getD_none]
    bv_omega

theorem letter_of_lt {d : Nat} (hd : d < 64) :
    letter (BitVec.ofNat 8 d) = BitVec.ofNat 16 (base64Code d) := by
  have hinput : ofByte (BitVec.ofNat 8 d) = BitVec.ofNat 32 d := by
    apply BitVec.eq_of_toNat_eq
    rw [ofByte, BitVec.signExtend_eq_setWidth_of_msb_false]
    · simp
      omega
    · rw [BitVec.msb_eq_decide]
      simp
      omega
  have hbeyond (bound : Nat) (hbound : bound < 256) {offset : JavaInt}
      (hoffset : offset.toNat < 16777216) :
      beyond (BitVec.ofNat 32 bound) (BitVec.ofNat 32 d) offset = if bound < d then offset else 0 :=
    mask_sub hbound (by omega) hoffset
  have hlower : beyond 25 (BitVec.ofNat 32 d) 6 = if 25 < d then 6 else 0 :=
    hbeyond 25 (by decide) (by decide)
  have hdigit : beyond 51 (BitVec.ofNat 32 d) 75 = if 51 < d then 75 else 0 :=
    hbeyond 51 (by decide) (by decide)
  have hplus : beyond 61 (BitVec.ofNat 32 d) 15 = if 61 < d then 15 else 0 :=
    hbeyond 61 (by decide) (by decide)
  have hslash : beyond 62 (BitVec.ofNat 32 d) 3 = if 62 < d then 3 else 0 :=
    hbeyond 62 (by decide) (by decide)
  rw [letter, hinput, hlower, hdigit, hplus, hslash]
  unfold base64Code
  apply BitVec.eq_of_toNat_eq
  split_ifs <;> first | omega | skip
  all_goals simp [code]
  all_goals bv_omega

/-! ## Segments of four characters -/

/-- The value of a segment. -/
def segmentValue (d₀ d₁ d₂ d₃ : Nat) : Nat := d₀ * 262144 + d₁ * 4096 + d₂ * 64 + d₃

theorem lt_of_base64Value {c d : Nat} (h : base64Value c = some d) : c < 256 ∧ d < 64 := by
  unfold base64Value at h
  split_ifs at h <;> simp only [Option.some.injEq] at h <;> omega

theorem ofChar_eq (c : JavaChar) : ofChar c = BitVec.ofNat 32 c.toNat := by
  apply BitVec.eq_of_toNat_eq
  bv_omega

theorem toNat_sextet {c : JavaChar} {d : Nat} (h : base64Value c.toNat = some d) :
    (sextet (ofChar c)).toNat = d := by
  obtain ⟨hc, hd⟩ := lt_of_base64Value h
  rw [ofChar_eq, sextet_of_lt hc, h]
  simp
  omega

theorem sextet_eq_neg_one {c : JavaChar} (hc : c.toNat < 256) (h : base64Value c.toNat = none) :
    sextet (ofChar c) = -1 := by
  rw [ofChar_eq, sextet_of_lt hc, h]
  rfl

/-- The character is read as the value. -/
def Reads (c : JavaChar) (d : Nat) : Prop := (sextet (ofChar c)).toNat = d ∧ d < 64

theorem reads_of_base64Value {c : JavaChar} {d : Nat} (h : base64Value c.toNat = some d) :
    Reads c d :=
  ⟨toNat_sextet h, (lt_of_base64Value h).2⟩

theorem toNat_decodeBase64 {c₀ c₁ c₂ c₃ : JavaChar} {d₀ d₁ d₂ d₃ : Nat} (h₀ : Reads c₀ d₀)
    (h₁ : Reads c₁ d₁) (h₂ : Reads c₂ d₂) (h₃ : Reads c₃ d₃) :
    (decodeBase64 c₀ c₁ c₂ c₃).toNat = segmentValue d₀ d₁ d₂ d₃ := by
  have hd₀ := h₀.2
  have hd₁ := h₁.2
  have hd₂ := h₂.2
  have hd₃ := h₃.2
  have hshift {d k : Nat} (hd : d * 2 ^ k < 2 ^ 32) : d <<< k % 2 ^ 32 = d * 2 ^ k := by
    rw [Nat.shiftLeft_eq, Nat.mod_eq_of_lt hd]
  -- the digits lie beside each other, so joining them is adding them
  have hfirst : d₀ * 2 ^ 18 ||| d₁ * 2 ^ 12 = (d₀ * 64 + d₁) * 2 ^ 12 := by
    rw [or_eq_add (by omega)]
    omega
  have hsecond : (d₀ * 64 + d₁) * 2 ^ 12 ||| d₂ * 2 ^ 6 = ((d₀ * 64 + d₁) * 64 + d₂) * 2 ^ 6 := by
    rw [or_eq_add (by omega)]
    omega
  have hthird : ((d₀ * 64 + d₁) * 64 + d₂) * 2 ^ 6 ||| d₃ * 2 ^ 0 = segmentValue d₀ d₁ d₂ d₃ := by
    rw [or_eq_add (by omega), segmentValue]
    omega
  simp only [decodeBase64, BitVec.toNat_or, BitVec.toNat_shiftLeft, h₀.1, h₁.1, h₂.1, h₃.1]
  rw [hshift (by omega), hshift (by omega), hshift (by omega), hshift (by omega), hfirst, hsecond,
    hthird]

/-- A character outside of the alphabet sets the sign. -/
theorem msb_decodeBase64 {c₀ c₁ c₂ c₃ : JavaChar} (h₀ : c₀.toNat < 256) (h₁ : c₁.toNat < 256)
    (h₂ : c₂.toNat < 256) (h₃ : c₃.toNat < 256)
    (h : base64Value c₀.toNat = none ∨ base64Value c₁.toNat = none ∨
      base64Value c₂.toNat = none ∨ base64Value c₃.toNat = none) :
    (decodeBase64 c₀ c₁ c₂ c₃).msb = true := by
  unfold decodeBase64
  rw [BitVec.msb_or, BitVec.msb_or, BitVec.msb_or]
  rcases h with h | h | h | h
  · rw [sextet_eq_neg_one h₀ h, show ((-1 : JavaInt) <<< 18).msb = true by decide]
    simp
  · rw [sextet_eq_neg_one h₁ h, show ((-1 : JavaInt) <<< 12).msb = true by decide]
    simp
  · rw [sextet_eq_neg_one h₂ h, show ((-1 : JavaInt) <<< 6).msb = true by decide]
    simp
  · rw [sextet_eq_neg_one h₃ h, show ((-1 : JavaInt) <<< 0).msb = true by decide]
    simp

theorem ushiftRight_msb (val : JavaInt) : val >>> 31 = 0 ↔ val.msb = false := by
  rw [BitVec.msb_eq_decide, decide_eq_false_iff_not, ← BitVec.toNat_inj, BitVec.toNat_ushiftRight,
    Nat.shiftRight_eq_div_pow]
  have hbound := val.isLt
  have hzero : (0 : JavaInt).toNat = 0 := rfl
  rw [hzero]
  omega

/-! ## Bytes of a segment -/

theorem toNat_toByte (val : JavaInt) (k : Nat) :
    (toByte ((val >>> k) &&& 0xff)).toNat = val.toNat / 2 ^ k % 256 := by
  have hmask : (0xff : JavaInt).toNat = 2 ^ 8 - 1 := rfl
  rw [toByte, BitVec.toNat_setWidth, BitVec.toNat_and, hmask, Nat.and_two_pow_sub_one_eq_mod,
    BitVec.toNat_ushiftRight, Nat.shiftRight_eq_div_pow]
  omega

theorem toNat_toByte_zero (val : JavaInt) : (toByte (val &&& 0xff)).toNat = val.toNat % 256 := by
  have h := toNat_toByte val 0
  simpa using h

theorem toNat_ofByte (b : JavaByte) :
    (ofByte b).toNat = if b.toNat < 128 then b.toNat else b.toNat + 4294967040 := by
  have hb := b.isLt
  rw [ofByte, BitVec.toNat_signExtend, BitVec.toNat_setWidth, BitVec.msb_eq_decide]
  split <;> split <;> simp_all <;> omega

theorem toNat_and_63 (val : JavaInt) : (val &&& 63).toNat = val.toNat % 64 := by
  have hmask : (63 : JavaInt).toNat = 2 ^ 6 - 1 := rfl
  rw [BitVec.toNat_and, hmask, Nat.and_two_pow_sub_one_eq_mod]

/-- The low bits of one byte before the high bits of the next, cut to six. -/
theorem toNat_join (b c : JavaByte) {k : Nat} (hk : k = 2 ∨ k = 4) :
    ((ofByte b <<< k ||| ((ofByte c &&& 0xff) >>> (8 - k))) &&& 63).toNat =
      (b.toNat * 2 ^ k + c.toNat / 2 ^ (8 - k)) % 64 := by
  have hmask : (0xff : JavaInt).toNat = 2 ^ 8 - 1 := rfl
  have hk8 : k ≤ 8 := by omega
  have hb := b.isLt
  have hc := c.isLt
  have hlow : (ofByte c).toNat % 2 ^ 8 = c.toNat := by
    rw [toNat_ofByte]
    split <;> omega
  have hsmall : c.toNat / 2 ^ (8 - k) < 2 ^ k := by
    apply Nat.div_lt_of_lt_mul
    rwa [← Nat.pow_add, Nat.sub_add_cancel hk8]
  have hhigh : (ofByte b).toNat <<< k % 2 ^ 32 = ((ofByte b).toNat % 2 ^ (32 - k)) * 2 ^ k := by
    rw [Nat.shiftLeft_eq, ← Nat.mul_mod_mul_right, ← Nat.pow_add, Nat.sub_add_cancel (by omega)]
  rw [toNat_and_63, BitVec.toNat_or, BitVec.toNat_shiftLeft, BitVec.toNat_ushiftRight,
    BitVec.toNat_and, hmask, Nat.and_two_pow_sub_one_eq_mod, hlow, hhigh,
    Nat.shiftRight_eq_div_pow, or_eq_add hsmall, toNat_ofByte]
  rcases hk with rfl | rfl
  · split <;> omega
  · split <;> omega

theorem letter_toByte {val : JavaInt} {d : Nat} (h : val.toNat = d) (hd : d < 64) :
    letter (toByte val) = BitVec.ofNat 16 (base64Code d) := by
  have hval : toByte val = BitVec.ofNat 8 d := by
    apply BitVec.eq_of_toNat_eq
    rw [toByte, BitVec.toNat_setWidth, h, BitVec.toNat_ofNat]
  rw [hval, letter_of_lt hd]

/-- The values of the characters that three bytes are written with. -/
theorem encodeBase64_eq (b₀ b₁ b₂ : JavaByte) :
    encodeBase64 b₀ b₁ b₂ =
      [b₀.toNat / 4, b₀.toNat % 4 * 16 + b₁.toNat / 16, b₁.toNat % 16 * 4 + b₂.toNat / 64,
        b₂.toNat % 64].map fun d => BitVec.ofNat 16 (base64Code d) := by
  have h₀ := b₀.isLt
  have h₁ := b₁.isLt
  have h₂ := b₂.isLt
  have hfirst : ((ofByte b₀ >>> 2) &&& 63).toNat = b₀.toNat / 4 := by
    rw [toNat_and_63, BitVec.toNat_ushiftRight, Nat.shiftRight_eq_div_pow, toNat_ofByte]
    split <;> omega
  have hsecond := toNat_join b₀ b₁ (k := 4) (by decide)
  have hthird := toNat_join b₁ b₂ (k := 2) (by decide)
  have hfourth : (ofByte b₂ &&& 63).toNat = b₂.toNat % 64 := by
    rw [toNat_and_63, toNat_ofByte]
    split <;> omega
  simp only [encodeBase64, List.map_cons, List.map_nil]
  rw [letter_toByte hfirst (by omega), letter_toByte hsecond (by omega),
    letter_toByte hthird (by omega), letter_toByte hfourth (by omega)]
  congr 3
  · congr 2
    omega
  · congr 3
    omega

/-! ## The loops -/

/-- Bytes with the value of a segment. -/
theorem ofNat_segment {d₀ d₁ d₂ d₃ : Nat} (h₀ : d₀ < 64) (h₁ : d₁ < 64) (h₂ : d₂ < 64)
    (h₃ : d₃ < 64) {b₀ b₁ b₂ : JavaByte}
    (hb₀ : b₀.toNat = segmentValue d₀ d₁ d₂ d₃ / 2 ^ 16 % 256)
    (hb₁ : b₁.toNat = segmentValue d₀ d₁ d₂ d₃ / 2 ^ 8 % 256)
    (hb₂ : b₂.toNat = segmentValue d₀ d₁ d₂ d₃ % 256) :
    b₀.toNat / 4 = d₀ ∧ b₀.toNat % 4 * 16 + b₁.toNat / 16 = d₁ ∧
      b₁.toNat % 16 * 4 + b₂.toNat / 64 = d₂ ∧ b₂.toNat % 64 = d₃ := by
  unfold segmentValue at *
  omega

/-- The value of a character that was written. -/
theorem base64Value_code {d : Nat} (hd : d < 64) :
    base64Value (BitVec.ofNat 16 (base64Code d)).toNat = some d := by
  have hcode : base64Code d < 256 := by
    unfold base64Code
    split_ifs <;> omega
  rw [BitVec.toNat_ofNat, Nat.mod_eq_of_lt (by omega)]
  exact base64Value_eq_some.mpr ⟨hd, rfl⟩

theorem toByte_of_toNat {val : JavaInt} {b₀ b₁ b₂ : JavaByte}
    (h : val.toNat = b₀.toNat * 65536 + b₁.toNat * 256 + b₂.toNat) :
    toByte ((val >>> 16) &&& 0xff) = b₀ ∧ toByte ((val >>> 8) &&& 0xff) = b₁ ∧
      toByte (val &&& 0xff) = b₂ ∧ val >>> 31 = 0 := by
  have h₀ := b₀.isLt
  have h₁ := b₁.isLt
  have h₂ := b₂.isLt
  refine ⟨BitVec.eq_of_toNat_eq ?_, BitVec.eq_of_toNat_eq ?_, BitVec.eq_of_toNat_eq ?_, ?_⟩
  · rw [toNat_toByte]
    omega
  · rw [toNat_toByte]
    omega
  · rw [toNat_toByte_zero]
    omega
  · rw [ushiftRight_msb, BitVec.msb_eq_decide, decide_eq_false_iff_not]
    omega

/-- The values that bytes are written with. -/
def values : Nat → List JavaByte → List Nat
  | 0, b₀ :: b₁ :: _ =>
      [b₀.toNat / 4, b₀.toNat % 4 * 16 + b₁.toNat / 16, b₁.toNat % 16 * 4]
  | segments + 1, b₀ :: b₁ :: b₂ :: key =>
      [b₀.toNat / 4, b₀.toNat % 4 * 16 + b₁.toNat / 16, b₁.toNat % 16 * 4 + b₂.toNat / 64,
        b₂.toNat % 64] ++ values segments key
  | _, _ => []

theorem values_lt (segments : Nat) (key : List JavaByte) : ∀ d ∈ values segments key, d < 64 := by
  induction segments generalizing key with
  | zero =>
      intro d hd
      match key, hd with
      | b₀ :: b₁ :: _, hd =>
          have h₀ := b₀.isLt
          have h₁ := b₁.isLt
          simp only [values, List.mem_cons, List.not_mem_nil, or_false] at hd
          omega
  | succ segments ih =>
      intro d hd
      match key, hd with
      | b₀ :: b₁ :: b₂ :: key, hd =>
          have h₀ := b₀.isLt
          have h₁ := b₁.isLt
          have h₂ := b₂.isLt
          rcases List.mem_append.mp hd with hd | hd
          · simp only [List.mem_cons, List.not_mem_nil, or_false] at hd
            omega
          · exact ih key d hd

theorem length_values (segments : Nat) (key : List JavaByte) (h : key.length = 3 * segments + 2) :
    (values segments key).length = 4 * segments + 3 := by
  induction segments generalizing key with
  | zero =>
      match key, h with
      | [_, _], _ => rfl
  | succ segments ih =>
      match key, h with
      | b₀ :: b₁ :: b₂ :: key, h =>
          have hrest : key.length = 3 * segments + 2 := by simpa [Nat.mul_succ] using h
          rw [values, List.length_append, ih key hrest]
          simp
          omega

/-- What is written are letters of the alphabet before one `=`. -/
theorem writeSegments_eq (segments : Nat) (key : List JavaByte)
    (h : key.length = 3 * segments + 2) : writeSegments segments key =
      (values segments key).map (fun d => BitVec.ofNat 16 (base64Code d)) ++
        [toChar (code '=')] := by
  induction segments generalizing key with
  | zero =>
      match key, h with
      | [b₀, b₁], _ =>
          rw [writeSegments, encodeBase64_eq]
          rfl
  | succ segments ih =>
      match key, h with
      | b₀ :: b₁ :: b₂ :: key, h =>
          have hrest : key.length = 3 * segments + 2 := by simpa [Nat.mul_succ] using h
          rw [writeSegments, encodeBase64_eq, ih key hrest, values, List.map_append,
            List.append_assoc]

theorem exists_cons_of_length {α : Type} {xs : List α} {n : Nat} (h : xs.length = n + 1) :
    ∃ x rest, xs = x :: rest ∧ rest.length = n := by
  cases xs with
  | nil => simp at h
  | cons x rest => exact ⟨x, rest, rfl, by simpa using h⟩

/-- The values of the bytes are read back, whichever characters spell them. -/
theorem readSegments_map {spell : Nat → JavaChar} (hspell : ∀ d < 64, Reads (spell d) d)
    (segments : Nat) (key : List JavaByte) (h : key.length = 3 * segments + 2) :
    readSegments segments ((values segments key).map spell ++ [toChar (code '=')]) = (key, 0) := by
  induction segments generalizing key with
  | zero =>
      obtain ⟨b₀, key, rfl, hkey⟩ := exists_cons_of_length h
      obtain ⟨b₁, key, rfl, hnil⟩ := exists_cons_of_length hkey
      obtain rfl := List.length_eq_zero_iff.mp hnil
      have h₀ := b₀.isLt
      have h₁ := b₁.isLt
      -- in the place of the missing character stands `A`
      have hval := toNat_decodeBase64 (hspell (b₀.toNat / 4) (by omega))
        (hspell (b₀.toNat % 4 * 16 + b₁.toNat / 16) (by omega))
        (hspell (b₁.toNat % 16 * 4) (by omega))
        (reads_of_base64Value (c := toChar (code 'A')) (d := 0) rfl)
      have hbytes : segmentValue (b₀.toNat / 4) (b₀.toNat % 4 * 16 + b₁.toNat / 16)
          (b₁.toNat % 16 * 4) 0 = b₀.toNat * 65536 + b₁.toNat * 256 + (0 : JavaByte).toNat := by
        have hzero : (0 : JavaByte).toNat = 0 := rfl
        rw [segmentValue, hzero]
        omega
      rw [hbytes] at hval
      obtain ⟨hfirst, hsecond, hthird, hsign⟩ := toByte_of_toNat hval
      have hrest := congrArg BitVec.toNat hthird
      rw [toNat_toByte_zero] at hrest
      have hlow : (decodeBase64 (spell (b₀.toNat / 4))
          (spell (b₀.toNat % 4 * 16 + b₁.toNat / 16)) (spell (b₁.toNat % 16 * 4))
          (toChar (code 'A'))) &&& 0xff = 0 := by
        apply BitVec.eq_of_toNat_eq
        have hmask : (0xff : JavaInt).toNat = 2 ^ 8 - 1 := rfl
        rw [BitVec.toNat_and, hmask, Nat.and_two_pow_sub_one_eq_mod]
        exact hrest
      simp only [values, List.map_cons, List.map_nil, List.cons_append, List.nil_append,
        readSegments]
      rw [hfirst, hsecond, hsign, hlow]
      rfl
  | succ segments ih =>
      obtain ⟨b₀, key, rfl, hfirst⟩ := exists_cons_of_length h
      obtain ⟨b₁, key, rfl, hsecond⟩ := exists_cons_of_length hfirst
      obtain ⟨b₂, key, rfl, hrest⟩ := exists_cons_of_length hsecond
      have h₀ := b₀.isLt
      have h₁ := b₁.isLt
      have h₂ := b₂.isLt
      have hrest : key.length = 3 * segments + 2 := hrest
      have hval := toNat_decodeBase64 (hspell (b₀.toNat / 4) (by omega))
        (hspell (b₀.toNat % 4 * 16 + b₁.toNat / 16) (by omega))
        (hspell (b₁.toNat % 16 * 4 + b₂.toNat / 64) (by omega))
        (hspell (b₂.toNat % 64) (by omega))
      have hbytes : segmentValue (b₀.toNat / 4) (b₀.toNat % 4 * 16 + b₁.toNat / 16)
          (b₁.toNat % 16 * 4 + b₂.toNat / 64) (b₂.toNat % 64) =
            b₀.toNat * 65536 + b₁.toNat * 256 + b₂.toNat := by
        rw [segmentValue]
        omega
      rw [hbytes] at hval
      obtain ⟨hfirst, hsecond, hthird, hsign⟩ := toByte_of_toNat hval
      simp only [values, List.map_cons, List.cons_append, List.nil_append, readSegments,
        ih key hrest]
      rw [hfirst, hsecond, hthird, hsign]
      rfl

/-- Characters that are read without an error are the ones that are written. -/
theorem encodeBase64_decodeBase64 {c₀ c₁ c₂ c₃ : JavaChar} (h₀ : c₀.toNat < 256)
    (h₁ : c₁.toNat < 256) (h₂ : c₂.toNat < 256) (h₃ : c₃.toNat < 256) {val : JavaInt}
    (hval : decodeBase64 c₀ c₁ c₂ c₃ = val) (hsign : val >>> 31 = 0) :
    encodeBase64 (toByte ((val >>> 16) &&& 0xff)) (toByte ((val >>> 8) &&& 0xff))
      (toByte (val &&& 0xff)) = [c₀, c₁, c₂, c₃] := by
  have hvalid : ¬ (base64Value c₀.toNat = none ∨ base64Value c₁.toNat = none ∨
      base64Value c₂.toNat = none ∨ base64Value c₃.toNat = none) := by
    intro h
    have hmsb := msb_decodeBase64 h₀ h₁ h₂ h₃ h
    rw [hval, (ushiftRight_msb val).mp hsign] at hmsb
    cases hmsb
  simp only [not_or, ← ne_eq, Option.ne_none_iff_exists'] at hvalid
  obtain ⟨⟨d₀, hd₀⟩, ⟨d₁, hd₁⟩, ⟨d₂, hd₂⟩, ⟨d₃, hd₃⟩⟩ := hvalid
  have hsegment := toNat_decodeBase64 (reads_of_base64Value hd₀) (reads_of_base64Value hd₁)
    (reads_of_base64Value hd₂) (reads_of_base64Value hd₃)
  rw [hval] at hsegment
  obtain ⟨e₀, e₁, e₂, e₃⟩ := ofNat_segment (lt_of_base64Value hd₀).2 (lt_of_base64Value hd₁).2
    (lt_of_base64Value hd₂).2 (lt_of_base64Value hd₃).2
    (show (toByte ((val >>> 16) &&& 0xff)).toNat = _ by rw [toNat_toByte, hsegment])
    (show (toByte ((val >>> 8) &&& 0xff)).toNat = _ by rw [toNat_toByte, hsegment])
    (show (toByte (val &&& 0xff)).toNat = _ by rw [toNat_toByte_zero, hsegment])
  have hcode {c : JavaChar} {d : Nat} (h : base64Value c.toNat = some d) :
      BitVec.ofNat 16 (base64Code d) = c := by
    rw [(base64Value_eq_some.mp h).2, BitVec.ofNat_toNat, BitVec.setWidth_eq]
  rw [encodeBase64_eq, e₀, e₁, e₂, e₃]
  simp only [List.map_cons, List.map_nil, hcode hd₀, hcode hd₁, hcode hd₂, hcode hd₃]

/-- What is read without an error is what the bytes are written as. -/
theorem writeSegments_readSegments (segments : Nat) (input : List JavaChar)
    (hlength : input.length = 4 * segments + 4) (hlast : input.getLast? = some (toChar (code '=')))
    (hnarrow : ∀ c ∈ input, c.toNat < 256) (h : (readSegments segments input).2 = 0) :
    writeSegments segments (readSegments segments input).1 = input := by
  induction segments generalizing input with
  | zero =>
      obtain ⟨c₀, input, rfl, hfirst⟩ := exists_cons_of_length hlength
      obtain ⟨c₁, input, rfl, hsecond⟩ := exists_cons_of_length hfirst
      obtain ⟨c₂, input, rfl, hthird⟩ := exists_cons_of_length hsecond
      obtain ⟨c₃, input, rfl, hnil⟩ := exists_cons_of_length hthird
      obtain rfl := List.length_eq_zero_iff.mp hnil
      have hc₃ : c₃ = toChar (code '=') := by simpa using hlast
      simp only [List.mem_cons, List.not_mem_nil, or_false, forall_eq_or_imp, forall_eq] at hnarrow
      obtain ⟨h₀, h₁, h₂, -⟩ := hnarrow
      obtain ⟨hsign, hlow⟩ := BitVec.or_eq_zero_iff.mp h
      have hencoded := encodeBase64_decodeBase64 h₀ h₁ h₂ (by decide) rfl hsign
      rw [hlow] at hencoded
      simp only [readSegments, writeSegments]
      rw [show (0 : JavaByte) = toByte 0#32 from rfl, hencoded, hc₃]
      rfl
  | succ segments ih =>
      obtain ⟨c₀, input, rfl, hfirst⟩ := exists_cons_of_length hlength
      obtain ⟨c₁, input, rfl, hsecond⟩ := exists_cons_of_length hfirst
      obtain ⟨c₂, input, rfl, hthird⟩ := exists_cons_of_length hsecond
      obtain ⟨c₃, input, rfl, hrest⟩ := exists_cons_of_length hthird
      have hrest : input.length = 4 * segments + 4 := hrest
      have hnonempty : input ≠ [] := by
        intro hnil
        rw [hnil] at hrest
        simp at hrest
      have hlast' : input.getLast? = some (toChar (code '=')) := by
        obtain ⟨c, rest, rfl⟩ := List.exists_cons_of_ne_nil hnonempty
        simpa [List.getLast?_cons_cons] using hlast
      obtain ⟨hsign, hret⟩ := BitVec.or_eq_zero_iff.mp h
      have hencoded := encodeBase64_decodeBase64 (hnarrow c₀ (by simp)) (hnarrow c₁ (by simp))
        (hnarrow c₂ (by simp)) (hnarrow c₃ (by simp)) rfl hsign
      have htail := ih input hrest hlast' (fun c hc => hnarrow c (by simp [hc])) hret
      simp only [readSegments, writeSegments, hencoded, htail, List.cons_append, List.nil_append]

/-! ## Base64 text -/

/-- Letters, digits, `+`, `/` and `=`. -/
def IsBase64Char (c : Nat) : Prop :=
  48 ≤ c ∧ c ≤ 57 ∨ 65 ≤ c ∧ c ≤ 90 ∨ 97 ≤ c ∧ c ≤ 122 ∨ c = 43 ∨ c = 47 ∨ c = 61

theorem isBase64Char_code {d : Nat} (hd : d < 64) : IsBase64Char (base64Code d) := by
  unfold base64Code IsBase64Char
  split_ifs <;> omega

theorem isBase64Char_of_mem {segments : Nat} {key : List JavaByte}
    (h : key.length = 3 * segments + 2) {c : JavaChar} (hc : c ∈ writeSegments segments key) :
    IsBase64Char c.toNat := by
  rw [writeSegments_eq segments key h] at hc
  rcases List.mem_append.mp hc with hc | hc
  · obtain ⟨d, hd, rfl⟩ := List.mem_map.mp hc
    have hchar := isBase64Char_code (values_lt segments key d hd)
    have hlt : base64Code d < 65536 := by
      unfold IsBase64Char at hchar
      omega
    rwa [BitVec.toNat_ofNat, Nat.mod_eq_of_lt hlt]
  · rw [List.mem_singleton.mp hc]
    unfold IsBase64Char
    decide

theorem IsBase64Char.lt {c : Nat} (h : IsBase64Char c) : c < 256 := by
  unfold IsBase64Char at h
  omega

variable (key : Key)

theorem length_bytes_eq : key.bytes.length = 3 * 10 + 2 := key.length_bytes

theorem toCharArray_toBase64 : toCharArray key.toBase64 = writeSegments 10 key.bytes :=
  toCharArray_ofCharArray fun _ hc => (isBase64Char_of_mem key.length_bytes_eq hc).lt

theorem isBase64Char_of_mem_toBase64 {c : Char} (hc : c ∈ key.toBase64.toList) :
    IsBase64Char c.toNat := by
  rw [toBase64, ofCharArray, String.toList_ofList] at hc
  obtain ⟨unit, hunit, rfl⟩ := List.mem_map.mp hc
  have hchar := isBase64Char_of_mem key.length_bytes_eq hunit
  rwa [toNat_ofNat hchar.lt]

/-- When a text is read as this key. -/
theorem fromBase64_eq_ok {str : String} : fromBase64 str = .ok key ↔
    (toCharArray str).length = 44 ∧ (toCharArray str).getLast? = some (toChar (code '=')) ∧
      readSegments 10 (toCharArray str) = (key.bytes, 0) := by
  unfold fromBase64
  dsimp only
  by_cases hlength : (toCharArray str).length ≠ Format.length .base64 ∨
      (toCharArray str).getLast? ≠ some (toChar (code '='))
  · rw [dif_pos hlength]
    constructor
    · intro h
      cases h
    · intro h
      exact absurd hlength (not_or.mpr ⟨not_not.mpr h.1, not_not.mpr h.2.1⟩)
  · rw [dif_neg hlength]
    simp only [not_or, ne_eq, not_not] at hlength
    by_cases hret : (readSegments 10 (toCharArray str)).2 ≠ 0
    · rw [if_pos hret]
      constructor
      · intro h
        cases h
      · intro h
        exact absurd (congrArg Prod.snd h.2.2) hret
    · rw [if_neg hret]
      constructor
      · intro h
        cases h
        exact ⟨hlength.1, hlength.2, Prod.ext rfl (not_not.mp hret)⟩
      · intro h
        congr
        exact congrArg Prod.fst h.2.2

/-- The values of a key are read back from any characters that spell them. -/
theorem fromBase64_map {str : String} {spell : Nat → JavaChar}
    (hspell : ∀ d < 64, Reads (spell d) d)
    (h : toCharArray str = (values 10 key.bytes).map spell ++ [toChar (code '=')]) :
    fromBase64 str = .ok key := by
  rw [fromBase64_eq_ok, h]
  refine ⟨?_, List.getLast?_concat, readSegments_map hspell 10 key.bytes key.length_bytes_eq⟩
  rw [List.length_append, List.length_map, length_values 10 key.bytes key.length_bytes_eq]
  rfl

theorem fromBase64_toBase64 : fromBase64 key.toBase64 = .ok key := by
  apply key.fromBase64_map fun d hd => reads_of_base64Value (base64Value_code hd)
  rw [key.toCharArray_toBase64, writeSegments_eq 10 key.bytes key.length_bytes_eq]

/-- A narrow text is read as a key exactly where it is the one text of that key. -/
theorem fromBase64_iff (str : String) (hstr : Narrow str) :
    fromBase64 str = .ok key ↔ str = key.toBase64 := by
  constructor
  · intro h
    obtain ⟨hlength, hlast, hread⟩ := key.fromBase64_eq_ok.mp h
    have hnarrow : ∀ c ∈ toCharArray str, c.toNat < 256 := by
      intro c hc
      rw [toCharArray_of_narrow hstr] at hc
      obtain ⟨char, hchar, rfl⟩ := List.mem_map.mp hc
      have hlt := hstr char hchar
      rw [BitVec.toNat_ofNat]
      omega
    have hwritten := writeSegments_readSegments 10 (toCharArray str) hlength hlast hnarrow
      (by rw [hread])
    rw [hread] at hwritten
    rw [toBase64, hwritten, ofCharArray_toCharArray hstr]
  · rintro rfl
    exact key.fromBase64_toBase64

/-- A key in whose text there are letters of both cases, digits and both signs. -/
def mixed : Key where
  bytes := [0, 16, 131, 16, 81, 135, 32, 150, 155, 113, 215, 159, 130, 24, 163, 146, 89, 167, 162,
    157, 53, 219, 126, 57, 235, 191, 61, 251, 252, 114, 207, 1]
  length_bytes := rfl

def mixedBase64 : String := "ABCDEFGHIJabcdefghijklmnop0123456789+/xyzwE="

theorem fromBase64_iff_mixed :
    Narrow mixedBase64 ∧ mixedBase64 = mixed.toBase64 ∧
      (fromBase64 mixedBase64 = .ok mixed ↔ mixedBase64 = mixed.toBase64) := by
  have hnarrow : Narrow mixedBase64 := narrow_of_all (by decide)
  exact ⟨hnarrow, by decide +kernel, fromBase64_iff mixed mixedBase64 hnarrow⟩

/-- The code of a letter with the highest bit set. -/
theorem reads_wide : ∀ d < 64, Reads (BitVec.ofNat 16 (32768 + base64Code d)) d := by
  unfold Reads
  decide +kernel

/-- Every key is also read from a text that has no letter of the alphabet in it. -/
theorem exists_wide_fromBase64 :
    ∃ str : String, (∀ c ∈ str.toList, c = '=' ∨ 256 ≤ c.toNat) ∧ fromBase64 str = .ok key := by
  have hcode {d : Nat} (hd : d ∈ values 10 key.bytes) :
      (Char.ofNat (32768 + base64Code d)).toNat = 32768 + base64Code d := by
    have hlt := (isBase64Char_code (values_lt 10 key.bytes d hd)).lt
    have hvalid : (32768 + base64Code d).isValidChar := .inl (by omega)
    rw [Char.ofNat, dif_pos hvalid]
    rfl
  refine ⟨String.ofList ((values 10 key.bytes).map (fun d => Char.ofNat (32768 + base64Code d)) ++
    ['=']), ?_, key.fromBase64_map reads_wide ?_⟩
  · intro c hc
    rw [String.toList_ofList] at hc
    rcases List.mem_append.mp hc with hc | hc
    · obtain ⟨d, hd, rfl⟩ := List.mem_map.mp hc
      right
      rw [hcode hd]
      omega
    · left
      exact List.mem_singleton.mp hc
  · have hunits : ∀ d ∈ values 10 key.bytes, codeUnits (Char.ofNat (32768 + base64Code d)) =
        [BitVec.ofNat 16 (32768 + base64Code d)] := by
      intro d hd
      have hlt := (isBase64Char_code (values_lt 10 key.bytes d hd)).lt
      rw [codeUnits, hcode hd, if_pos (by omega)]
    rw [toCharArray, String.toList_ofList, List.flatMap_append, List.flatMap_map,
      List.map_eq_flatMap, List.flatMap_congr hunits]
    rfl

/-! ## Hexadecimal text -/

/-- The value of a digit, in either case. -/
def hexValue (c : Nat) : Option Nat :=
  if 48 ≤ c ∧ c ≤ 57 then some (c - 48)
  else if 65 ≤ c ∧ c ≤ 70 then some (c - 55)
  else if 97 ≤ c ∧ c ≤ 102 then some (c - 87)
  else none

/-- The digit of a value, in lower case. -/
def hexCode (d : Nat) : Nat := if d < 10 then d + 48 else d + 87

/-- The digit in lower case. -/
def lowerCode (c : Nat) : Nat := if 65 ≤ c ∧ c ≤ 90 then c + 32 else c

theorem nibble_table : ∀ c < 256, if (hexValue c).isSome then
    nibble (BitVec.ofNat 32 c) = (BitVec.ofNat 32 ((hexValue c).getD 0), 0)
    else (nibble (BitVec.ofNat 32 c)).2 ≠ 0 := by decide +kernel

theorem hexDigit_table : ∀ b < 256,
    hexDigit ((ofByte (BitVec.ofNat 8 b)).sshiftRight 4) = BitVec.ofNat 16 (hexCode (b / 16)) ∧
      hexDigit (ofByte (BitVec.ofNat 8 b)) = BitVec.ofNat 16 (hexCode (b % 16)) := by
  decide +kernel

theorem nibble_eq {c : JavaChar} {d : Nat} (hc : c.toNat < 256) (h : hexValue c.toNat = some d) :
    nibble (ofChar c) = (BitVec.ofNat 32 d, 0) := by
  have htable := nibble_table c.toNat hc
  rwa [h, if_pos Option.isSome_some, ← ofChar_eq] at htable

theorem exists_hexValue {c : JavaChar} (hc : c.toNat < 256) (h : (nibble (ofChar c)).2 = 0) :
    ∃ d, hexValue c.toNat = some d := by
  have htable := nibble_table c.toNat hc
  cases hvalue : hexValue c.toNat with
  | some d => exact ⟨d, rfl⟩
  | none =>
      rw [hvalue, if_neg (by simp), ← ofChar_eq] at htable
      exact absurd h htable

theorem hexValue_eq_some {c d : Nat} (h : hexValue c = some d) :
    d < 16 ∧ hexCode d = lowerCode c := by
  unfold hexValue at h
  unfold hexCode lowerCode
  split_ifs at h ⊢ <;> simp only [Option.some.injEq] at h <;> omega

theorem hexValue_of_lowerCode {c d : Nat} (hd : d < 16) (h : lowerCode c = hexCode d) :
    hexValue c = some d := by
  unfold lowerCode hexCode at h
  unfold hexValue
  split_ifs at h ⊢ <;> first | omega | skip
  all_goals
    rw [Option.some.injEq]
    omega

theorem hexCode_lt {d : Nat} (h : d < 16) : hexCode d < 256 := by
  unfold hexCode
  split_ifs <;> omega

/-- The digits of the bytes, by the table. -/
def hexCodes (key : List JavaByte) : List Nat :=
  key.flatMap fun b => [hexCode (b.toNat / 16), hexCode (b.toNat % 16)]

theorem hexCodes_lt {key : List JavaByte} {n : Nat} (h : n ∈ hexCodes key) : n < 256 := by
  obtain ⟨b, -, hn⟩ := List.mem_flatMap.mp h
  have hb := b.isLt
  simp only [List.mem_cons, List.not_mem_nil, or_false] at hn
  rcases hn with rfl | rfl
  · exact hexCode_lt (by omega)
  · exact hexCode_lt (by omega)

theorem toHex_eq (key : Key) :
    key.toHex = ofCharArray ((hexCodes key.bytes).map (BitVec.ofNat 16)) := by
  have hpair (b : JavaByte) : [hexDigit ((ofByte b).sshiftRight 4), hexDigit (ofByte b)] =
      [hexCode (b.toNat / 16), hexCode (b.toNat % 16)].map (BitVec.ofNat 16) := by
    obtain ⟨hhigh, hlow⟩ := hexDigit_table b.toNat b.isLt
    rw [BitVec.ofNat_toNat, BitVec.setWidth_eq] at hhigh hlow
    rw [hhigh, hlow]
    rfl
  rw [toHex, hexCodes, List.map_flatMap]
  simp only [hpair]

theorem toByte_pair {d₀ d₁ : Nat} (h₀ : d₀ < 16) (h₁ : d₁ < 16) :
    (toByte (BitVec.ofNat 32 d₀ * 16 ||| BitVec.ofNat 32 d₁)).toNat = d₀ * 16 + d₁ := by
  have hhigh : (BitVec.ofNat 32 d₀ * 16).toNat = d₀ * 2 ^ 4 := by
    have h16 : (16 : JavaInt).toNat = 16 := rfl
    rw [BitVec.toNat_mul, BitVec.toNat_ofNat, h16]
    omega
  have hlow : (BitVec.ofNat 32 d₁).toNat = d₁ := by
    rw [BitVec.toNat_ofNat]
    omega
  rw [toByte, BitVec.toNat_setWidth, BitVec.toNat_or, hhigh, hlow, or_eq_add (by omega)]
  omega

/-- Digits are read in either case. -/
theorem readPairs_of_lower (key : List JavaByte) (input : List Nat) (hnarrow : ∀ c ∈ input, c < 256)
    (h : input.map lowerCode = hexCodes key) :
    readPairs (input.map (BitVec.ofNat 16)) = (key, 0) := by
  induction key generalizing input with
  | nil =>
      have hnil : input = [] := List.map_eq_nil_iff.mp h
      rw [hnil]
      rfl
  | cons b key ih =>
      have hb := b.isLt
      have hcodes : hexCodes (b :: key) =
          hexCode (b.toNat / 16) :: hexCode (b.toNat % 16) :: hexCodes key := rfl
      rw [hcodes] at h
      match input, h with
      | [_], h => simp at h
      | c₀ :: c₁ :: input, h =>
          simp only [List.map_cons, List.cons.injEq] at h
          obtain ⟨hc₀, hc₁, htail⟩ := h
          have hread {c d : Nat} (hc : c < 256) (hd : d < 16) (hlower : lowerCode c = hexCode d) :
              nibble (ofChar (BitVec.ofNat 16 c)) = (BitVec.ofNat 32 d, 0) := by
            have hunit : (BitVec.ofNat 16 c).toNat = c := by
              rw [BitVec.toNat_ofNat]
              omega
            exact nibble_eq (by rwa [hunit]) (by rw [hunit, hexValue_of_lowerCode hd hlower])
          have hbyte : toByte (BitVec.ofNat 32 (b.toNat / 16) * 16 |||
              BitVec.ofNat 32 (b.toNat % 16)) = b := by
            apply BitVec.eq_of_toNat_eq
            rw [toByte_pair (by omega) (by omega)]
            omega
          rw [List.map_cons, List.map_cons, readPairs,
            hread (hnarrow c₀ (by simp)) (by omega) hc₀,
            hread (hnarrow c₁ (by simp)) (by omega) hc₁]
          simp only [ih input (fun c hc => hnarrow c (by simp [hc])) htail, hbyte]
          rfl

/-- Digits that are read without an error are, in lower case, the ones that are written. -/
theorem lower_of_readPairs (count : Nat) (input : List Nat) (hlength : input.length = 2 * count)
    (hnarrow : ∀ c ∈ input, c < 256) (h : (readPairs (input.map (BitVec.ofNat 16))).2 = 0) :
    input.map lowerCode = hexCodes (readPairs (input.map (BitVec.ofNat 16))).1 := by
  induction count generalizing input with
  | zero =>
      match input, hlength with
      | [], _ => rfl
  | succ count ih =>
      match input, hlength with
      | c₀ :: c₁ :: input, hlength =>
          have hrest : input.length = 2 * count := by simpa [Nat.mul_succ] using hlength
          have hc₀ := hnarrow c₀ (by simp)
          have hc₁ := hnarrow c₁ (by simp)
          have hunit {c : Nat} (hc : c < 256) : (BitVec.ofNat 16 c).toNat = c := by
            rw [BitVec.toNat_ofNat]
            omega
          obtain ⟨hpair, hret⟩ := BitVec.or_eq_zero_iff.mp h
          obtain ⟨hret₀, hret₁⟩ := BitVec.or_eq_zero_iff.mp hpair
          obtain ⟨d₀, hd₀⟩ := exists_hexValue (by rwa [hunit hc₀]) hret₀
          obtain ⟨d₁, hd₁⟩ := exists_hexValue (by rwa [hunit hc₁]) hret₁
          have hread₀ := nibble_eq (by rwa [hunit hc₀]) hd₀
          have hread₁ := nibble_eq (by rwa [hunit hc₁]) hd₁
          rw [hunit hc₀] at hd₀
          rw [hunit hc₁] at hd₁
          obtain ⟨hlt₀, hcode₀⟩ := hexValue_eq_some hd₀
          obtain ⟨hlt₁, hcode₁⟩ := hexValue_eq_some hd₁
          have htail := ih input hrest (fun c hc => hnarrow c (by simp [hc])) hret
          have hbyte := toByte_pair hlt₀ hlt₁
          rw [List.map_cons, List.map_cons, List.map_cons, List.map_cons, readPairs, hread₀, hread₁,
            htail, ← hcode₀, ← hcode₁]
          simp only [hexCodes, List.flatMap_cons, hbyte, List.cons_append, List.nil_append]
          congr 2
          · omega
          · congr 2
            omega

theorem length_hexCodes (key : List JavaByte) : (hexCodes key).length = 2 * key.length := by
  induction key with
  | nil => rfl
  | cons b key ih =>
      rw [hexCodes, List.flatMap_cons, List.length_append, ← hexCodes, ih, List.length_cons]
      simp
      omega

theorem toNat_ofNat_hexCodes {key : List JavaByte} {unit : JavaChar}
    (h : unit ∈ (hexCodes key).map (BitVec.ofNat 16)) : unit.toNat < 256 := by
  obtain ⟨n, hn, rfl⟩ := List.mem_map.mp h
  have hlt := hexCodes_lt hn
  rw [BitVec.toNat_ofNat]
  omega

theorem toCharArray_toHex (key : Key) :
    toCharArray key.toHex = (hexCodes key.bytes).map (BitVec.ofNat 16) := by
  rw [toHex_eq]
  exact toCharArray_ofCharArray fun _ h => toNat_ofNat_hexCodes h

theorem fromHex_eq_ok {str : String} : fromHex str = .ok key ↔
    (toCharArray str).length = 64 ∧ readPairs (toCharArray str) = (key.bytes, 0) := by
  unfold fromHex
  dsimp only
  by_cases hlength : (toCharArray str).length ≠ Format.length .hex
  · rw [dif_pos hlength]
    constructor
    · intro h
      cases h
    · intro h
      exact absurd h.1 hlength
  · rw [dif_neg hlength]
    rw [not_not] at hlength
    by_cases hret : (readPairs (toCharArray str)).2 ≠ 0
    · rw [if_pos hret]
      constructor
      · intro h
        cases h
      · intro h
        exact absurd (congrArg Prod.snd h.2) hret
    · rw [if_neg hret]
      constructor
      · intro h
        cases h
        exact ⟨hlength, Prod.ext rfl (not_not.mp hret)⟩
      · intro h
        congr
        exact congrArg Prod.fst h.2

theorem toNat_toLower (c : Char) :
    c.toLower.toNat = lowerCode c.toNat := by
  unfold lowerCode
  by_cases h : 65 ≤ c.toNat ∧ c.toNat ≤ 90
  · have hval : c.val ≥ 'A'.val ∧ c.val ≤ 'Z'.val := h
    have hdiff : ('a'.val - 'A'.val).toNat = 32 := rfl
    have hc : c.val.toNat = c.toNat := rfl
    show (dite _ _ _ : Char).toNat = _
    rw [if_pos h, dif_pos hval]
    show (c.val + ('a'.val - 'A'.val)).toNat = c.toNat + 32
    rw [UInt32.toNat_add, hdiff, hc]
    omega
  · have hval : ¬ (c.val ≥ 'A'.val ∧ c.val ≤ 'Z'.val) := h
    show (dite _ _ _ : Char).toNat = _
    rw [if_neg h, dif_neg hval]

theorem toLower_eq_map (str : String) : str.toLower = str.map Char.toLower := rfl

theorem map_toNat_toLower (str : String) :
    str.toLower.toList.map Char.toNat = (str.toList.map Char.toNat).map lowerCode := by
  rw [toLower_eq_map, String.toList_map, List.map_map, List.map_map]
  exact List.map_congr_left fun c _ => toNat_toLower c

theorem map_toNat_toHex : key.toHex.toList.map Char.toNat = hexCodes key.bytes := by
  have hback : ∀ n ∈ hexCodes key.bytes, (Char.ofNat (BitVec.ofNat 16 n).toNat).toNat = n := by
    intro n hn
    have hlt := hexCodes_lt hn
    have hunit : (BitVec.ofNat 16 n).toNat = n := by
      rw [BitVec.toNat_ofNat]
      omega
    rw [hunit, toNat_ofNat hlt]
  rw [toHex_eq, ofCharArray, String.toList_ofList, List.map_map, List.map_map]
  exact (List.map_congr_left hback).trans (List.map_id' _)

theorem eq_of_map_toNat {first second : String}
    (h : first.toList.map Char.toNat = second.toList.map Char.toNat) : first = second := by
  have hinjective : Function.Injective Char.toNat := fun _ _ h => Char.toNat_inj.mp h
  exact String.toList_inj.mp (List.map_injective_iff.mpr hinjective h)

/-- A narrow text is read as a key exactly where, in lower case, it is what the key is
written as. -/
theorem fromHex_iff (str : String) (hstr : Narrow str) :
    fromHex str = .ok key ↔ str.toLower = key.toHex := by
  have hunits : toCharArray str = (str.toList.map Char.toNat).map (BitVec.ofNat 16) := by
    rw [toCharArray_of_narrow hstr, List.map_map]
    rfl
  have hnarrow : ∀ n ∈ str.toList.map Char.toNat, n < 256 := by
    intro n hn
    obtain ⟨c, hc, rfl⟩ := List.mem_map.mp hn
    exact hstr c hc
  rw [fromHex_eq_ok, hunits, List.length_map]
  constructor
  · rintro ⟨hlength, hread⟩
    have hlower := lower_of_readPairs 32 _ hlength hnarrow (by rw [hread])
    rw [hread, ← map_toNat_toLower, ← map_toNat_toHex] at hlower
    exact eq_of_map_toNat hlower
  · intro h
    have hlower : (str.toList.map Char.toNat).map lowerCode = hexCodes key.bytes := by
      rw [← map_toNat_toLower, h, map_toNat_toHex]
    have hlength := congrArg List.length hlower
    rw [List.length_map, length_hexCodes, key.length_bytes] at hlength
    exact ⟨hlength, readPairs_of_lower key.bytes _ hnarrow hlower⟩

/-- The digits of the key, some letters in lower and some in upper case. -/
def mixedHex : String := "00108310518720969b71d79f8218a39259a7A29d35Db7e39EbbF3dfbfC72Cf01"

theorem fromHex_iff_mixed :
    Narrow mixedHex ∧ mixedHex.toLower = mixed.toHex ∧
      (fromHex mixedHex = .ok mixed ↔ mixedHex.toLower = mixed.toHex) := by
  have hnarrow : Narrow mixedHex := narrow_of_all (by decide)
  exact ⟨hnarrow, by decide +kernel, fromHex_iff mixed mixedHex hnarrow⟩

end Key

end Modvpn.Wireguard
