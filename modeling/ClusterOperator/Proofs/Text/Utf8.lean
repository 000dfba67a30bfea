import ClusterOperator.Text.Utf8
import Mathlib.Tactic.SplitIfs

/-!
# UTF-8 is read as it was written

The bytes of a text are read as that text, whatever would stand in for ill-formed sequences.

* `Utf8.bytes` : the bytes of a text;
* `Utf8.lead_two`, `Utf8.lead_three`, `Utf8.lead_four` : what a first byte tells, by the number of
  bytes;
* `Utf8.decode_char`, `Utf8.decode_lead`, `Utf8.decode_more`, `Utf8.decode_last` : one byte is read;
* `Utf8.decode_encodeChar` : one character is read;
* `Utf8.decodeWith_bytes`, `Utf8.lossy_bytes` : a text is read.
-/

namespace ClusterOperator.Text.Utf8

def bytes (s : String) : List UInt8 :=
  s.toUTF8.data.toList

theorem bytes_eq (s : String) : bytes s = s.toList.flatMap String.utf8EncodeChar := by
  unfold bytes
  rw [String.toUTF8_eq_toByteArray, ← String.utf8Encode_toList, List.utf8Encode,
    List.data_toByteArray]

/-! ## First bytes -/

theorem lead_two {b : Nat} (h : 0xc2 ≤ b) (h' : b < 0xe0) :
    lead b = .sequence ⟨1, 0x80, 0xbf, b - 0xc0⟩ := by
  unfold lead
  rw [if_neg (by omega), if_neg (by omega), if_pos h']

theorem lead_three {b : Nat} (h : 0xe0 ≤ b) (h' : b < 0xf0) :
    lead b = .sequence ⟨2, if b = 0xe0 then 0xa0 else 0x80, if b = 0xed then 0x9f else 0xbf,
      b - 0xe0⟩ := by
  unfold lead
  rw [if_neg (by omega), if_neg (by omega), if_neg (by omega)]
  by_cases hfirst : b = 0xe0
  · subst hfirst
    rfl
  · by_cases hsurrogate : b = 0xed
    · subst hsurrogate
      rfl
    · simp [hfirst, hsurrogate, h']

theorem lead_four {b : Nat} (h : 0xf0 ≤ b) (h' : b ≤ 0xf4) :
    lead b = .sequence ⟨3, if b = 0xf0 then 0x90 else 0x80, if b = 0xf4 then 0x8f else 0xbf,
      b - 0xf0⟩ := by
  obtain rfl | rfl | rfl | rfl | rfl : b = 0xf0 ∨ b = 0xf1 ∨ b = 0xf2 ∨ b = 0xf3 ∨ b = 0xf4 := by
    omega
  all_goals rfl

/-! ## Bytes -/

variable {standIn : List Char} {b : UInt8} {n : Nat} {s : Sequence} {rest : List UInt8}

theorem decode_char {c : Char} (hb : b.toNat = n) (h : lead n = .char c) :
    decode standIn none (b :: rest) = c :: decode standIn none rest := by
  rw [decode, begin, hb, h]
  rfl

theorem decode_lead (hb : b.toNat = n) (h : lead n = .sequence s) :
    decode standIn none (b :: rest) = decode standIn (some s) rest := by
  rw [decode, begin, hb, h]
  rfl

theorem decode_more (hb : b.toNat = n) (hrange : s.low ≤ n ∧ n ≤ s.high) (howed : 1 < s.owed) :
    decode standIn (some s) (b :: rest) =
      decode standIn (some ⟨s.owed - 1, 0x80, 0xbf, s.bits * 64 + (n - 0x80)⟩) rest := by
  rw [decode, hb, if_pos hrange, if_neg (by omega)]

theorem decode_last (hb : b.toNat = n) (hrange : s.low ≤ n ∧ n ≤ s.high) (howed : s.owed ≤ 1) :
    decode standIn (some s) (b :: rest) =
      Char.ofNat (s.bits * 64 + (n - 0x80)) :: decode standIn none rest := by
  rw [decode, hb, if_pos hrange, if_pos howed]

/-! ## Characters -/

theorem toNat_ofNat {n : Nat} (h : n < 256) : (UInt8.ofNat n).toNat = n :=
  UInt8.toNat_ofNat_of_lt h

theorem decode_encodeChar (c : Char) :
    decode standIn none (String.utf8EncodeChar c ++ rest) = c :: decode standIn none rest := by
  have hchar : Char.ofNat c.toNat = c := Char.ofNat_toNat c
  have hvalid : c.toNat < 0xd800 ∨ 0xdfff < c.toNat ∧ c.toNat < 0x110000 := c.valid
  unfold String.utf8EncodeChar
  generalize hval : c.val.toNat = v
  have hv : c.toNat = v := hval
  rw [hv] at hchar hvalid
  dsimp only
  have hlast := toNat_ofNat (show v % 0x40 + 0x80 < 256 by omega)
  have hsecond := toNat_ofNat (show v / 64 % 0x40 + 0x80 < 256 by omega)
  have hthird := toNat_ofNat (show v / 4096 % 0x40 + 0x80 < 256 by omega)
  split_ifs with h₁ h₂ h₃
  · refine decode_char (toNat_ofNat (by omega)) ?_
    rw [lead, if_pos (by omega), hchar]
  · have hfirst := toNat_ofNat (show v / 64 % 0x20 + 0xc0 < 256 by omega)
    have hbits : (v / 64 % 0x20 + 0xc0 - 0xc0) * 64 + (v % 0x40 + 0x80 - 0x80) = v := by omega
    show decode standIn none (_ :: _ :: rest) = _
    rw [decode_lead hfirst (lead_two (by omega) (by omega)), decode_last hlast, hbits, hchar]
    all_goals dsimp only; omega
  · have hfirst := toNat_ofNat (show v / 4096 % 0x10 + 0xe0 < 256 by omega)
    have hbits : ((v / 4096 % 0x10 + 0xe0 - 0xe0) * 64 + (v / 64 % 0x40 + 0x80 - 0x80)) * 64 +
        (v % 0x40 + 0x80 - 0x80) = v := by omega
    show decode standIn none (_ :: _ :: _ :: rest) = _
    rw [decode_lead hfirst (lead_three (by omega) (by omega)), decode_more hsecond,
      decode_last hlast, hbits, hchar]
    all_goals dsimp only
    · omega
    · omega
    · -- neither overlong nor a surrogate
      split_ifs <;> omega
    · omega
  · have hfirst := toNat_ofNat (show v / 262144 % 8 + 0xf0 < 256 by omega)
    have hbits : (((v / 262144 % 8 + 0xf0 - 0xf0) * 64 + (v / 4096 % 0x40 + 0x80 - 0x80)) * 64 +
        (v / 64 % 0x40 + 0x80 - 0x80)) * 64 + (v % 0x40 + 0x80 - 0x80) = v := by omega
    show decode standIn none (_ :: _ :: _ :: _ :: rest) = _
    rw [decode_lead hfirst (lead_four (by omega) (by omega)), decode_more hthird,
      decode_more hsecond, decode_last hlast, hbits, hchar]
    all_goals dsimp only
    · omega
    · omega
    · omega
    · omega
    · -- neither overlong nor above the last code point
      split_ifs <;> omega
    · omega

/-! ## Texts -/

theorem decodeWith_bytes (standIn : List Char) (s : String) :
    decodeWith standIn (bytes s) = s.toList := by
  unfold decodeWith
  rw [bytes_eq]
  induction s.toList with
  | nil => rfl
  | cons c rest ih => rw [List.flatMap_cons, decode_encodeChar, ih]

theorem lossy_bytes (s : String) : lossy (bytes s) = s := by
  unfold lossy
  rw [decodeWith_bytes, String.ofList_toList]

end ClusterOperator.Text.Utf8
