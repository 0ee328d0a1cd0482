import Foldline.Text.Utf8
import Mathlib.Tactic.SplitIfs

/-! # Decoding what was encoded

Decoding takes one character after the other off the front of the bytes. On the bytes of an encoded
character it takes exactly these bytes and gives the character back: no encoded character is an
overlong form or a surrogate, so that none of the tests that shut those out can fail. -/

namespace Foldline.Text.Utf8

variable {position : Nat} {done : List Char} {a b c d : UInt8} {rest : List UInt8}

theorem isContinuation_eq_true_iff :
    isContinuation b = true ↔ 0x80 ≤ b.toNat ∧ b.toNat < 0xC0 := by
  simp [isContinuation, UInt8.le_iff_toNat_le, UInt8.lt_iff_toNat_lt]

/-- The bytes that may come second, in numbers. -/
theorem maySecond_eq_true_iff :
    maySecond a b = true ↔ (0x80 ≤ b.toNat ∧ b.toNat < 0xC0) ∧
      (a.toNat = 0xE0 → 0xA0 ≤ b.toNat) ∧ (a.toNat = 0xED → b.toNat < 0xA0) ∧
      (a.toNat = 0xF0 → 0x90 ≤ b.toNat) ∧ (a.toNat = 0xF4 → b.toNat < 0x90) := by
  simp only [maySecond, Bool.and_eq_true, isContinuation_eq_true_iff, beq_iff_eq,
    ← UInt8.toNat_inj]
  split_ifs <;> simp_all [UInt8.le_iff_toNat_le, UInt8.lt_iff_toNat_lt]

theorem decodeFrom_one (ha : a.toNat < 0x80) :
    decodeFrom position done (a :: rest) =
      decodeFrom (position + 1) (Char.ofNat a.toNat :: done) rest := by
  rw [decodeFrom.eq_def]
  simp (disch := simp; omega) only [UInt8.lt_iff_toNat_lt, if_pos]

theorem decodeFrom_two (ha : 0xC2 ≤ a.toNat) (ha' : a.toNat < 0xE0)
    (hb : isContinuation b = true) :
    decodeFrom position done (a :: b :: rest) =
      decodeFrom (position + 2) (Char.ofNat (a.toNat % 32 * 64 + payload b) :: done) rest := by
  rw [decodeFrom.eq_def]
  simp (disch := simp; omega) only [UInt8.lt_iff_toNat_lt, if_pos, if_neg]
  rw [if_pos hb]

theorem decodeFrom_three (ha : 0xE0 ≤ a.toNat) (ha' : a.toNat < 0xF0)
    (hb : maySecond a b = true) (hc : isContinuation c = true) :
    decodeFrom position done (a :: b :: c :: rest) =
      decodeFrom (position + 3)
        (Char.ofNat ((a.toNat % 16 * 64 + payload b) * 64 + payload c) :: done) rest := by
  rw [decodeFrom.eq_def]
  simp (disch := simp; omega) only [UInt8.lt_iff_toNat_lt, if_pos, if_neg]
  rw [if_pos hc]

theorem decodeFrom_four (ha : 0xF0 ≤ a.toNat) (ha' : a.toNat < 0xF5)
    (hb : maySecond a b = true) (hc : isContinuation c = true) (hd : isContinuation d = true) :
    decodeFrom position done (a :: b :: c :: d :: rest) =
      decodeFrom (position + 4)
        (Char.ofNat (((a.toNat % 8 * 64 + payload b) * 64 + payload c) * 64 + payload d) :: done)
        rest := by
  rw [decodeFrom.eq_def]
  simp (disch := simp; omega) only [UInt8.lt_iff_toNat_lt, if_pos, if_neg]
  rw [if_pos hd]

/-- A character at the front of what is left is decoded. -/
theorem decodeFrom_encodeChar (c : Char) :
    decodeFrom position done (encodeChar c ++ rest) =
      decodeFrom (position + (encodeChar c).length) (c :: done) rest := by
  -- Surrogates are no characters, which is what the second byte after ED is tested for.
  have hrange : c.toNat < 0xD800 ∨ 0xDFFF < c.toNat ∧ c.toNat < 0x110000 := c.valid
  have hback (n : Nat) (h : n = c.toNat) : Char.ofNat n = c := h ▸ Char.ofNat_toNat c
  simp only [encodeChar]
  generalize c.toNat = n at hrange hback ⊢
  split_ifs with hone htwo hthree
  · rw [List.singleton_append, decodeFrom_one (by simp; omega), hback _ (by simp; omega)]
    rfl
  · rw [List.cons_append, List.singleton_append, decodeFrom_two, hback] <;>
      simp [isContinuation_eq_true_iff, payload] <;> omega
  · rw [List.cons_append, List.cons_append, List.singleton_append, decodeFrom_three, hback] <;>
      simp [isContinuation_eq_true_iff, maySecond_eq_true_iff, payload] <;> omega
  · rw [List.cons_append, List.cons_append, List.cons_append, List.singleton_append,
      decodeFrom_four, hback] <;>
      simp [isContinuation_eq_true_iff, maySecond_eq_true_iff, payload] <;> omega

theorem decodeFrom_encode (text : List Char) :
    decodeFrom position done (encode text) = .ok (done.reverse ++ text) := by
  induction text generalizing position done with
  | nil => simp [encode, decodeFrom]
  | cons c text ih =>
      have hcons : encode (c :: text) = encodeChar c ++ encode text := List.flatMap_cons
      rw [hcons, decodeFrom_encodeChar, ih]
      simp

/-- Decoding gives back every text that was encoded. -/
theorem decode_encode (text : List Char) : decode (encode text) = .ok text :=
  decodeFrom_encode text

end Foldline.Text.Utf8
