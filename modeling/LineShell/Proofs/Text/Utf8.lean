import LineShell.Text.Utf8
import Mathlib.Tactic.Lemma

namespace LineShell.Text

lemma toNat_bounds (c : Char) : c.toNat < 0xD800 ∨ 0xDFFF < c.toNat ∧ c.toNat < 0x110000 :=
  c.valid

lemma encodeChar_eq_utf8EncodeChar (c : Char) : encodeChar c = String.utf8EncodeChar c := by
  have hbounds := toNat_bounds c
  have hval : c.val.toNat = c.toNat := rfl
  unfold encodeChar String.utf8EncodeChar
  dsimp only
  rw [hval]
  generalize c.toNat = n at hbounds
  by_cases h1 : n < 0x80
  · rw [if_pos h1, if_pos (by omega)]
  by_cases h2 : n < 0x800
  · have hlead : 0xC0 + n / 64 = n / 64 % 32 + 192 := by omega
    rw [if_neg h1, if_pos h2, if_neg (by omega), if_pos (by omega), hlead, Nat.add_comm 0x80]
  by_cases h3 : n < 0x10000
  · have hlead : 0xE0 + n / 4096 = n / 4096 % 16 + 224 := by omega
    rw [if_neg h1, if_neg h2, if_pos h3, if_neg (by omega), if_neg (by omega), if_pos (by omega),
      hlead, Nat.add_comm 0x80, Nat.add_comm 0x80]
  · have hlead : 0xF0 + n / 262144 = n / 262144 % 8 + 240 := by omega
    rw [if_neg h1, if_neg h2, if_neg h3, if_neg (by omega), if_neg (by omega), if_neg (by omega),
      hlead, Nat.add_comm 0x80, Nat.add_comm 0x80, Nat.add_comm 0x80]

lemma encode_eq_flatMap (t : Text) : encode t = t.flatMap String.utf8EncodeChar :=
  congrArg (List.flatMap · t) (funext encodeChar_eq_utf8EncodeChar)

lemma toNat_toUInt8 {n : Nat} (h : n < 256) : n.toUInt8.toNat = n :=
  UInt8.toNat_ofNat_of_lt h

lemma decodeFrom_cons (s : Option Begun) (b : UInt8) (bs : Octets) :
    decodeFrom s (b :: bs) =
      (decodeStep s b.toNat).1 ++ decodeFrom (decodeStep s b.toNat).2 bs := by
  cases s <;> rfl

lemma decodeFrom_lead {b : Nat} {s : Begun} (h : beginChar b = ([], some s)) (hb : b < 256)
    (bs : Octets) : decodeFrom none (b.toUInt8 :: bs) = decodeFrom (some s) bs := by
  rw [decodeFrom_cons, toNat_toUInt8 hb, decodeStep, h, List.nil_append]

section

variable {bits missing low high x : Nat} (hx : x < 64) (hlow : low ≤ 0x80 + x)
  (hhigh : 0x80 + x ≤ high) (bs : Octets)

include hx hlow hhigh

lemma decodeFrom_last :
    decodeFrom (some ⟨bits, 1, low, high⟩) ((0x80 + x).toUInt8 :: bs) =
      Char.ofNat (bits * 64 + x) :: decodeFrom none bs := by
  rw [decodeFrom_cons, toNat_toUInt8 (by omega)]
  simp [decodeStep, hlow, hhigh]

lemma decodeFrom_more (hmissing : 1 < missing) :
    decodeFrom (some ⟨bits, missing, low, high⟩) ((0x80 + x).toUInt8 :: bs) =
      decodeFrom (some ⟨bits * 64 + x, missing - 1, 0x80, 0xBF⟩) bs := by
  rw [decodeFrom_cons, toNat_toUInt8 (by omega)]
  simp [decodeStep, hlow, hhigh, Nat.not_le.mpr hmissing]

end

lemma beginChar_two {n : Nat} (hlow : 0x80 ≤ n) (hhigh : n < 0x800) :
    beginChar (0xC0 + n / 64) = ([], some ⟨n / 64, 1, 0x80, 0xBF⟩) := by
  rw [beginChar, if_neg (by omega), if_neg (by omega), if_pos (by omega), Nat.add_sub_cancel_left]

lemma beginChar_three {n : Nat} (h : n < 0x10000) :
    beginChar (0xE0 + n / 4096) = ([], some ⟨n / 4096, 2,
      if 0xE0 + n / 4096 = 0xE0 then 0xA0 else 0x80,
      if 0xE0 + n / 4096 = 0xED then 0x9F else 0xBF⟩) := by
  rw [beginChar, if_neg (by omega), if_neg (by omega), if_neg (by omega), if_pos (by omega),
    Nat.add_sub_cancel_left]

lemma beginChar_four {n : Nat} (h : n < 0x110000) :
    beginChar (0xF0 + n / 262144) = ([], some ⟨n / 262144, 3,
      if 0xF0 + n / 262144 = 0xF0 then 0x90 else 0x80,
      if 0xF0 + n / 262144 = 0xF4 then 0x8F else 0xBF⟩) := by
  rw [beginChar, if_neg (by omega), if_neg (by omega), if_neg (by omega), if_neg (by omega),
    if_pos (by omega), Nat.add_sub_cancel_left]

lemma decodeFrom_encodeChar (c : Char) (bs : Octets) :
    decodeFrom none (encodeChar c ++ bs) = c :: decodeFrom none bs := by
  have hbounds := toNat_bounds c
  have hchar : Char.ofNat c.toNat = c := Char.ofNat_toNat c
  unfold encodeChar
  dsimp only
  generalize c.toNat = n at hbounds hchar
  by_cases h1 : n < 0x80
  · rw [if_pos h1, List.singleton_append, decodeFrom_cons, toNat_toUInt8 (by omega)]
    simp [decodeStep, beginChar, h1, hchar]
  by_cases h2 : n < 0x800
  · have hbits : n / 64 * 64 + n % 64 = n := by omega
    rw [if_neg h1, if_pos h2]
    simp only [List.cons_append, List.nil_append]
    rw [decodeFrom_lead (beginChar_two (by omega) h2) (by omega),
      decodeFrom_last (by omega) (by omega) (by omega), hbits, hchar]
  -- The first octet may narrow the range of the second one. The second octet is in the narrow range
  -- since the form is the shortest one and the code is no surrogate and not past the last one.
  by_cases h3 : n < 0x10000
  · have hbits : (n / 4096 * 64 + n / 64 % 64) * 64 + n % 64 = n := by omega
    rw [if_neg h1, if_neg h2, if_pos h3]
    simp only [List.cons_append, List.nil_append]
    rw [decodeFrom_lead (beginChar_three h3) (by omega),
      decodeFrom_more (by omega) (by split <;> omega) (by split <;> omega) _ (by omega),
      decodeFrom_last (by omega) (by omega) (by omega), hbits, hchar]
  · have hbits : ((n / 262144 * 64 + n / 4096 % 64) * 64 + n / 64 % 64) * 64 + n % 64 = n := by
      omega
    rw [if_neg h1, if_neg h2, if_neg h3]
    simp only [List.cons_append, List.nil_append]
    rw [decodeFrom_lead (beginChar_four (by omega)) (by omega),
      decodeFrom_more (by omega) (by split <;> omega) (by split <;> omega) _ (by omega),
      decodeFrom_more (by omega) (by omega) (by omega) _ (by omega),
      decodeFrom_last (by omega) (by omega) (by omega), hbits, hchar]

lemma decode_encode (t : Text) : decode (encode t) = t := by
  unfold decode encode
  induction t with
  | nil => rfl
  | cons c cs ih => rw [List.flatMap_cons, decodeFrom_encodeChar, ih]

end LineShell.Text
