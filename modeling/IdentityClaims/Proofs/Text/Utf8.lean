import IdentityClaims.Text.Utf8
import Mathlib.Tactic.SplitIfs

/-!
# UTF-8 is read as it is written

The bytes of a text decode to the text. There is one lemma for each length of a byte sequence, in
terms of the numbers that its bytes stand for; the bytes of a character satisfy the one for their
length, since no character is a surrogate or beyond U+10FFFF.
-/

namespace IdentityClaims.Utf8

variable {position : Nat} {a b c d : UInt8} {rest : List UInt8}

theorem toNat_toUInt8 {n : Nat} (h : n < 256) : n.toUInt8.toNat = n := by
  simp [Nat.mod_eq_of_lt h]

theorem isContinuation_iff : isContinuation b = true ↔ 0x80 ≤ b.toNat ∧ b.toNat ≤ 0xBF := by
  simp [isContinuation, UInt8.le_iff_toNat_le]

theorem isSecondOfThree_of (hb : isContinuation b = true) (hlo : a.toNat = 0xE0 → 0xA0 ≤ b.toNat)
    (hhi : a.toNat = 0xED → b.toNat ≤ 0x9F) : isSecondOfThree a b = true := by
  obtain ⟨hb1, hb2⟩ := isContinuation_iff.1 hb
  have he0 : a = 0xE0 ↔ a.toNat = 0xE0 := UInt8.toNat_inj.symm
  have hed : a = 0xED ↔ a.toNat = 0xED := UInt8.toNat_inj.symm
  simp only [isSecondOfThree, beq_iff_eq, he0, hed]
  split
  · simp [UInt8.le_iff_toNat_le, hlo ‹_›, hb2]
  · split
    · simp [UInt8.le_iff_toNat_le, hhi ‹_›, hb1]
    · exact hb

theorem isSecondOfFour_of (hb : isContinuation b = true) (hlo : a.toNat = 0xF0 → 0x90 ≤ b.toNat)
    (hhi : a.toNat = 0xF4 → b.toNat ≤ 0x8F) : isSecondOfFour a b = true := by
  obtain ⟨hb1, hb2⟩ := isContinuation_iff.1 hb
  have hf0 : a = 0xF0 ↔ a.toNat = 0xF0 := UInt8.toNat_inj.symm
  have hf4 : a = 0xF4 ↔ a.toNat = 0xF4 := UInt8.toNat_inj.symm
  simp only [isSecondOfFour, beq_iff_eq, hf0, hf4]
  split
  · simp [UInt8.le_iff_toNat_le, hlo ‹_›, hb2]
  · split
    · simp [UInt8.le_iff_toNat_le, hhi ‹_›, hb1]
    · exact hb

theorem decodeFrom_one (ha : a.toNat < 0x80) :
    decodeFrom position (a :: rest) =
      (decodeFrom (position + 1) rest).map (Char.ofNat a.toNat :: ·) := by
  rw [decodeFrom.eq_def position (a :: rest)]
  exact if_pos (UInt8.lt_iff_toNat_lt.2 ha)

theorem decodeFrom_two (ha : 0xC2 ≤ a.toNat ∧ a.toNat ≤ 0xDF) (hb : isContinuation b = true) :
    decodeFrom position (a :: b :: rest) =
      (decodeFrom (position + 2) rest).map
        (Char.ofNat (a.toNat % 32 * 64 + b.toNat % 64) :: ·) := by
  have hone : ¬ a < 0x80 := by
    rw [UInt8.lt_iff_toNat_lt, show (0x80 : UInt8).toNat = 0x80 from rfl]
    omega
  rw [decodeFrom.eq_def position (a :: b :: rest)]
  dsimp only
  rw [if_neg hone, if_pos ⟨UInt8.le_iff_toNat_le.2 ha.1, UInt8.le_iff_toNat_le.2 ha.2, hb⟩]
  rfl

theorem decodeFrom_three (ha : 0xE0 ≤ a.toNat ∧ a.toNat ≤ 0xEF) (hb : isContinuation b = true)
    (hlo : a.toNat = 0xE0 → 0xA0 ≤ b.toNat) (hhi : a.toNat = 0xED → b.toNat ≤ 0x9F)
    (hc : isContinuation c = true) :
    decodeFrom position (a :: b :: c :: rest) =
      (decodeFrom (position + 3) rest).map
        (Char.ofNat (a.toNat % 16 * 4096 + b.toNat % 64 * 64 + c.toNat % 64) :: ·) := by
  have hone : ¬ a < 0x80 := by
    rw [UInt8.lt_iff_toNat_lt, show (0x80 : UInt8).toNat = 0x80 from rfl]
    omega
  have htwo : ¬ (0xC2 ≤ a ∧ a ≤ 0xDF ∧ isContinuation b = true) := by
    rw [UInt8.le_iff_toNat_le, UInt8.le_iff_toNat_le, show (0xDF : UInt8).toNat = 0xDF from rfl]
    omega
  rw [decodeFrom.eq_def position (a :: b :: c :: rest)]
  dsimp only
  rw [if_neg hone, if_neg htwo, if_pos ⟨UInt8.le_iff_toNat_le.2 ha.1,
    UInt8.le_iff_toNat_le.2 ha.2, isSecondOfThree_of hb hlo hhi, hc⟩]
  rfl

theorem decodeFrom_four (ha : 0xF0 ≤ a.toNat ∧ a.toNat ≤ 0xF4) (hb : isContinuation b = true)
    (hlo : a.toNat = 0xF0 → 0x90 ≤ b.toNat) (hhi : a.toNat = 0xF4 → b.toNat ≤ 0x8F)
    (hc : isContinuation c = true) (hd : isContinuation d = true) :
    decodeFrom position (a :: b :: c :: d :: rest) =
      (decodeFrom (position + 4) rest).map
        (Char.ofNat (a.toNat % 8 * 262144 + b.toNat % 64 * 4096 + c.toNat % 64 * 64 +
          d.toNat % 64) :: ·) := by
  have hone : ¬ a < 0x80 := by
    rw [UInt8.lt_iff_toNat_lt, show (0x80 : UInt8).toNat = 0x80 from rfl]
    omega
  have htwo : ¬ (0xC2 ≤ a ∧ a ≤ 0xDF ∧ isContinuation b = true) := by
    rw [UInt8.le_iff_toNat_le, UInt8.le_iff_toNat_le, show (0xDF : UInt8).toNat = 0xDF from rfl]
    omega
  have hthree : ¬ (0xE0 ≤ a ∧ a ≤ 0xEF ∧ isSecondOfThree a b = true ∧ isContinuation c = true) := by
    rw [UInt8.le_iff_toNat_le, UInt8.le_iff_toNat_le, show (0xEF : UInt8).toNat = 0xEF from rfl]
    omega
  rw [decodeFrom.eq_def position (a :: b :: c :: d :: rest)]
  dsimp only
  rw [if_neg hone, if_neg htwo, if_neg hthree, if_pos ⟨UInt8.le_iff_toNat_le.2 ha.1,
    UInt8.le_iff_toNat_le.2 ha.2, isSecondOfFour_of hb hlo hhi, hc, hd⟩]
  rfl

theorem toNat_continuation (n : Nat) : (0x80 + n % 64).toUInt8.toNat = 0x80 + n % 64 :=
  toNat_toUInt8 (by omega)

theorem isContinuation_toUInt8 (n : Nat) : isContinuation (0x80 + n % 64).toUInt8 = true := by
  rw [isContinuation_iff, toNat_continuation]
  omega

/-- The bytes of a character are read as the character. -/
theorem decodeFrom_encodeChar (x : Char) (position : Nat) (rest : List UInt8) :
    ∃ next, decodeFrom position (encodeChar x ++ rest) = (decodeFrom next rest).map (x :: ·) := by
  have hvalid : x.toNat < 0xD800 ∨ 0xDFFF < x.toNat ∧ x.toNat < 0x110000 := x.valid
  have hof {n : Nat} (hn : n = x.toNat) : Char.ofNat n = x := by rw [hn, Char.ofNat_toNat]
  have hb := toNat_continuation (x.toNat / 64)
  have hc := toNat_continuation (x.toNat / 4096)
  have hd := toNat_continuation x.toNat
  simp only [encodeChar]
  split_ifs with h1 h2 h3
  · refine ⟨position + 1, ?_⟩
    have ha : x.toNat.toUInt8.toNat = x.toNat := toNat_toUInt8 (by omega)
    rw [List.singleton_append, decodeFrom_one (by omega), hof ha]
  · refine ⟨position + 2, ?_⟩
    have ha : (0xC0 + x.toNat / 64).toUInt8.toNat = 0xC0 + x.toNat / 64 := toNat_toUInt8 (by omega)
    rw [List.cons_append, List.singleton_append,
      decodeFrom_two (by omega) (isContinuation_toUInt8 _), hof (by omega)]
  · refine ⟨position + 3, ?_⟩
    have ha : (0xE0 + x.toNat / 4096).toUInt8.toNat = 0xE0 + x.toNat / 4096 :=
      toNat_toUInt8 (by omega)
    rw [List.cons_append, List.cons_append, List.singleton_append,
      decodeFrom_three (by omega) (isContinuation_toUInt8 _) (by omega) (by omega)
        (isContinuation_toUInt8 _), hof (by omega)]
  · refine ⟨position + 4, ?_⟩
    have ha : (0xF0 + x.toNat / 262144).toUInt8.toNat = 0xF0 + x.toNat / 262144 :=
      toNat_toUInt8 (by omega)
    rw [List.cons_append, List.cons_append, List.cons_append, List.singleton_append,
      decodeFrom_four (by omega) (isContinuation_toUInt8 _) (by omega) (by omega)
        (isContinuation_toUInt8 _) (isContinuation_toUInt8 _), hof (by omega)]

theorem decodeFrom_encode (cs : List Char) (position : Nat) :
    decodeFrom position (cs.flatMap encodeChar) = .ok cs := by
  induction cs generalizing position with
  | nil => rfl
  | cons x cs ih =>
      obtain ⟨next, hnext⟩ := decodeFrom_encodeChar x position (cs.flatMap encodeChar)
      rw [List.flatMap_cons, hnext, ih next]
      rfl

/-- The bytes of a text decode to the text. -/
theorem decode_encode_eq_ok (s : String) : decode (encode s) = .ok s := by
  rw [decode, encode, decodeFrom_encode]
  exact congrArg Except.ok String.ofList_toList

end IdentityClaims.Utf8
