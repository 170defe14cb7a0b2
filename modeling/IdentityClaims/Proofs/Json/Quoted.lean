import IdentityClaims.Json.Reader
import IdentityClaims.Json.Writer
import Mathlib.Tactic.SplitIfs

/-!
# Text between quotes is read as it is written

Whatever characters a text has, the reader takes from the written text exactly the text, and leaves
what follows the closing quote. One character is written as itself, as an escape of one letter, as
an escape by code, or as a pair of such escapes for its surrogates; there is a lemma for each.
-/

namespace IdentityClaims.Json

variable {start fuel : Nat} {rest : List Char}

/-! ## Escapes by code -/

theorem readHex4?_digits {n : Nat} (hn : n < 0x10000) (rest : List Char) :
    readHex4? (Hex.digits 4 n ++ rest) = some (n, rest) := by
  have hread : Hex.read? (Hex.digits 4 n) = some n := by
    rw [Hex.read?_digits]
    exact congrArg some (Nat.mod_eq_of_lt hn)
  simp only [Hex.digits, List.nil_append, List.cons_append] at hread ⊢
  rw [readHex4?, hread]
  rfl

theorem charOfUnit_toNat {c : Char} (hc : c.toNat < 0x10000) : charOfUnit c.toNat = c := by
  have hvalid : c.toNat < 0xD800 ∨ 0xDFFF < c.toNat ∧ c.toNat < 0x110000 := c.valid
  have hsurrogate : isSurrogate c.toNat = false := by
    simp only [isSurrogate, isHighSurrogate, isLowSurrogate, Bool.or_eq_false_iff,
      Bool.and_eq_false_iff, decide_eq_false_iff_not]
    omega
  rw [charOfUnit, hsurrogate]
  simp

theorem readUnicodeEscape_unit {c : Char} (hc : c.toNat < 0x10000) (hrest : rest ≠ []) :
    readUnicodeEscape (Hex.digits 4 c.toNat ++ rest) = .ok (c, rest) := by
  have hvalid : c.toNat < 0xD800 ∨ 0xDFFF < c.toNat ∧ c.toNat < 0x110000 := c.valid
  have hlen : ¬ (Hex.digits 4 c.toNat ++ rest).length ≤ 4 := by
    have hpos := List.length_pos_iff.2 hrest
    rw [List.length_append, Hex.length_digits]
    omega
  have hhigh : isHighSurrogate c.toNat = false := by
    simp only [isHighSurrogate, Bool.and_eq_false_iff, decide_eq_false_iff_not]
    omega
  rw [readUnicodeEscape, if_neg hlen, readHex4?_digits hc]
  dsimp only
  split
  · rw [hhigh, charOfUnit_toNat hc]
    rfl
  · rw [charOfUnit_toNat hc]

/-- The two escapes of a character beyond the first plane. -/
theorem readUnicodeEscape_pair {c : Char} (hc : 0x10000 ≤ c.toNat) (hrest : rest ≠ []) :
    readUnicodeEscape (Hex.digits 4 (0xD800 + (c.toNat - 0x10000) / 0x400) ++
      '\\' :: 'u' :: (Hex.digits 4 (0xDC00 + (c.toNat - 0x10000) % 0x400) ++ rest)) =
      .ok (c, rest) := by
  have hvalid : c.toNat < 0xD800 ∨ 0xDFFF < c.toNat ∧ c.toNat < 0x110000 := c.valid
  have hpos := List.length_pos_iff.2 hrest
  have hhigh : isHighSurrogate (0xD800 + (c.toNat - 0x10000) / 0x400) = true := by
    simp only [isHighSurrogate, Bool.and_eq_true, decide_eq_true_eq]
    omega
  have hlow : isLowSurrogate (0xDC00 + (c.toNat - 0x10000) % 0x400) = true := by
    simp only [isLowSurrogate, Bool.and_eq_true, decide_eq_true_eq]
    omega
  have hchar : charOfPair (0xD800 + (c.toNat - 0x10000) / 0x400)
      (0xDC00 + (c.toNat - 0x10000) % 0x400) = c := by
    rw [charOfPair, show 0x10000 + (0xD800 + (c.toNat - 0x10000) / 0x400 - 0xD800) * 0x400 +
      (0xDC00 + (c.toNat - 0x10000) % 0x400 - 0xDC00) = c.toNat by omega, Char.ofNat_toNat]
  rw [readUnicodeEscape, if_neg (by simp [Hex.length_digits]), readHex4?_digits (by omega)]
  simp only [hhigh, readHex4?_digits (show 0xDC00 + (c.toNat - 0x10000) % 0x400 < 0x10000 by omega),
    hlow, hchar]
  have hlen : 6 < ('\\' :: 'u' ::
      (Hex.digits 4 (0xDC00 + (c.toNat - 0x10000) % 0x400) ++ rest)).length := by
    rw [List.length_cons, List.length_cons, List.length_append, Hex.length_digits]
    omega
  rw [decide_eq_true hlen]
  rfl

/-! ## Characters -/

theorem readText_plain {c : Char} (hq : c ≠ '"') (hb : c ≠ '\\') (hc : ¬ c.toNat < 0x20) :
    readText start (fuel + 1) (c :: rest) =
      (readText start fuel rest).map fun r => (c :: r.1, r.2) := by
  rw [readText.eq_def start (fuel + 1) (c :: rest)]
  dsimp only
  rw [if_neg hq, if_neg hb, if_neg hc]

theorem readText_simple {e c : Char} (he : e ≠ 'u') (hs : simpleEscape? e = some c) :
    readText start (fuel + 1) ('\\' :: e :: rest) =
      (readText start fuel rest).map fun r => (c :: r.1, r.2) := by
  rw [readText, if_neg (by decide), if_pos rfl]
  simp only [if_neg he, hs]

theorem readText_code {cs : List Char} {c : Char} (h : readUnicodeEscape cs = .ok (c, rest)) :
    readText start (fuel + 1) ('\\' :: 'u' :: cs) =
      (readText start fuel rest).map fun r => (c :: r.1, r.2) := by
  rw [readText, if_neg (by decide), if_pos rfl]
  simp only [if_true, h]

/-- A written character is read back, if something follows it. -/
theorem readText_writeChar (asciiOnly : Bool) (c : Char) (hrest : rest ≠ []) :
    readText start (fuel + 1) (writeChar asciiOnly c ++ rest) =
      (readText start fuel rest).map fun r => (c :: r.1, r.2) := by
  have hcode : readText start (fuel + 1) (escapeByCode c.toNat ++ rest) =
      (readText start fuel rest).map fun r => (c :: r.1, r.2) := by
    simp only [escapeByCode]
    split_ifs with h
    · exact readText_code (readUnicodeEscape_unit h hrest)
    · simp only [List.cons_append, List.append_assoc]
      exact readText_code (readUnicodeEscape_pair (Nat.not_lt.1 h) hrest)
  have hof {n : Nat} (hn : c.toNat = n) : some (Char.ofNat n) = some c := by
    rw [← hn, Char.ofNat_toNat]
  unfold writeChar
  split_ifs with h1 h2 h3 h4 h5 h6 h7 h8
  · rcases h1 with rfl | rfl
    · exact readText_simple (by decide) (by decide)
    · exact readText_simple (by decide) (by decide)
  · exact readText_simple (by decide) (h2 ▸ by decide)
  · exact readText_simple (by decide) (h3 ▸ by decide)
  · exact readText_simple (by decide) (h4 ▸ by decide)
  · exact readText_simple (by decide) (by rw [← hof h5]; decide)
  · exact readText_simple (by decide) (by rw [← hof h6]; decide)
  · exact hcode
  · exact hcode
  · rw [not_or] at h1
    exact readText_plain h1.1 h1.2 h7

/-! ## Texts -/

theorem readText_writeChars (asciiOnly : Bool) (cs : List Char) (rest : List Char)
    (hf : cs.length < fuel) :
    readText start fuel (cs.flatMap (writeChar asciiOnly) ++ '"' :: rest) = .ok (cs, rest) := by
  induction cs generalizing fuel with
  | nil =>
      obtain ⟨fuel, rfl⟩ := Nat.exists_eq_succ_of_ne_zero (Nat.ne_of_gt hf)
      rw [List.flatMap_nil, List.nil_append, readText.eq_def]
      rfl
  | cons c cs ih =>
      obtain ⟨fuel, rfl⟩ := Nat.exists_eq_succ_of_ne_zero (Nat.ne_of_gt (Nat.zero_lt_of_lt hf))
      rw [List.flatMap_cons, List.append_assoc, readText_writeChar asciiOnly c (by simp),
        ih (by simpa using hf)]
      rfl

theorem writeChar_ne_nil (asciiOnly : Bool) (c : Char) : writeChar asciiOnly c ≠ [] := by
  unfold writeChar escapeByCode
  split_ifs <;> simp

theorem length_le_writeChars (asciiOnly : Bool) (cs : List Char) :
    cs.length ≤ (cs.flatMap (writeChar asciiOnly)).length := by
  induction cs with
  | nil => simp
  | cons c cs ih =>
      have hpos := List.length_pos_iff.2 (writeChar_ne_nil asciiOnly c)
      rw [List.flatMap_cons, List.length_append, List.length_cons]
      omega

theorem toList_writeText (asciiOnly : Bool) (s : String) :
    (writeText asciiOnly s).toList =
      '"' :: (s.toList.flatMap (writeChar asciiOnly) ++ ['"']) := by
  simp [writeText]

/-- A written text is read back behind its opening quote. -/
theorem readQuoted_writeText (asciiOnly : Bool) (s : String) (rest : List Char) :
    readQuoted (s.toList.flatMap (writeChar asciiOnly) ++ '"' :: rest) = .ok (s, rest) := by
  have hlen := length_le_writeChars asciiOnly s.toList
  have hfuel : s.toList.length <
      (s.toList.flatMap (writeChar asciiOnly) ++ '"' :: rest).length + 1 := by
    rw [List.length_append]
    omega
  rw [readQuoted, readText_writeChars asciiOnly s.toList rest hfuel]
  simp [Except.map]

end IdentityClaims.Json
