import IdentityClaims.Json.Reader
import IdentityClaims.Json.Writer
import Mathlib.Algebra.Group.Nat.Defs

/-!
# Integers are read as they are written

An integer in decimal is read as itself, as long as nothing follows that would make the number
longer or a fraction, and it has no more digits than are converted.
-/

namespace IdentityClaims.Json

/-- Nothing that could continue a number comes next: the text ends, or there is a blank, a comma or
a closing bracket. -/
def EndsValue (rest : List Char) : Prop :=
  ∀ c ∈ rest.head?, isSpace c = true ∨ c = ',' ∨ c = ']' ∨ c = '\x7d'

theorem endsValue_cons {c : Char} {rest : List Char}
    (h : isSpace c = true ∨ c = ',' ∨ c = ']' ∨ c = '\x7d') : EndsValue (c :: rest) := by
  simpa [EndsValue] using h

section Digits

variable {n : Nat} {rest : List Char}

theorem digitsValue_toDigits (n : Nat) : digitsValue (Nat.toDigits 10 n) = n := by
  have hfold := Nat.ofDigitChars_ten_toDigits (n := n)
  rw [Nat.ofDigitChars_eq_foldl] at hfold
  exact hfold

theorem isDigit_of_mem_toDigits {c : Char} (hc : c ∈ Nat.toDigits 10 n) : c.isDigit = true :=
  Nat.isDigit_of_mem_toDigits (by decide) (by decide) hc

/-- The digits of a number other than zero do not start with a zero. -/
theorem head_toDigits_ne (hn : n ≠ 0) : (Nat.toDigits 10 n).head? ≠ some '0' := by
  induction n using Nat.strongRecOn with
  | _ n ih =>
      by_cases hlt : n < 10
      · rw [Nat.toDigits_of_lt_base hlt]
        have hall : ∀ m < 10, m ≠ 0 → [m.digitChar].head? ≠ some '0' := by decide
        exact hall n hlt hn
      · rw [Nat.toDigits_of_base_le (by decide) (Nat.not_lt.1 hlt), List.head?_append]
        have hdiv := ih (n / 10) (by omega) (by omega)
        cases hd : (Nat.toDigits 10 (n / 10)).head? with
        | none => exact absurd (List.head?_eq_none_iff.1 hd) Nat.toDigits_ne_nil
        | some c => simpa [hd] using hdiv

theorem takeWhile_digits {ds : List Char} (hds : ∀ c ∈ ds, c.isDigit = true)
    (hrest : ∀ c ∈ rest.head?, c.isDigit = false) :
    (ds ++ rest).takeWhile Char.isDigit = ds ∧ (ds ++ rest).dropWhile Char.isDigit = rest := by
  rw [List.takeWhile_append_of_pos hds, List.dropWhile_append_of_pos hds]
  cases rest with
  | nil => simp
  | cons c rest => simp [hrest c rfl]

theorem splitWhole_toDigits (hrest : ∀ c ∈ rest.head?, c.isDigit = false) :
    splitWhole (Nat.toDigits 10 n ++ rest) = (Nat.toDigits 10 n, rest) := by
  by_cases hn : n = 0
  · rw [hn, Nat.toDigits_zero]
    rfl
  · obtain ⟨htake, hdrop⟩ := takeWhile_digits (fun c => isDigit_of_mem_toDigits (n := n)) hrest
    have hzero : ∀ cs, Nat.toDigits 10 n ++ rest = '0' :: cs → False := by
      intro cs hcs
      have hhead := head_toDigits_ne hn
      cases hd : Nat.toDigits 10 n with
      | nil => exact Nat.toDigits_ne_nil hd
      | cons c ds =>
          rw [hd] at hcs hhead
          exact hhead (congrArg some (List.cons.inj hcs).1)
    rw [splitWhole.eq_2 _ hzero, htake, hdrop]

end Digits

section EndsValue

variable {rest : List Char}

theorem EndsValue.not_digit (h : EndsValue rest) : ∀ c ∈ rest.head?, c.isDigit = false := by
  intro c hc
  rcases h c hc with hs | rfl | rfl | rfl
  · simp only [isSpace, Bool.or_eq_true, beq_iff_eq, or_assoc] at hs
    rcases hs with rfl | rfl | rfl | rfl <;> decide
  all_goals decide

theorem EndsValue.head_ne (h : EndsValue rest) {c : Char} (hs : isSpace c = false) (h1 : c ≠ ',')
    (h2 : c ≠ ']') (h3 : c ≠ '\x7d') (cs : List Char) : rest ≠ c :: cs := by
  rintro rfl
  rcases h c rfl with hc | hc | hc | hc
  · rw [hs] at hc
    cases hc
  · exact h1 hc
  · exact h2 hc
  · exact h3 hc

theorem EndsValue.splitFraction_eq (h : EndsValue rest) : splitFraction rest = ([], rest) := by
  rw [splitFraction.eq_2]
  exact h.head_ne (by decide) (by decide) (by decide) (by decide)

theorem EndsValue.splitExponent_eq (h : EndsValue rest) : splitExponent rest = (none, rest) := by
  cases rest with
  | nil => rfl
  | cons c cs =>
      have hc : ¬ (c = 'e' ∨ c = 'E') := by
        rintro (rfl | rfl)
        · exact h.head_ne (by decide) (by decide) (by decide) (by decide) cs rfl
        · exact h.head_ne (by decide) (by decide) (by decide) (by decide) cs rfl
      rw [splitExponent]
      exact if_neg hc

end EndsValue

/-- The text of an integer: a minus if it is negative, and its digits. -/
theorem toList_toString (n : Int) :
    (toString n).toList = (if n < 0 then ['-'] else []) ++ Nat.toDigits 10 n.natAbs := by
  rw [Int.toString_eq_repr, Int.repr_eq_if]
  by_cases hn : 0 ≤ n
  · rw [if_pos hn, if_neg (Int.not_lt.2 hn), Nat.toList_repr, List.nil_append]
    congr 1
    omega
  · rw [if_neg hn, if_pos (Int.not_le.1 hn), String.toList_append, Nat.toList_repr]
    congr 2
    omega

theorem toDigits_append_ne_minus (n : Nat) (rest cs : List Char) :
    Nat.toDigits 10 n ++ rest ≠ '-' :: cs := by
  intro hcs
  cases hd : Nat.toDigits 10 n with
  | nil => exact Nat.toDigits_ne_nil hd
  | cons c ds =>
      have hdigit : c.isDigit = true := isDigit_of_mem_toDigits (n := n) (hd ▸ List.mem_cons_self)
      rw [hd] at hcs
      rw [(List.cons.inj hcs).1] at hdigit
      exact absurd hdigit (by decide)

/-- An integer is read as itself or refused for its number of digits. -/
theorem readNumber_toString_eq (n : Int) {rest : List Char} (hrest : EndsValue rest) :
    readNumber ((toString n).toList ++ rest) =
      if IntegerText.maxLength < (Nat.toDigits 10 n.natAbs).length then
        .error (.longInteger (Nat.toDigits 10 n.natAbs).length)
      else .ok (.int n, rest) := by
  have hwhole := splitWhole_toDigits (n := n.natAbs) hrest.not_digit
  have hempty : (Nat.toDigits 10 n.natAbs).isEmpty = false :=
    List.isEmpty_eq_false_iff.2 Nat.toDigits_ne_nil
  have hdigits := digitsValue_toDigits n.natAbs
  rw [toList_toString]
  by_cases hneg : n < 0
  · have hvalue : -(digitsValue (Nat.toDigits 10 n.natAbs) : Int) = n := by omega
    rw [if_pos hneg, List.singleton_append, List.cons_append, readNumber]
    simp only [hwhole, hempty, hrest.splitFraction_eq, hrest.splitExponent_eq, hvalue,
      Bool.false_eq_true, if_false, List.isEmpty_nil, Option.isNone_none, Bool.and_self, if_true]
  · have hvalue : (digitsValue (Nat.toDigits 10 n.natAbs) : Int) = n := by omega
    rw [if_neg hneg, List.nil_append, readNumber]
    · simp only [hwhole, hempty, hrest.splitFraction_eq, hrest.splitExponent_eq, hvalue,
        Bool.false_eq_true, if_false, List.isEmpty_nil, Option.isNone_none, Bool.and_self, if_true]
    · exact toDigits_append_ne_minus n.natAbs rest

theorem integerRefusal?_eq_none_iff {n : Int} :
    integerRefusal? n = none ↔ n.natAbs < 10 ^ IntegerText.maxLength := by
  rw [integerRefusal?, ← Nat.length_toDigits_le_iff (by decide) (by decide)]
  split
  case isTrue hlong => simp [hlong]
  case isFalse hshort => simpa using hshort

theorem readNumber_toString {n : Int} {rest : List Char} (hn : integerRefusal? n = none)
    (hrest : EndsValue rest) :
    readNumber ((toString n).toList ++ rest) = .ok (.int n, rest) := by
  rw [readNumber_toString_eq n hrest, if_neg]
  intro hlong
  simp [integerRefusal?, hlong] at hn

theorem readNumber_refused {n : Int} {rest : List Char} (hn : integerRefusal? n ≠ none)
    (hrest : EndsValue rest) :
    ∃ k, readNumber ((toString n).toList ++ rest) = .error (.longInteger k) := by
  by_cases hlong : IntegerText.maxLength < (Nat.toDigits 10 n.natAbs).length
  · exact ⟨_, by rw [readNumber_toString_eq n hrest, if_pos hlong]⟩
  · exact absurd (if_neg hlong) hn

end IdentityClaims.Json
