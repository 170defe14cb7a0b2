import IdentityClaims.Json.Reader
import Mathlib.Data.List.TakeWhile

/-!
# Integers with too many digits

The reader has one error that is no fault of the grammar: an integer with more digits than are
converted. It is met only where so many digits stand together, for whatever a reading function
leaves over is the end of what it was given, and only the reader of numbers refuses an integer.
Main statement: `Json.hasDigitRun_of_read`.
-/

namespace IdentityClaims

namespace Json

def HasDigitRun (n : Nat) (cs : List Char) : Prop :=
  ∃ digits, digits <:+: cs ∧ digits.length = n ∧ ∀ c ∈ digits, c.isDigit = true

theorem HasDigitRun.mono {n : Nat} {cs cs' : List Char} (h : HasDigitRun n cs')
    (hs : cs' <:+ cs) : HasDigitRun n cs := by
  obtain ⟨digits, hdigits, hlength, hdigit⟩ := h
  exact ⟨digits, hdigits.trans hs.isInfix, hlength, hdigit⟩

/-- What is left over is the end of what was read, and an integer is refused only where its digits
stand. -/
structure StaysWithin {α : Type} (cs : List Char) (r : Except JsonError (α × List Char)) :
    Prop where
  rest : ∀ x, r = .ok x → x.2 <:+ cs
  long : ∀ n, r = .error (.longInteger n) → IntegerText.maxLength < n ∧ HasDigitRun n cs

section Combine

variable {α β : Type} {cs cs' rest : List Char} {r : Except JsonError (α × List Char)}

theorem staysWithin_ok {a : α} (h : rest <:+ cs) :
    StaysWithin cs (.ok (a, rest) : Except JsonError (α × List Char)) where
  rest x hx := by
    cases hx
    exact h
  long n hn := by cases hn

theorem staysWithin_fault (what : JsonFault) (left : Nat) :
    StaysWithin cs (.error (.fault what left) : Except JsonError (α × List Char)) where
  rest x hx := by cases hx
  long n hn := by cases hn

theorem StaysWithin.mono (h : StaysWithin cs' r) (hs : cs' <:+ cs) : StaysWithin cs r where
  rest x hx := (h.rest x hx).trans hs
  long n hn := (h.long n hn).imp_right fun hrun => hrun.mono hs

/-- Whatever was read for, an error is the same. -/
theorem StaysWithin.error {e : JsonError}
    (h : StaysWithin cs (.error e : Except JsonError (α × List Char))) :
    StaysWithin cs (.error e : Except JsonError (β × List Char)) where
  rest x hx := by cases hx
  long n hn := h.long n (congrArg Except.error (Except.error.inj hn))

theorem StaysWithin.map (h : StaysWithin cs r) (f : α → β) :
    StaysWithin cs (r.map fun x => (f x.1, x.2)) := by
  cases r with
  | error e => exact h.error
  | ok x => exact staysWithin_ok (h.rest x rfl)

theorem skipSpace_suffix (cs : List Char) : skipSpace cs <:+ cs := List.dropWhile_suffix _

end Combine

section Texts

variable {start : Nat}

theorem readHex4?_suffix {cs rest : List Char} {n : Nat} (h : readHex4? cs = some (n, rest)) :
    rest <:+ cs := by
  rw [readHex4?.eq_def] at h
  split at h
  case h_1 a b c d after =>
    obtain ⟨m, -, hm⟩ := Option.map_eq_some_iff.1 h
    cases hm
    exact ⟨[a, b, c, d], rfl⟩
  case h_2 => cases h

theorem staysWithin_readUnicodeEscape (cs : List Char) :
    StaysWithin cs (readUnicodeEscape cs) := by
  rw [readUnicodeEscape]
  split
  · exact staysWithin_fault _ _
  · cases hh : readHex4? cs with
    | none => exact staysWithin_fault _ _
    | some r =>
      obtain ⟨high, rest⟩ := r
      have hrest := readHex4?_suffix hh
      dsimp only
      split
      case h_1 after =>
        split
        · cases hl : readHex4? after with
          | none => exact staysWithin_fault _ _
          | some l =>
            have hafter : after <:+ '\\' :: 'u' :: after := ⟨['\\', 'u'], rfl⟩
            dsimp only
            split
            · exact staysWithin_ok (((readHex4?_suffix hl).trans hafter).trans hrest)
            · exact staysWithin_ok hrest
        · exact staysWithin_ok hrest
      case h_2 => exact staysWithin_ok hrest

theorem staysWithin_readText (fuel : Nat) (cs : List Char) :
    StaysWithin cs (readText start fuel cs) := by
  induction fuel generalizing cs with
  | zero => exact staysWithin_fault _ _
  | succ fuel ih =>
    cases cs with
    | nil => exact staysWithin_fault _ _
    | cons c cs =>
      have htail : cs <:+ c :: cs := List.suffix_cons c cs
      rw [readText.eq_def]
      dsimp only
      split
      · exact staysWithin_ok htail
      split
      · cases cs with
        | nil => exact staysWithin_fault _ _
        | cons e rest =>
          have hrest : rest <:+ c :: e :: rest := (List.suffix_cons e rest).trans htail
          dsimp only
          split
          · have hescape := (staysWithin_readUnicodeEscape rest).mono hrest
            cases hu : readUnicodeEscape rest with
            | error e => exact (hu ▸ hescape).error
            | ok x => exact ((ih x.2).map _).mono (hescape.rest x hu)
          · cases simpleEscape? e with
            | none => exact staysWithin_fault _ _
            | some x => exact ((ih rest).map _).mono hrest
      split
      · exact staysWithin_fault _ _
      · exact ((ih cs).map _).mono htail

theorem staysWithin_readQuoted (cs : List Char) : StaysWithin cs (readQuoted cs) :=
  (staysWithin_readText _ cs).map _

end Texts

section Numbers

theorem splitWhole_spec (cs : List Char) :
    (splitWhole cs).1 ++ (splitWhole cs).2 = cs ∧ ∀ c ∈ (splitWhole cs).1, c.isDigit = true := by
  rw [splitWhole.eq_def]
  split
  case h_1 rest => exact ⟨rfl, by simp⟩
  case h_2 => exact ⟨List.takeWhile_append_dropWhile, fun c hc => List.mem_takeWhile_imp hc⟩

theorem splitFraction_suffix (cs : List Char) : (splitFraction cs).2 <:+ cs := by
  rw [splitFraction.eq_def]
  split
  case h_1 rest =>
    dsimp only
    split
    · exact List.suffix_rfl
    · exact (List.dropWhile_suffix _).trans (List.suffix_cons _ _)
  case h_2 => exact List.suffix_rfl

theorem splitSign_suffix (cs : List Char) : (splitSign cs).2 <:+ cs := by
  rw [splitSign.eq_def]
  split
  · exact List.suffix_cons _ _
  · exact List.suffix_cons _ _
  · exact List.suffix_rfl

theorem splitExponent_suffix (cs : List Char) : (splitExponent cs).2 <:+ cs := by
  cases cs with
  | nil => exact List.suffix_rfl
  | cons c rest =>
    rw [splitExponent]
    split
    · dsimp only
      split
      · exact List.suffix_rfl
      · exact ((List.dropWhile_suffix _).trans (splitSign_suffix rest)).trans
          (List.suffix_cons c rest)
    · exact List.suffix_rfl

/-- What is left over by a number, which is read part by part. -/
theorem number_suffix {after whole rest fraction rest' rest'' : List Char} {exponent : Option Int}
    (hwhole : splitWhole after = (whole, rest)) (hfraction : splitFraction rest = (fraction, rest'))
    (hexponent : splitExponent rest' = (exponent, rest'')) : rest'' <:+ after := by
  have h := splitExponent_suffix rest'
  have h' := splitFraction_suffix rest
  obtain ⟨hsplit, -⟩ := splitWhole_spec after
  rw [hexponent] at h
  rw [hfraction] at h'
  rw [hwhole] at hsplit
  exact (h.trans h').trans ⟨whole, hsplit⟩

theorem minus_suffix {cs after : List Char} {negative : Bool}
    (h : (match cs with
      | '-' :: rest => (true, rest)
      | cs => (false, cs)) = (negative, after)) : after <:+ cs := by
  split at h
  · cases h
    exact List.suffix_cons _ _
  · cases h
    exact List.suffix_rfl

theorem staysWithin_readNumber (cs : List Char) : StaysWithin cs (readNumber cs) := by
  fun_cases readNumber cs
  case case1 => exact staysWithin_fault _ _
  case case2 negative after hafter whole rest hwhole _ _ _ _ _ _ _ _ hlong =>
    obtain ⟨hsplit, hdigits⟩ := splitWhole_spec after
    rw [hwhole] at hsplit hdigits
    refine StaysWithin.mono ⟨nofun, fun n hn => ?_⟩ (minus_suffix hafter)
    obtain rfl : whole.length = n := JsonError.longInteger.inj (Except.error.inj hn)
    exact ⟨hlong, whole, ⟨[], rest, hsplit⟩, rfl, hdigits⟩
  case case3 hafter _ _ hwhole _ _ _ hfraction _ _ hexponent _ _ _ =>
    exact staysWithin_ok ((number_suffix hwhole hfraction hexponent).trans (minus_suffix hafter))
  case case4 hafter _ _ hwhole _ _ _ hfraction _ _ hexponent _ _ =>
    exact staysWithin_ok ((number_suffix hwhole hfraction hexponent).trans (minus_suffix hafter))

end Numbers

theorem readNamed?_suffix {cs : List Char} {r : JsonTree × List Char}
    (h : readNamed? cs = some r) : r.2 <:+ cs := by
  obtain ⟨e, -, he⟩ := List.exists_of_findSome?_eq_some h
  dsimp only at he
  split at he
  · cases he
    exact List.drop_suffix _ _
  · cases he

section Step

variable {fuel : Nat}

theorem staysWithin_readValue_succ (hitems : ∀ cs, StaysWithin cs (readItems fuel cs))
    (hmembers : ∀ cs, StaysWithin cs (readMembers fuel cs)) (cs : List Char) :
    StaysWithin cs (readValue (fuel + 1) cs) := by
  rw [readValue.eq_def]
  dsimp only
  split
  case h_1 => exact staysWithin_fault _ _
  case h_2 rest => exact ((staysWithin_readQuoted rest).map _).mono (List.suffix_cons _ _)
  case h_3 rest =>
    have hspace : skipSpace rest <:+ '\x7b' :: rest :=
      (skipSpace_suffix rest).trans (List.suffix_cons _ _)
    generalize skipSpace rest = after at hspace
    split
    · exact staysWithin_ok ((List.suffix_cons _ _).trans hspace)
    · exact ((hmembers _).map _).mono hspace
  case h_4 rest =>
    have hspace : skipSpace rest <:+ '[' :: rest :=
      (skipSpace_suffix rest).trans (List.suffix_cons _ _)
    generalize skipSpace rest = after at hspace
    split
    · exact staysWithin_ok ((List.suffix_cons _ _).trans hspace)
    · exact ((hitems _).map _).mono hspace
  case h_5 =>
    cases hn : readNamed? cs with
    | some r => exact staysWithin_ok (readNamed?_suffix hn)
    | none => exact staysWithin_readNumber cs

theorem staysWithin_readItems_succ (hvalue : ∀ cs, StaysWithin cs (readValue fuel cs))
    (hitems : ∀ cs, StaysWithin cs (readItems fuel cs)) (cs : List Char) :
    StaysWithin cs (readItems (fuel + 1) cs) := by
  have hfirst := hvalue cs
  rw [readItems]
  cases hv : readValue fuel cs with
  | error e => exact (hv ▸ hfirst).error
  | ok r =>
    have hspace := (skipSpace_suffix r.2).trans (hfirst.rest r hv)
    dsimp only
    generalize skipSpace r.2 = after at hspace
    split
    · exact staysWithin_ok ((List.suffix_cons _ _).trans hspace)
    · exact ((hitems _).map _).mono
        (((skipSpace_suffix _).trans (List.suffix_cons _ _)).trans hspace)
    · exact staysWithin_fault _ _

theorem staysWithin_readMembers_succ (hvalue : ∀ cs, StaysWithin cs (readValue fuel cs))
    (hmembers : ∀ cs, StaysWithin cs (readMembers fuel cs)) (cs : List Char) :
    StaysWithin cs (readMembers (fuel + 1) cs) := by
  rw [readMembers.eq_def]
  dsimp only
  split
  case h_2 => exact staysWithin_fault _ _
  case h_1 rest =>
    have hname := (staysWithin_readQuoted rest).mono (List.suffix_cons '"' rest)
    cases hn : readQuoted rest with
    | error e => exact (hn ▸ hname).error
    | ok name =>
      have hspace := (skipSpace_suffix name.2).trans (hname.rest name hn)
      dsimp only
      generalize skipSpace name.2 = after at hspace
      split
      case h_2 => exact staysWithin_fault _ _
      case h_1 rest =>
        have hmember := (hvalue (skipSpace rest)).mono
          (((skipSpace_suffix rest).trans (List.suffix_cons _ _)).trans hspace)
        cases hv : readValue fuel (skipSpace rest) with
        | error e => exact (hv ▸ hmember).error
        | ok r =>
          have hspace := (skipSpace_suffix r.2).trans (hmember.rest r hv)
          dsimp only
          generalize skipSpace r.2 = after at hspace
          split
          · exact staysWithin_ok ((List.suffix_cons _ _).trans hspace)
          · exact ((hmembers _).map _).mono
              (((skipSpace_suffix _).trans (List.suffix_cons _ _)).trans hspace)
          · exact staysWithin_fault _ _

end Step

theorem staysWithin_readers (fuel : Nat) :
    (∀ cs, StaysWithin cs (readValue fuel cs)) ∧ (∀ cs, StaysWithin cs (readItems fuel cs)) ∧
      ∀ cs, StaysWithin cs (readMembers fuel cs) := by
  induction fuel with
  | zero =>
    exact ⟨fun _ => staysWithin_fault _ _, fun _ => staysWithin_fault _ _,
      fun _ => staysWithin_fault _ _⟩
  | succ fuel ih =>
    obtain ⟨hvalue, hitems, hmembers⟩ := ih
    exact ⟨staysWithin_readValue_succ hitems hmembers, staysWithin_readItems_succ hvalue hitems,
      staysWithin_readMembers_succ hvalue hmembers⟩

/-- A text in which an integer is refused has that many digits standing together. -/
theorem hasDigitRun_of_read {text : String} {n : Nat} (h : read text = .error (.longInteger n)) :
    IntegerText.maxLength < n ∧ HasDigitRun n text.toList := by
  rw [read] at h
  dsimp only at h
  split at h
  · cases h
  · cases hv : readValue (2 * text.toList.length + 2) (skipSpace text.toList) with
    | error e =>
      rw [hv] at h
      obtain rfl : e = .longInteger n := Except.error.inj h
      exact (((staysWithin_readers _).1 _).mono (skipSpace_suffix _)).long n hv
    | ok r =>
      rw [hv] at h
      dsimp only at h
      split at h <;> cases h

end Json

end IdentityClaims
