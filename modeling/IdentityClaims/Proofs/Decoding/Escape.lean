import IdentityClaims.ClaimSet.Text
import IdentityClaims.Proofs.Json.DigitRun
import IdentityClaims.Proofs.Json.LongInteger
import Mathlib.Algebra.Group.Int.Defs

/-!
# Errors that escape from decoding a text

Whatever is wrong with a text is told as an error of decoding, but for one thing: the reader refuses
an integer with too many digits by an error of its own, and this comes through as it is. Main
statement: it does so only where that many digits stand together, and for a text that was written
for a map it does so exactly when an integer in the map has too many of them.
-/

namespace IdentityClaims

variable {source : JsonSource} {text : String} {n : Nat} {e : TextError}

theorem TextError.exists_of_escaping? (h : e.escaping?.isSome = true) :
    ∃ text n, e = .json text (.longInteger n) := by
  rw [escaping?.eq_def] at h
  split at h
  case h_1 text digits => exact ⟨text, digits, rfl⟩
  case h_2 => cases h

theorem JsonSource.eq_notUtf8_of_toText (h : source.toText = .error e) : e = .notUtf8 := by
  cases source with
  | text s => cases h
  | bytes bs =>
    rw [toText] at h
    cases hu : Utf8.decode bs with
    | error position =>
      rw [hu] at h
      exact (Except.error.inj h).symm
    | ok s =>
      rw [hu] at h
      cases h

theorem JsonSource.read_of_pairs {err : JsonError} (h : source.pairs = .error (.json text err)) :
    source.toText = .ok text ∧ Json.read text = .error err := by
  rw [pairs] at h
  split at h
  case h_1 e ht =>
    obtain rfl := eq_notUtf8_of_toText ht
    cases h
  case h_2 t ht =>
    split at h
    case h_1 e hr =>
      cases h
      exact ⟨ht, hr⟩
    case h_2 => cases h
    case h_3 => cases h

namespace Decoder

variable {d : Decoder}

theorem decodeText_eq_json_iff {err : JsonError} :
    d.decodeText source = .error (.json text err) ↔
      source.toText = .ok text ∧ Json.read text = .error err := by
  constructor
  · intro h
    rw [decodeText] at h
    cases hp : source.pairs with
    | error e =>
      rw [hp] at h
      exact JsonSource.read_of_pairs (hp.trans (congrArg Except.error (Except.error.inj h)))
    | ok pairs =>
      rw [hp] at h
      cases hd : d.decode pairs <;> simp [hd] at h
  · rintro ⟨ht, hr⟩
    rw [decodeText, JsonSource.pairs, ht]
    simp only [hr]

theorem exists_digitRun_of_escaping? (h : d.decodeText source = .error e)
    (he : e.escaping?.isSome = true) :
    ∃ text n, source.toText = .ok text ∧ e = .json text (.longInteger n) ∧
      IntegerText.maxLength < n ∧ Json.HasDigitRun n text.toList := by
  obtain ⟨text, n, rfl⟩ := TextError.exists_of_escaping? he
  obtain ⟨ht, hr⟩ := decodeText_eq_json_iff.1 h
  exact ⟨text, n, ht, rfl, Json.hasDigitRun_of_read hr⟩

/-- For a text that was written for a map, an error escapes exactly when the map holds an integer
with too many digits. -/
theorem escapes_render_iff {layout : JsonLayout} {pairs : List TextPair}
    (hlayout : Json.IsLayout layout) (hd : ∀ e ∈ pairs, e.2.IsFloatless) :
    (∃ e, d.decodeText (.text (Json.render layout 0 (.ofEntries pairs))) = .error e ∧
      e.escaping?.isSome = true) ↔ Json.refusal? layout (.ofEntries pairs) ≠ none := by
  rw [ofEntries_eq]
  constructor
  · rintro ⟨e, he, hescape⟩ hnone
    obtain ⟨text, n, rfl⟩ := TextError.exists_of_escaping? hescape
    obtain ⟨ht, hr⟩ := decodeText_eq_json_iff.1 he
    obtain ⟨ms, hms, -⟩ := Json.read_render hlayout hd hnone
    obtain rfl := Except.ok.inj ht
    rw [hms] at hr
    cases hr
  · intro hrefused
    obtain ⟨n, hn⟩ := Json.read_render_refused hlayout hd hrefused
    exact ⟨_, decodeText_eq_json_iff.2 ⟨rfl, hn⟩, rfl⟩

/-- A text is decoded to a claim set, or it fails with an error of decoding, or so many digits stand
together in it that the reader refuses them, and then the error is the reader's own. The last is
what happens to every text of a map with an integer of that many digits, however deep it lies. -/
theorem decodeText_escapes (d : Decoder) :
    (∀ source, (∃ s, d.decodeText source = .ok s) ∨
      (∃ e, d.decodeText source = .error e ∧ e.escaping? = none) ∨
      ∃ text n, source.toText = .ok text ∧ IntegerText.maxLength < n ∧
        Json.HasDigitRun n text.toList ∧
        d.decodeText source = .error (.json text (.longInteger n))) ∧
    ∀ (layout : JsonLayout) (pairs : List TextPair), Json.IsLayout layout →
      (∀ e ∈ pairs, e.2.IsFloatless) →
      ((∃ e, d.decodeText (.text (Json.render layout 0 (.ofEntries pairs))) = .error e ∧
        e.escaping?.isSome = true) ↔ Json.refusal? layout (.ofEntries pairs) ≠ none) := by
  refine ⟨fun source => ?_, fun layout pairs hlayout hd => escapes_render_iff hlayout hd⟩
  cases hd : d.decodeText source with
  | ok s => exact .inl ⟨s, rfl⟩
  | error e =>
    cases he : e.escaping? with
    | none => exact .inr (.inl ⟨e, rfl, he⟩)
    | some err =>
      obtain ⟨text, n, ht, rfl, hn, hrun⟩ :=
        exists_digitRun_of_escaping? hd (Option.isSome_iff_exists.2 ⟨err, he⟩)
      exact .inr (.inr ⟨text, n, ht, hn, hrun, rfl⟩)

/-- A one and as many zeros as an integer may have digits. -/
def longTime : Int := 10 ^ IntegerText.maxLength

def longTimePairs : List TextPair := [("sub", .text "a"), ("updated_at", .int longTime)]

def plainDecoder : Decoder := { policy := {} }

theorem isLayout_default : Json.IsLayout {} where
  indent s hs := by cases hs
  item := ⟨[], [' '], rfl, Json.blank_nil, Json.blank_cons rfl Json.blank_nil⟩
  key := ⟨[], [' '], rfl, Json.blank_nil, Json.blank_cons rfl Json.blank_nil⟩

theorem isFloatless_longTimePairs : ∀ e ∈ longTimePairs, e.2.IsFloatless := by
  simp only [longTimePairs, List.forall_mem_cons]
  exact ⟨.text _, .int _, by simp⟩

theorem refusal?_longTimePairs : Json.refusal? {} (.ofEntries longTimePairs) ≠ none := by
  intro hnone
  rw [ofEntries_eq, Json.refusal?, Json.refusalOfEntries?_eq_none_iff] at hnone
  have hshort : Json.integerRefusal? longTime = none :=
    hnone ("updated_at", .int longTime) (by simp [longTimePairs])
  have hten : (10 : Int).natAbs = 10 := rfl
  rw [Json.integerRefusal?_eq_none_iff, longTime, Int.natAbs_pow, hten] at hshort
  exact Nat.lt_irrefl _ hshort

theorem decodeText_escapes_longTime :
    Json.IsLayout {} ∧ (∀ e ∈ longTimePairs, e.2.IsFloatless) ∧
      ∃ e, plainDecoder.decodeText (.text (Json.render {} 0 (.ofEntries longTimePairs))) =
        .error e ∧ e.escaping?.isSome = true := by
  obtain ⟨-, hwritten⟩ := decodeText_escapes plainDecoder
  exact ⟨isLayout_default, isFloatless_longTimePairs,
    (hwritten {} longTimePairs isLayout_default isFloatless_longTimePairs).2
      refusal?_longTimePairs⟩

end Decoder

end IdentityClaims
