import IdentityClaims.Proofs.Text.TagGrammar

/-!
# The subtags of a language tag

A text is cut at every hyphen into pieces, of which there is at least one. A tag is in the grammar
exactly when each piece is a subtag, so what is refused can be read off the pieces: an empty one
stands at the start, at the end or between two hyphens, and any character but a hyphen is in some
piece. Main statement: `TagCheck.structural_accepts_iff_pieces`.
-/

namespace IdentityClaims

namespace Tag

variable {cs piece : List Char} {pieces : List (List Char)} {c : Char}

/-! ## Pieces -/

/-- What a text is cut into at every hyphen. -/
def cut (cs : List Char) : List (List Char) := cs.splitOn '-'

theorem intercalate_hyphen (piece : List Char) (pieces : List (List Char)) :
    ['-'].intercalate (piece :: pieces) = piece ++ (pieces.map ('-' :: ·)).flatten := by
  induction pieces generalizing piece with
  | nil => simp
  | cons next pieces ih => simp [ih]

theorem exists_cut_eq_cons (cs : List Char) : ∃ piece pieces, cut cs = piece :: pieces :=
  List.exists_cons_of_ne_nil (List.splitOn_ne_nil '-' cs)

theorem eq_of_cut_eq_cons (h : cut cs = piece :: pieces) :
    cs = piece ++ (pieces.map ('-' :: ·)).flatten := by
  rw [← intercalate_hyphen, ← h, cut, List.intercalate_splitOn]

/-- Any character but a hyphen is in some piece. -/
theorem exists_mem_cut (hc : c ∈ cs) (hne : c ≠ '-') : ∃ piece ∈ cut cs, c ∈ piece := by
  obtain ⟨piece, pieces, hcut⟩ := exists_cut_eq_cons cs
  rw [eq_of_cut_eq_cons hcut, List.mem_append, List.mem_flatten] at hc
  rw [hcut]
  obtain hc | ⟨hyphened, hmem, hc⟩ := hc
  · exact ⟨piece, List.mem_cons_self, hc⟩
  · obtain ⟨next, hnext, rfl⟩ := List.mem_map.1 hmem
    exact ⟨next, List.mem_cons_of_mem piece hnext, (List.mem_cons.1 hc).resolve_left hne⟩

@[simp] theorem cut_nil : cut [] = [[]] := List.splitOn_nil '-'

@[simp] theorem cut_hyphen_cons (cs : List Char) : cut ('-' :: cs) = [] :: cut cs :=
  List.splitOn_append_cons_self_of_not_mem (List.not_mem_nil) cs

theorem cut_append_hyphen (cs ds : List Char) : cut (cs ++ '-' :: ds) = cut cs ++ cut ds :=
  List.splitOn_append_cons_self cs ds

/-! ## Subtags -/

theorem hyphen_not_mem_of_subtag (h : piece ∈ subtag) : '-' ∉ piece :=
  fun hmem => absurd (h.2.2 '-' hmem) (by decide)

theorem mem_hyphened_iff :
    cs ∈ ({['-']} : Language Char) * subtag ↔ ∃ piece ∈ subtag, '-' :: piece = cs := by
  rw [Language.mem_mul]
  constructor
  · rintro ⟨hyphen, rfl, piece, hpiece, rfl⟩
    exact ⟨piece, hpiece, rfl⟩
  · rintro ⟨piece, hpiece, rfl⟩
    exact ⟨['-'], rfl, piece, hpiece, rfl⟩

theorem mem_furtherSubtags_iff :
    cs ∈ furtherSubtags ↔ ∃ pieces : List (List Char), (∀ piece ∈ pieces, piece ∈ subtag) ∧
      cs = (pieces.map ('-' :: ·)).flatten := by
  rw [furtherSubtags, Language.mem_kstar]
  constructor
  · rintro ⟨hyphened, rfl, hall⟩
    refine ⟨hyphened.map List.tail, ?_, ?_⟩
    · intro piece hpiece
      obtain ⟨y, hy, rfl⟩ := List.mem_map.1 hpiece
      obtain ⟨piece, hsubtag, rfl⟩ := mem_hyphened_iff.1 (hall y hy)
      exact hsubtag
    · have hsame : ∀ y ∈ hyphened, (('-' :: ·) ∘ List.tail) y = id y := by
        intro y hy
        obtain ⟨piece, -, rfl⟩ := mem_hyphened_iff.1 (hall y hy)
        rfl
      rw [List.map_map, List.map_congr_left hsame, List.map_id]
  · rintro ⟨pieces, hpieces, rfl⟩
    refine ⟨pieces.map ('-' :: ·), rfl, fun y hy => ?_⟩
    obtain ⟨piece, hpiece, rfl⟩ := List.mem_map.1 hy
    exact mem_hyphened_iff.2 ⟨piece, hpieces piece hpiece, rfl⟩

theorem mem_grammar_iff_cut : cs ∈ grammar ↔ ∀ piece ∈ cut cs, piece ∈ subtag := by
  rw [grammar, Language.mem_mul]
  constructor
  · rintro ⟨piece, hpiece, further, hfurther, rfl⟩
    obtain ⟨pieces, hpieces, rfl⟩ := mem_furtherSubtags_iff.1 hfurther
    have hall : ∀ p ∈ piece :: pieces, p ∈ subtag := List.forall_mem_cons.2 ⟨hpiece, hpieces⟩
    rw [← intercalate_hyphen, cut, List.splitOn_intercalate '-'
      (fun p hp => hyphen_not_mem_of_subtag (hall p hp)) (List.cons_ne_nil _ _)]
    exact hall
  · intro h
    obtain ⟨piece, pieces, hcut⟩ := exists_cut_eq_cons cs
    rw [hcut, List.forall_mem_cons] at h
    exact ⟨piece, h.1, _, mem_furtherSubtags_iff.2 ⟨pieces, h.2, rfl⟩, (eq_of_cut_eq_cons hcut).symm⟩

/-! ## Letters and digits -/

theorem isAlphanum_iff : c.isAlphanum = true ↔
    ('A' ≤ c ∧ c ≤ 'Z' ∨ 'a' ≤ c ∧ c ≤ 'z') ∨ '0' ≤ c ∧ c ≤ '9' := by
  delta Char.isAlphanum Char.isAlpha Char.isUpper Char.isLower Char.isDigit
  simp only [Char.le_def, Bool.or_eq_true, Bool.and_eq_true, decide_eq_true_eq, ge_iff_le]

theorem isAlphanumeric_eq (c : Char) : isAlphanumeric c = c.isAlphanum := by
  rw [Bool.eq_iff_iff, isAlphanum_iff, isAlphanumeric]
  simp only [Bool.or_eq_true, Bool.and_eq_true, decide_eq_true_eq]
  tauto

theorem toNat_lt_of_isAlphanum (h : c.isAlphanum = true) : c.toNat < 128 := by
  have hz : c ≤ 'z' := by
    rcases isAlphanum_iff.1 h with (h | h) | h
    · exact Char.le_trans h.2 (by decide)
    · exact h.2
    · exact Char.le_trans h.2 (by decide)
  exact Nat.lt_of_le_of_lt (UInt32.le_iff_toNat_le.1 hz) (by decide)

theorem mem_subtag_iff : piece ∈ subtag ↔
    1 ≤ piece.length ∧ piece.length ≤ 8 ∧ ∀ c ∈ piece, c.isAlphanum = true := by
  simp only [← isAlphanumeric_eq]
  rfl

end Tag

namespace TagCheck

open Tag

variable {tag : String}

theorem structural_accepts_iff_cut :
    structural.accepts tag = true ↔ ∀ piece ∈ cut tag.toList, piece ∈ subtag := by
  rw [accepts, isWellFormed_iff, mem_grammar_iff_cut]

/-- A piece that is no subtag is enough to refuse a tag. -/
theorem structural_refuses {piece : List Char} (h : piece ∈ cut tag.toList) (hno : piece ∉ subtag) :
    structural.accepts tag = false :=
  Bool.eq_false_iff.2 fun haccepts => hno (structural_accepts_iff_cut.1 haccepts piece h)

theorem nil_not_mem_subtag : [] ∉ subtag := fun h => absurd h.1 (by simp)

/-- Nothing before or after a hyphen is an empty piece. -/
theorem structural_refuses_empty_piece (before after : List Char)
    (h : tag.toList = before ++ '-' :: after) (hempty : [] ∈ cut before ∨ [] ∈ cut after) :
    structural.accepts tag = false := by
  refine structural_refuses ?_ nil_not_mem_subtag
  rw [h, cut_append_hyphen, List.mem_append]
  exact hempty

theorem structural_refuses_char {c : Char} (hc : c ∈ tag.toList) (hne : c ≠ '-')
    (hno : c.isAlphanum = false) : structural.accepts tag = false := by
  obtain ⟨piece, hpiece, hmem⟩ := exists_mem_cut hc hne
  refine structural_refuses hpiece fun hsub => ?_
  rw [(mem_subtag_iff.1 hsub).2.2 c hmem] at hno
  cases hno

/-- The structural check accepts a tag exactly when all its pieces between hyphens are one to eight
ASCII letters or digits. So it refuses the empty tag, a hyphen at the start, at the end or behind
another one, a character outside of ASCII, a line feed at the end, and a piece of nine characters
or more. -/
theorem structural_accepts_iff_pieces :
    (∀ tag : String, structural.accepts tag = true ↔
      ∀ piece ∈ tag.toList.splitOn '-',
        1 ≤ piece.length ∧ piece.length ≤ 8 ∧ ∀ c ∈ piece, c.isAlphanum = true) ∧
    structural.accepts "" = false ∧
    (∀ rest : String, structural.accepts ("-" ++ rest) = false) ∧
    (∀ tag : String, structural.accepts (tag ++ "-") = false) ∧
    (∀ before after : String, structural.accepts (before ++ "--" ++ after) = false) ∧
    (∀ tag : String, ∀ c ∈ tag.toList, 128 ≤ c.toNat → structural.accepts tag = false) ∧
    (∀ tag : String, structural.accepts (tag ++ "\n") = false) ∧
    (∀ tag : String, ∀ piece ∈ tag.toList.splitOn '-', 9 ≤ piece.length →
      structural.accepts tag = false) := by
  refine ⟨?_, rfl, ?_, ?_, ?_, ?_, ?_, ?_⟩
  · intro tag
    simp only [structural_accepts_iff_cut, mem_subtag_iff, cut]
  · intro rest
    exact structural_refuses_empty_piece [] rest.toList (by simp) (by simp)
  · intro tag
    exact structural_refuses_empty_piece tag.toList [] (by simp) (by simp)
  · intro before after
    exact structural_refuses_empty_piece before.toList ('-' :: after.toList) (by simp) (by simp)
  · intro tag c hc hlarge
    have hno : c.isAlphanum = false :=
      Bool.eq_false_iff.2 fun halnum => absurd (toNat_lt_of_isAlphanum halnum) (by omega)
    have hne : c ≠ '-' := fun he => absurd hlarge (by rw [he]; decide)
    exact structural_refuses_char hc hne hno
  · intro tag
    exact structural_refuses_char (c := '\n') (by simp) (by decide) (by decide)
  · intro tag piece hpiece hlong
    exact structural_refuses hpiece fun hsub => absurd hsub.2.1 (by omega)

theorem structural_accepts_iff_pieces_script :
    structural.accepts "zh-Hant-TW" = true ∧ structural.accepts "fr-\xe9t\xe9" = false ∧
      structural.accepts "zh-Hantology1" = false := by
  obtain ⟨hpieces, -, -, -, -, hascii, -, hlong⟩ := structural_accepts_iff_pieces
  have hscript : "zh-Hant-TW".toList.splitOn '-' =
      [['z', 'h'], ['H', 'a', 'n', 't'], ['T', 'W']] := rfl
  refine ⟨(hpieces _).2 ?_, ?_, ?_⟩
  · rw [hscript]
    simp
  · exact hascii _ '\xe9' (by decide) (by decide)
  · exact hlong _ "Hantology1".toList (by decide) (by decide)

end TagCheck

end IdentityClaims
