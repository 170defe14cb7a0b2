import IdentityClaims.Json.Options
import IdentityClaims.Json.Reader
import IdentityClaims.Json.Writer

/-!
# Layouts that JSON allows

A layout that JSON allows indents by blanks, and separates by comma and colon with blanks around
them. Every layout is one that was asked for with an indent of blanks, or of some number of spaces,
and with such separators, if any.
-/

namespace IdentityClaims

namespace Json

def Blank (cs : List Char) : Prop := ∀ c ∈ cs, isSpace c = true

def IsSeparator (mark : Char) (s : String) : Prop :=
  ∃ before after, s.toList = before ++ mark :: after ∧ Blank before ∧ Blank after

structure IsLayout (layout : JsonLayout) : Prop where
  indent : ∀ s, layout.indent = some s → Blank s.toList
  item : IsSeparator ',' layout.itemSeparator
  key : IsSeparator ':' layout.keySeparator

variable {cs : List Char} {mark : Char} {s t : String} {layout : JsonLayout}

theorem Blank.append {ds : List Char} (hc : Blank cs) (hd : Blank ds) : Blank (cs ++ ds) := by
  intro c hcd
  rcases List.mem_append.1 hcd with h | h
  · exact hc c h
  · exact hd c h

theorem blank_nil : Blank [] := by
  intro c hc
  cases hc

theorem blank_cons {c : Char} (hc : isSpace c = true) (h : Blank cs) : Blank (c :: cs) := by
  intro c' hc'
  rcases List.mem_cons.1 hc' with rfl | hc'
  · exact hc
  · exact h c' hc'

theorem blank_replicate (n : Nat) : Blank (List.replicate n ' ') := by
  intro c hc
  rw [(List.mem_replicate.1 hc).2]
  rfl

theorem IsSeparator.append (h : IsSeparator mark s) (ht : Blank t.toList) :
    IsSeparator mark (s ++ t) := by
  obtain ⟨before, after, hs, hb, ha⟩ := h
  exact ⟨before, after ++ t.toList, by simp [hs], hb, ha.append ht⟩

theorem blank_lineBreak (h : IsLayout layout) (depth : Nat) :
    Blank (lineBreak layout depth).toList := by
  rw [lineBreak]
  cases hi : layout.indent with
  | none => exact blank_nil
  | some indent =>
      rw [String.toList_append, String.toList_join]
      refine (blank_cons rfl blank_nil).append fun c hc => ?_
      obtain ⟨s, hs, hc⟩ := List.mem_flatMap.1 hc
      rw [(List.mem_replicate.1 hs).2] at hc
      exact h.indent indent hi c hc

end Json

namespace JsonLayout

/-- The value of a layout option; null if it is not given. -/
def option (options : List (Data × Data)) (name : String) : Data :=
  (Data.lookup options (.text name)).getD .null

/-- Options that ask for an indent of blanks, if for one of text, and for a comma and a colon with
blanks around them as separators, if for any. -/
structure AsksForJson (options : List (Data × Data)) : Prop where
  indent : ∀ s, option options "indent" = .text s → Json.Blank s.toList
  separators : ∀ item key, pairOf (option options "separators") = .ok (.text item, .text key) →
    Json.IsSeparator ',' item ∧ Json.IsSeparator ':' key

variable {options : List (Data × Data)} {layout : JsonLayout}

theorem blank_of_indentOf {d : Data} {indent? : Option String}
    (hd : ∀ s, d = .text s → Json.Blank s.toList) (h : indentOf d = .ok indent?) :
    ∀ s, indent? = some s → Json.Blank s.toList := by
  rintro s rfl
  cases d with
  | null => cases h
  | bool b =>
      cases h
      cases b with
      | false => exact Json.blank_nil
      | true => exact Json.blank_cons rfl Json.blank_nil
  | int n =>
      cases h
      rw [String.toList_ofList]
      exact Json.blank_replicate _
  | text t =>
      cases h
      exact hd s rfl
  | _ => cases h

theorem texts_of_separatorTexts {onLines : Bool} {item key : Data} {s t : String}
    (h : separatorTexts onLines item key = .ok (s, t)) : item = .text s ∧ key = .text t := by
  unfold separatorTexts at h
  split at h
  · cases h
    exact ⟨rfl, rfl⟩
  all_goals cases h

/-- Where the parts of a layout come from: the separators are the ones that were asked for, or the
usual ones of the layout. -/
theorem parts_of_ofOptions (h : ofOptions options = .ok layout) :
    indentOf (option options "indent") = .ok layout.indent ∧
      (pairOf (option options "separators") =
          .ok (.text layout.itemSeparator, .text layout.keySeparator) ∨
        layout.itemSeparator = (if layout.indent.isSome then "," else ", ") ∧
          layout.keySeparator = ": ") := by
  unfold ofOptions at h
  split at h
  · cases h
  · simp only [bind, Except.bind, pure, Except.pure] at h
    cases hi : indentOf ((Data.lookup options (.text "indent")).getD .null) with
    | error e =>
        simp only [hi] at h
        split at h
        · cases h
        · cases hp : pairOf ((Data.lookup options (.text "separators")).getD .null) <;>
            simp [hp, Except.map] at h
    | ok indent? =>
        simp only [hi] at h
        split at h
        · cases h
          exact ⟨hi, .inr ⟨rfl, rfl⟩⟩
        · cases hp : pairOf ((Data.lookup options (.text "separators")).getD .null) with
          | error e => simp [hp, Except.map] at h
          | ok pair =>
              simp only [hp, Except.map] at h
              cases hs : separatorTexts indent?.isSome pair.1 pair.2 with
              | error e => simp [hs] at h
              | ok texts =>
                  simp only [hs] at h
                  cases h
                  obtain ⟨hitem, hkey⟩ := texts_of_separatorTexts hs
                  exact ⟨hi, .inl (hp.trans (congrArg Except.ok (Prod.ext hitem hkey)))⟩

/-- A layout is one that JSON allows, if the options ask for no other. -/
theorem isLayout_of_ofOptions (ha : AsksForJson options) (h : ofOptions options = .ok layout) :
    Json.IsLayout layout := by
  obtain ⟨hindent, hseparators⟩ := parts_of_ofOptions h
  have hblank := blank_of_indentOf ha.indent hindent
  rcases hseparators with hpair | ⟨hitem, hkey⟩
  · exact ⟨hblank, (ha.separators _ _ hpair).1, (ha.separators _ _ hpair).2⟩
  · refine ⟨hblank, ?_, ?_⟩
    · rw [hitem]
      split
      · exact ⟨[], [], rfl, Json.blank_nil, Json.blank_nil⟩
      · exact ⟨[], [' '], rfl, Json.blank_nil, Json.blank_cons rfl Json.blank_nil⟩
    · rw [hkey]
      exact ⟨[], [' '], rfl, Json.blank_nil, Json.blank_cons rfl Json.blank_nil⟩

end JsonLayout

end IdentityClaims
