import IdentityClaims.Config.Template
import Mathlib.Data.List.Infix
import Mathlib.Data.List.TakeWhile

/-!
# Templates from left to right

A placeholder begins where a dollar sign and an opening brace stand before a closing brace with
something between them, and ends at the first closing brace. Everything in front of the first
placeholder is literal, and the text behind a placeholder is a template of its own. Main statement:
`Template.substitute_left_to_right`.
-/

namespace IdentityClaims

namespace Template

variable {vars : Variables} {cs body after : List Char} {c : Char}

/-! ## Where a placeholder begins -/

def opening : String := "$\x7b"

def closing : Char := '\x7d'

/-- What can stand between the braces of a placeholder. -/
structure IsBody (body : List Char) : Prop where
  ne_nil : body ≠ []
  closing_not_mem : closing ∉ body

/-- A placeholder as it is written. -/
def written (body : String) : String := opening ++ body ++ String.singleton closing

theorem toList_written (body : String) :
    (written body).toList = '$' :: '\x7b' :: (body.toList ++ [closing]) := by
  simp [written, opening]

/-- A text begins with a placeholder. -/
def BeginsPlaceholder (cs : List Char) : Prop :=
  ∃ body after, IsBody body ∧ cs = '$' :: '\x7b' :: (body ++ closing :: after)

theorem isBody_iff : isBody c = true ↔ c ≠ closing := bne_iff_ne

theorem takeWhile_isBody (h : closing ∉ body) (after : List Char) :
    (body ++ closing :: after).takeWhile isBody = body := by
  have hbody : ∀ c ∈ body, isBody c = true := fun c hc => isBody_iff.2 (ne_of_mem_of_not_mem hc h)
  rw [List.takeWhile_append_of_pos hbody, List.takeWhile_cons_of_neg (by decide), List.append_nil]

theorem dropWhile_isBody (h : closing ∉ body) (after : List Char) :
    (body ++ closing :: after).dropWhile isBody = closing :: after := by
  have hbody : ∀ c ∈ body, isBody c = true := fun c hc => isBody_iff.2 (ne_of_mem_of_not_mem hc h)
  rw [List.dropWhile_append_of_pos hbody, List.dropWhile_cons_of_neg (by decide)]

theorem eq_append_of_dropWhile_isBody {inner : List Char}
    (h : inner.dropWhile isBody = c :: after) :
    closing ∉ inner.takeWhile isBody ∧ inner = inner.takeWhile isBody ++ closing :: after := by
  have hc : c = closing := by
    by_contra hne
    have hhead := List.head?_dropWhile_not isBody inner
    rw [h] at hhead
    simp [isBody_iff.2 hne] at hhead
  subst hc
  refine ⟨fun hmem => ?_, ?_⟩
  · exact absurd rfl (isBody_iff.1 (List.mem_takeWhile_imp hmem))
  · rw [← h, List.takeWhile_append_dropWhile]

theorem parts_placeholder (h : IsBody body) (after : List Char) :
    parts ('$' :: '\x7b' :: (body ++ closing :: after)) = .placeholder body :: parts after := by
  rw [parts.eq_def]
  have hdrop := dropWhile_isBody h.closing_not_mem after
  simp only
  split
  · rename_i d rest hrest
    rw [hdrop, List.cons.injEq] at hrest
    rw [takeWhile_isBody h.closing_not_mem, if_neg (by simpa using h.ne_nil), hrest.2]
  · rename_i hrest
    rw [hdrop] at hrest
    cases hrest

theorem parts_literal (h : ¬ BeginsPlaceholder (c :: cs)) :
    parts (c :: cs) = .literal c :: parts cs := by
  rw [parts.eq_def]
  simp only
  split
  · rename_i inner
    split
    · rename_i d rest hrest
      obtain ⟨hnot, happ⟩ := eq_append_of_dropWhile_isBody hrest
      have hempty : inner.takeWhile isBody = [] := by
        by_contra hne
        exact h ⟨_, rest, ⟨hne, hnot⟩, by rw [← happ]⟩
      rw [hempty]
      rfl
    · rfl
  · rfl

/-- Text that holds no opening, in front of a placeholder, is literal. -/
theorem parts_append_placeholder {before : List Char} (hbefore : ¬ opening.toList <:+: before)
    (h : IsBody body) (after : List Char) :
    parts (before ++ '$' :: '\x7b' :: (body ++ closing :: after)) =
      before.map .literal ++ .placeholder body :: parts after := by
  induction before with
  | nil => exact parts_placeholder h after
  | cons c before ih =>
    have hbegins : ¬ BeginsPlaceholder
        (c :: (before ++ '$' :: '\x7b' :: (body ++ closing :: after))) := by
      rintro ⟨body', after', -, happ⟩
      obtain ⟨rfl, hrest⟩ := List.cons_eq_cons.1 happ
      cases before with
      | nil => cases (List.cons_eq_cons.1 hrest).1
      | cons d before =>
        obtain ⟨rfl, -⟩ := List.cons_eq_cons.1 hrest
        exact hbefore ⟨[], before, rfl⟩
    rw [List.cons_append, parts_literal hbegins,
      ih fun hin => hbefore (hin.trans (List.suffix_cons c before).isInfix),
      List.map_cons, List.cons_append]

theorem parts_eq_map_literal
    (h : ∀ before after, cs = before ++ after → ¬ BeginsPlaceholder after) :
    parts cs = cs.map .literal := by
  induction cs with
  | nil => rw [parts]; rfl
  | cons c cs ih =>
    rw [parts_literal (h [] (c :: cs) rfl), List.map_cons,
      ih fun before after happ => h (c :: before) after (by rw [happ, List.cons_append])]

/-! ## Filling in -/

theorem render_append (vars : Variables) (ps qs : List TemplatePart) :
    render vars (ps ++ qs) =
      (render vars ps).bind fun front => (render vars qs).map (front ++ ·) := by
  induction ps with
  | nil => cases h : render vars qs <;> simp [h, render, Except.map, Except.bind]
  | cons p ps ih =>
    cases p with
    | literal c =>
      rw [List.cons_append, render, render, ih]
      cases render vars ps <;> cases render vars qs <;> rfl
    | placeholder body =>
      rw [List.cons_append, render, render, ih]
      cases (Placeholder.ofBody body).resolve vars with
      | error e => rfl
      | ok value =>
        cases render vars ps <;> cases render vars qs <;> simp [Except.map, Except.bind]

theorem render_literals (vars : Variables) (cs : List Char) :
    render vars (cs.map .literal) = .ok cs := by
  induction cs with
  | nil => rfl
  | cons c cs ih =>
    rw [List.map_cons, render, ih]
    rfl

def bodyValue (vars : Variables) (body : String) : Except TemplateError String :=
  (Placeholder.ofBody body.toList).resolve vars

/-- The text up to the first placeholder stays, then comes what the placeholder stands for, and the
rest of the text is filled on its own. -/
theorem substitute_append_written (vars : Variables) {before body : String}
    (hbefore : ¬ opening.toList <:+: before.toList) (hbody : IsBody body.toList) (after : String) :
    substitute vars (before ++ written body ++ after) =
      (bodyValue vars body).bind fun value =>
        (substitute vars after).map fun rest => before ++ value ++ rest := by
  have htext : (before ++ written body ++ after).toList =
      before.toList ++ '$' :: '\x7b' :: (body.toList ++ closing :: after.toList) := by
    simp [toList_written]
  rw [substitute, htext, parts_append_placeholder hbefore hbody, render_append, render_literals,
    render, bodyValue]
  cases (Placeholder.ofBody body.toList).resolve vars with
  | error e => rfl
  | ok value =>
    rw [substitute]
    cases render vars (parts after.toList) with
    | error e => rfl
    | ok rest => simp [Except.map, Except.bind, String.ofList_append, String.append_assoc]

theorem substitute_written_append (vars : Variables) {body : String} (hbody : IsBody body.toList)
    (after : String) :
    substitute vars (written body ++ after) =
      (bodyValue vars body).bind fun value => (substitute vars after).map (value ++ ·) := by
  have hnone : ¬ opening.toList <:+: "".toList := by decide
  simpa using substitute_append_written vars hnone hbody after

theorem substitute_written (vars : Variables) {body : String} (hbody : IsBody body.toList) :
    substitute vars (written body) = bodyValue vars body := by
  have hempty : substitute vars "" = .ok "" := by simp [substitute, parts, render, Except.map]
  have hfill := substitute_written_append vars hbody ""
  rw [String.append_empty, hempty] at hfill
  rw [hfill]
  cases bodyValue vars body <;> simp [Except.bind, Except.map]

/-- A text with no placeholder in it is as it was. -/
theorem substitute_of_no_placeholder {text : String}
    (h : ∀ before body after, IsBody body.toList → text ≠ before ++ written body ++ after) :
    substitute vars text = .ok text := by
  have hparts : parts text.toList = text.toList.map .literal := by
    refine parts_eq_map_literal ?_
    rintro before _ happ ⟨body, after, hbody, rfl⟩
    refine h (.ofList before) (.ofList body) (.ofList after) (by simpa using hbody) ?_
    rw [← String.toList_inj, happ]
    simp [toList_written]
  rw [substitute, hparts, render_literals]
  simp [Except.map]

theorem substitute_of_no_opening {text : String} (h : ¬ opening.toList <:+: text.toList) :
    substitute vars text = .ok text := by
  refine substitute_of_no_placeholder ?_
  rintro before body after - rfl
  exact h ⟨before.toList, body.toList ++ closing :: after.toList, by simp [toList_written, opening]⟩

/-- A template is filled in one pass from left to right. A placeholder gives what it stands for,
which is not looked at again, the literal text in front of it stays, and the text behind it is
filled on its own; of several placeholders that stand for nothing the first gives the error. A text
with no placeholder in it is as it was, whatever dollar signs and braces it has. -/
theorem substitute_left_to_right (vars : Variables) :
    (∀ before body after : String, ¬ opening.toList <:+: before.toList → IsBody body.toList →
      substitute vars (before ++ written body ++ after) =
        ((bodyValue vars body).bind fun value =>
          (substitute vars after).map fun rest => before ++ value ++ rest) ∧
      ∀ e, substitute vars (before ++ written body ++ after) = .error e ↔
        bodyValue vars body = .error e ∨
          (∃ value, bodyValue vars body = .ok value) ∧ substitute vars after = .error e) ∧
    ∀ text : String,
      (∀ before body after, IsBody body.toList → text ≠ before ++ written body ++ after) →
      substitute vars text = .ok text := by
  refine ⟨fun before body after hbefore hbody => ?_, fun _ => substitute_of_no_placeholder⟩
  have hfill := substitute_append_written vars hbefore hbody after
  refine ⟨hfill, fun e => ?_⟩
  rw [hfill]
  cases bodyValue vars body with
  | error e' => simp [Except.bind]
  | ok value => cases substitute vars after <;> simp [Except.bind, Except.map]

def nestedVariables : Variables := [("OUTER", "$\x7bINNER\x7d"), ("INNER", "x")]

theorem substitute_left_to_right_nested :
    ¬ opening.toList <:+: "a $".toList ∧ IsBody "OUTER".toList ∧
      (∀ before body after, IsBody body.toList →
        "$\x7b\x7d" ≠ before ++ written body ++ after) ∧
      substitute nestedVariables ("a $" ++ written "OUTER" ++ "$\x7b\x7d") =
        .ok "a $$\x7bINNER\x7d$\x7b\x7d" := by
  have hbefore : ¬ opening.toList <:+: "a $".toList := by decide
  have hbody : IsBody "OUTER".toList := ⟨by decide, by decide⟩
  have hempty : ∀ before body after, IsBody body.toList →
      "$\x7b\x7d" ≠ before ++ written body ++ after := by
    intro before body after h htext
    have hpos := List.length_pos_iff.2 h.ne_nil
    have hlength := congrArg (fun s => s.toList.length) htext
    simp [toList_written] at hlength hpos
    omega
  obtain ⟨hfill, hplain⟩ := substitute_left_to_right nestedVariables
  obtain ⟨heq, -⟩ := hfill "a $" "OUTER" "$\x7b\x7d" hbefore hbody
  rw [hplain _ hempty] at heq
  exact ⟨hbefore, hbody, hempty, heq⟩

end Template

end IdentityClaims
