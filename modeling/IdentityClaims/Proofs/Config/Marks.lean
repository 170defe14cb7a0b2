import IdentityClaims.Proofs.Config.Substitution

/-!
# Marks in a placeholder

A placeholder is split at the first colon that has a hyphen behind it, wherever that is, and only
without one at the first colon that has a question mark behind it. So a message with a colon and a
hyphen in it is read as a default: the variable is not required any more. Main statement:
`Template.substitute_withMessage`.
-/

namespace IdentityClaims

namespace Placeholder

variable {mark : Char} {cs before after : List Char}

/-! ## The first mark -/

theorem splitAtMark_cons {c : Char} (h : ¬ [':', mark] <+: c :: cs) :
    splitAtMark mark (c :: cs) = (splitAtMark mark cs).map fun p => (c :: p.1, p.2) := by
  cases cs with
  | nil => rfl
  | cons d rest =>
    rw [splitAtMark, if_neg]
    rintro ⟨rfl, rfl⟩
    exact h ⟨rest, rfl⟩

theorem splitAtMark_of_absent (h : ¬ [':', mark] <:+: cs) : splitAtMark mark cs = none := by
  induction cs with
  | nil => rfl
  | cons c cs ih =>
    rw [List.infix_cons_iff, not_or] at h
    rw [splitAtMark_cons h.1, ih h.2, Option.map_none]

theorem splitAtMark_append (hmark : mark ≠ ':') (h : ¬ [':', mark] <:+: before)
    (after : List Char) :
    splitAtMark mark (before ++ ':' :: mark :: after) = some (before, after) := by
  induction before with
  | nil => simp [splitAtMark]
  | cons c before ih =>
    rw [List.infix_cons_iff, not_or] at h
    have hpre : ¬ [':', mark] <+: c :: (before ++ ':' :: mark :: after) := by
      cases before with
      | nil => simp [List.cons_prefix_cons, hmark]
      | cons d before => simpa [List.cons_prefix_cons] using h.1
    rw [List.cons_append, splitAtMark_cons hpre, ih h.2, Option.map_some]

theorem exists_first_mark (h : [':', mark] <:+: cs) :
    ∃ before after, cs = before ++ ':' :: mark :: after ∧ ¬ [':', mark] <:+: before := by
  induction cs with
  | nil => simp at h
  | cons c cs ih =>
    by_cases hpre : [':', mark] <+: c :: cs
    · obtain ⟨after, hafter⟩ := hpre
      exact ⟨[], after, hafter.symm, by simp⟩
    · obtain ⟨before, after, rfl, hfirst⟩ := ih ((List.infix_cons_iff.1 h).resolve_left hpre)
      refine ⟨c :: before, after, rfl, fun hin => ?_⟩
      rcases List.infix_cons_iff.1 hin with hstart | hrest
      · exact hpre (hstart.trans (List.prefix_append (c :: before) (':' :: mark :: after)))
      · exact hfirst hrest

/-! ## What stands between the braces -/

variable {name : List Char}

theorem ofBody_withDefault (h : ¬ [':', '-'] <:+: name) (default : List Char) :
    ofBody (name ++ ':' :: '-' :: default) = .withDefault (.ofList name) (.ofList default) := by
  rw [ofBody, splitAtMark_append (by decide) h]

theorem ofBody_withMessage {message : List Char} (h : ¬ [':', '?'] <:+: name)
    (hdefault : ¬ [':', '-'] <:+: name ++ ':' :: '?' :: message) :
    ofBody (name ++ ':' :: '?' :: message) = .withMessage (.ofList name) (.ofList message) := by
  rw [ofBody, splitAtMark_of_absent hdefault, splitAtMark_append (by decide) h]

theorem infix_append_iff (h : ':' ∉ name) :
    [':', mark] <:+: name ++ cs ↔ [':', mark] <:+: cs := by
  induction name with
  | nil => rfl
  | cons c name ih =>
    rw [List.mem_cons, not_or] at h
    rw [List.cons_append, List.infix_cons_iff, ih h.2, or_iff_right]
    exact fun hpre => h.1 (List.cons_prefix_cons.1 hpre).1

theorem infix_message_iff (h : ':' ∉ name) :
    [':', '-'] <:+: name ++ ':' :: '?' :: cs ↔ [':', '-'] <:+: cs := by
  rw [infix_append_iff h, List.infix_cons_iff, List.infix_cons_iff]
  simp [List.cons_prefix_cons]

end Placeholder

namespace Template

variable {name message : String}

/-- The name of a variable, as it can stand in front of a mark. -/
structure IsName (name : String) : Prop where
  ne_empty : name ≠ ""
  colon_not_mem : ':' ∉ name.toList
  closing_not_mem : closing ∉ name.toList

namespace IsName

theorem not_marked (h : IsName name) (mark : Char) : ¬ [':', mark] <:+: name.toList :=
  fun hin => h.colon_not_mem (hin.subset List.mem_cons_self)

theorem isBody_append (h : IsName name) {mark rest : String} (hmark : closing ∉ mark.toList)
    (hrest : closing ∉ rest.toList) : IsBody (name ++ mark ++ rest).toList where
  ne_nil hnil := by
    simp only [String.toList_append, List.append_eq_nil_iff, String.toList_eq_nil_iff] at hnil
    exact h.ne_empty hnil.1.1
  closing_not_mem hmem := by
    simp only [String.toList_append, List.mem_append] at hmem
    exact hmem.elim (fun hmem => hmem.elim h.closing_not_mem hmark) hrest

end IsName

/-! ## A default -/

/-- A name without a mark stands for its variable, and for the default if that is not set. -/
theorem bodyValue_default (vars : Variables) (h : ¬ ":-".toList <:+: name.toList)
    (default : String) :
    bodyValue vars (name ++ ":-" ++ default) = .ok ((Entries.get? vars name).getD default) := by
  have htext : (name ++ ":-" ++ default).toList = name.toList ++ ':' :: '-' :: default.toList := by
    simp
  have hbody : Placeholder.ofBody (name ++ ":-" ++ default).toList = .withDefault name default := by
    rw [htext, Placeholder.ofBody_withDefault h, String.ofList_toList, String.ofList_toList]
  rw [bodyValue, hbody]
  rfl

/-! ## A message -/

theorem toList_withMessage (name message : String) :
    (name ++ ":?" ++ message).toList = name.toList ++ ':' :: '?' :: message.toList := by
  simp

theorem bodyValue_message (vars : Variables) (hname : IsName name)
    (h : ¬ ":-".toList <:+: message.toList) :
    bodyValue vars (name ++ ":?" ++ message) =
      match Entries.get? vars name with
      | some value => .ok value
      | none => .error (.notSetBecause name message) := by
  have hdefault : ¬ [':', '-'] <:+: name.toList ++ ':' :: '?' :: message.toList := by
    rwa [Placeholder.infix_message_iff hname.colon_not_mem]
  have hbody : Placeholder.ofBody (name ++ ":?" ++ message).toList = .withMessage name message := by
    rw [toList_withMessage, Placeholder.ofBody_withMessage (hname.not_marked '?') hdefault,
      String.ofList_toList, String.ofList_toList]
  rw [bodyValue, hbody]
  rfl

/-- A message with the mark of a default in it is split there: what stands before is taken for the
name. -/
theorem exists_bodyValue_message (vars : Variables) (hname : IsName name)
    (h : ":-".toList <:+: message.toList) :
    ∃ before after, message = before ++ ":-" ++ after ∧ ¬ ":-".toList <:+: before.toList ∧
      bodyValue vars (name ++ ":?" ++ message) =
        .ok ((Entries.get? vars (name ++ ":?" ++ before)).getD after) := by
  have hmark : [':', '-'] <:+: message.toList := h
  obtain ⟨before, after, hmessage, hfirst⟩ := Placeholder.exists_first_mark hmark
  have hbefore : (String.ofList before).toList = before := String.toList_ofList
  refine ⟨.ofList before, .ofList after, ?_, hbefore.symm ▸ hfirst, ?_⟩
  · rw [← String.toList_inj, hmessage]
    simp
  · have hshift : name ++ ":?" ++ message =
        name ++ ":?" ++ String.ofList before ++ ":-" ++ String.ofList after := by
      rw [← String.toList_inj, toList_withMessage, hmessage]
      simp
    have hfirst' : ¬ [':', '-'] <:+: (name ++ ":?" ++ String.ofList before).toList := by
      rw [toList_withMessage, hbefore, Placeholder.infix_message_iff hname.colon_not_mem]
      exact hfirst
    rw [hshift, bodyValue_default vars hfirst']

/-- A placeholder with a message stands for its variable, and without it for an error with the
message, provided that the message has no mark of a default in it. With such a mark it never fails:
what stands behind the mark is a default, and the variable that is asked for has a name of which the
start of the message is a part. -/
theorem substitute_withMessage (vars : Variables) {name message : String} (hname : IsName name)
    (hmessage : closing ∉ message.toList) :
    (¬ ":-".toList <:+: message.toList →
      substitute vars (written (name ++ ":?" ++ message)) =
        match Entries.get? vars name with
        | some value => .ok value
        | none => .error (.notSetBecause name message)) ∧
    (":-".toList <:+: message.toList →
      ∃ before after, message = before ++ ":-" ++ after ∧ ¬ ":-".toList <:+: before.toList ∧
        substitute vars (written (name ++ ":?" ++ message)) =
          .ok ((Entries.get? vars (name ++ ":?" ++ before)).getD after)) ∧
    (TemplateError.notSetBecause name message).message =
      "Required environment variable " ++ name ++ ": " ++ message := by
  have hmark : closing ∉ ":?".toList := by decide
  rw [substitute_written vars (hname.isBody_append hmark hmessage)]
  exact ⟨bodyValue_message vars hname, exists_bodyValue_message vars hname, rfl⟩

theorem isName_port : IsName "PORT" := ⟨by decide, by decide, by decide⟩

theorem substitute_withMessage_port :
    IsName "PORT" ∧ closing ∉ "no port: set one".toList ∧ closing ∉ "set host:-port".toList ∧
      ¬ ":-".toList <:+: "no port: set one".toList ∧ ":-".toList <:+: "set host:-port".toList ∧
      substitute [] (written ("PORT" ++ ":?" ++ "no port: set one")) =
        .error (.notSetBecause "PORT" "no port: set one") ∧
      ∃ before after, "set host:-port" = before ++ ":-" ++ after ∧
        substitute [] (written ("PORT" ++ ":?" ++ "set host:-port")) = .ok after := by
  have hplain : closing ∉ "no port: set one".toList := by decide
  have hsplit : closing ∉ "set host:-port".toList := by decide
  have habsent : ¬ ":-".toList <:+: "no port: set one".toList := by decide
  have hmarked : ":-".toList <:+: "set host:-port".toList := by decide
  obtain ⟨hrequired, -, -⟩ := substitute_withMessage [] isName_port hplain
  obtain ⟨-, hdefault, -⟩ := substitute_withMessage [] isName_port hsplit
  obtain ⟨before, after, hmessage, -, hfill⟩ := hdefault hmarked
  exact ⟨isName_port, hplain, hsplit, habsent, hmarked, hrequired habsent, before, after, hmessage,
    hfill⟩

/-- A variable that is required with a message which has the mark of a default in it is not
required: the text is filled without it. -/
theorem unset_with_message_filled :
    IsName "PORT" ∧ closing ∉ "set host:-port".toList ∧
      substitute [] (written ("PORT" ++ ":?" ++ "set host:-port")) = .ok "port" := by
  have hsplit : closing ∉ "set host:-port".toList := by decide
  refine ⟨isName_port, hsplit, ?_⟩
  rw [substitute_written [] (isName_port.isBody_append (by decide) hsplit)]
  rfl

end Template

end IdentityClaims
