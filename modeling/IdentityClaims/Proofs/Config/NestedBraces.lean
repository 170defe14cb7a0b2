import IdentityClaims.Proofs.Config.Marks

/-!
# Braces in a default

A placeholder ends at the first closing brace, also where that brace closes one that the default has
opened. What stands behind it, the brace that was meant to end the placeholder among it, is filled
as text. So a default with braces comes out whole only where the variable is not set and the default
ends with all its closing braces. Main statement: `Template.substitute_withDefault`.
-/

namespace IdentityClaims

namespace Template

variable {vars : Variables} {cs inner more body : List Char}

/-! ## Balanced braces -/

structure Balanced (cs : List Char) : Prop where
  /-- Each closing brace closes an earlier opening one. -/
  closed_le : ∀ p, p <+: cs → p.count closing ≤ p.count '\x7b'
  /-- No brace is left open. -/
  all_closed : cs.count closing = cs.count '\x7b'

instance (cs : List Char) : Decidable (Balanced cs) :=
  decidable_of_iff ((∀ p ∈ cs.inits, p.count closing ≤ p.count '\x7b') ∧
      cs.count closing = cs.count '\x7b')
    ⟨fun h => ⟨fun p hp => h.1 p ((List.mem_inits p cs).2 hp), h.2⟩,
      fun h => ⟨fun p hp => h.closed_le p ((List.mem_inits p cs).1 hp), h.all_closed⟩⟩

theorem Balanced.closing_mem (h : Balanced (inner ++ '\x7b' :: more)) : closing ∈ more := by
  by_contra hmore
  have hle := h.closed_le inner (List.prefix_append inner _)
  have hall := h.all_closed
  have hother : closing ≠ '\x7b' := by decide
  rw [List.count_append, List.count_append, List.count_cons_self, List.count_cons_of_ne hother.symm,
    List.count_eq_zero_of_not_mem hmore] at hall
  omega

/-- Behind the first closing brace of a text stand closing braces only. -/
def ClosesAtEnd (cs : List Char) : Prop :=
  ∀ before after, cs = before ++ closing :: after → ∀ c ∈ after, c = closing

theorem closesAtEnd_append_iff (h : closing ∉ inner) :
    ClosesAtEnd (inner ++ closing :: more) ↔ ∀ c ∈ more, c = closing := by
  constructor
  · intro hend
    exact hend inner more rfl
  · intro hmore before after happ
    rcases List.append_eq_append_iff.1 happ with ⟨front, rfl, hfront⟩ | ⟨front, rfl, hfront⟩
    · cases front with
      | nil =>
        obtain ⟨-, rfl⟩ := List.cons_eq_cons.1 hfront
        exact hmore
      | cons d front =>
        obtain ⟨-, rfl⟩ := List.cons_eq_cons.1 hfront
        exact fun c hc => hmore c (List.mem_append_right _ (List.mem_cons_of_mem _ hc))
    · cases front with
      | nil =>
        obtain ⟨-, rfl⟩ := List.cons_eq_cons.1 hfront
        exact hmore
      | cons d front =>
        obtain ⟨rfl, -⟩ := List.cons_eq_cons.1 hfront
        exact absurd (List.mem_append_right _ List.mem_cons_self) h

theorem append_singleton_eq_cons_iff {c : Char} : cs ++ [c] = c :: cs ↔ ∀ d ∈ cs, d = c := by
  induction cs with
  | nil => simp
  | cons d cs ih =>
    rw [List.cons_append, List.cons_eq_cons, List.forall_mem_cons]
    constructor
    · rintro ⟨rfl, hrest⟩
      exact ⟨rfl, ih.1 hrest⟩
    · rintro ⟨rfl, hrest⟩
      exact ⟨rfl, ih.2 hrest⟩

/-! ## A brace at the end -/

theorem induction_on_parts {P : List Char → Prop} (nil : P [])
    (placeholder : ∀ body after, IsBody body → P after →
      P ('$' :: '\x7b' :: (body ++ closing :: after)))
    (literal : ∀ c cs, ¬ BeginsPlaceholder (c :: cs) → P cs → P (c :: cs)) (cs : List Char) :
    P cs := by
  induction hn : cs.length using Nat.strong_induction_on generalizing cs with
  | _ n ih =>
    subst hn
    cases cs with
    | nil => exact nil
    | cons c rest =>
      by_cases hbegins : BeginsPlaceholder (c :: rest)
      · obtain ⟨body, after, hbody, happ⟩ := hbegins
        rw [happ]
        refine placeholder body after hbody (ih after.length ?_ after rfl)
        rw [happ]
        simp only [List.length_cons, List.length_append]
        omega
      · exact literal c rest hbegins (ih rest.length (by simp) rest rfl)

/-- Every opening in a text has a closing brace behind it. -/
def OpeningsClosed (cs : List Char) : Prop :=
  ∀ before after, cs = before ++ '$' :: '\x7b' :: after → closing ∈ after

theorem parts_concat_closing (h : OpeningsClosed cs) :
    parts (cs ++ [closing]) = parts cs ++ [.literal closing] := by
  induction cs using induction_on_parts with
  | nil =>
    have hbegins : ¬ BeginsPlaceholder [closing] := by
      rintro ⟨body, after, -, happ⟩
      cases happ
    rw [List.nil_append, parts_literal hbegins, parts]
    rfl
  | placeholder body after hbody ih =>
    have happ : '$' :: '\x7b' :: (body ++ closing :: after) ++ [closing] =
        '$' :: '\x7b' :: (body ++ closing :: (after ++ [closing])) := by simp
    have hafter : OpeningsClosed after := by
      rintro before rest rfl
      exact h ('$' :: '\x7b' :: (body ++ closing :: before)) rest (by simp)
    rw [happ, parts_placeholder hbody, parts_placeholder hbody, ih hafter, List.cons_append]
  | literal c cs hbegins ih =>
    have hbegins' : ¬ BeginsPlaceholder (c :: (cs ++ [closing])) := by
      rintro ⟨body, after, hbody, happ⟩
      obtain ⟨rfl, hcs⟩ := List.cons_eq_cons.1 happ
      rcases List.eq_nil_or_concat after with rfl | ⟨front, d, rfl⟩
      · have hcs' : cs ++ [closing] = '\x7b' :: body ++ [closing] := by simpa using hcs
        have hend : cs = '\x7b' :: body := List.append_cancel_right hcs'
        exact hbody.closing_not_mem (h [] body (by rw [hend]; rfl))
      · have hcs' : cs ++ [closing] = '\x7b' :: (body ++ closing :: front) ++ [d] := by
          simpa using hcs
        obtain ⟨hend, -⟩ := List.append_inj' hcs' rfl
        exact hbegins ⟨body, front, hbody, by rw [hend]⟩
    have hrest : OpeningsClosed cs := by
      rintro before rest rfl
      exact h (c :: before) rest rfl
    rw [List.cons_append, parts_literal hbegins', parts_literal hbegins, ih hrest, List.cons_append]

theorem Balanced.openingsClosed (h : Balanced (inner ++ closing :: more)) :
    OpeningsClosed more := by
  rintro before after rfl
  have happ : inner ++ closing :: (before ++ '$' :: '\x7b' :: after) =
      (inner ++ closing :: (before ++ ['$'])) ++ '\x7b' :: after := by simp
  rw [happ] at h
  exact h.closing_mem

theorem substitute_concat_closing (vars : Variables) {text : String}
    (h : OpeningsClosed text.toList) :
    substitute vars (text ++ String.singleton closing) =
      (substitute vars text).map (· ++ String.singleton closing) := by
  have htext : (text ++ String.singleton closing).toList = text.toList ++ [closing] := by simp
  rw [substitute, htext, parts_concat_closing h, render_append, substitute]
  cases render vars (parts text.toList) with
  | error e => rfl
  | ok front =>
    have hend : String.ofList (front ++ [closing]) =
        String.ofList front ++ String.singleton closing := by
      rw [← String.toList_inj]
      simp
    exact congrArg Except.ok hend

/-! ## What comes of a default -/

variable {name default : String}

theorem substitute_default (vars : Variables) (hname : IsName name)
    (h : closing ∉ default.toList) :
    substitute vars (written (name ++ ":-" ++ default)) =
      .ok ((Entries.get? vars name).getD default) := by
  rw [substitute_written vars (hname.isBody_append (by decide) h),
    bodyValue_default vars (hname.not_marked '-')]

theorem substitute_default_split (vars : Variables) (hname : IsName name) {inner : String}
    (h : closing ∉ inner.toList) (more : String) :
    substitute vars (written (name ++ ":-" ++ (inner ++ String.singleton closing ++ more))) =
      (substitute vars (more ++ String.singleton closing)).map
        ((Entries.get? vars name).getD inner ++ ·) := by
  have hsplit : written (name ++ ":-" ++ (inner ++ String.singleton closing ++ more)) =
      written (name ++ ":-" ++ inner) ++ (more ++ String.singleton closing) := by
    simp only [written, String.append_assoc]
  rw [hsplit, substitute_written_append vars (hname.isBody_append (by decide) h),
    bodyValue_default vars (hname.not_marked '-')]
  rfl

theorem exists_first_closing {text : String} (h : closing ∈ text.toList) :
    ∃ inner more : String, text = inner ++ String.singleton closing ++ more ∧
      closing ∉ inner.toList := by
  obtain ⟨inner, more, htext, hinner⟩ := List.eq_append_cons_of_mem h
  refine ⟨.ofList inner, .ofList more, ?_, by rwa [String.toList_ofList]⟩
  rw [← String.toList_inj, htext]
  simp

theorem not_opening_concat (h : ¬ opening.toList <:+: cs) :
    ¬ opening.toList <:+: cs ++ [closing] := by
  rw [List.infix_concat_iff, not_or]
  refine ⟨fun hend => ?_, h⟩
  obtain ⟨front, hfront, -⟩ := (List.suffix_concat_iff.1 hend).resolve_left (by decide)
  have hsplit : ['$'] ++ ['\x7b'] = front ++ [closing] := hfront
  obtain ⟨-, hlast⟩ := List.append_inj' hsplit rfl
  exact absurd hlast (by decide)

/-- Where a default with a closing brace in it stands for a variable that is not set, the brace at
the end of the text takes the place of the first one in the default. -/
theorem substitute_unset_split_iff (hname : IsName name) (hunset : Entries.get? vars name = none)
    {inner more : String} (hinner : closing ∉ inner.toList)
    (hmore : ¬ opening.toList <:+: more.toList) :
    substitute vars (written (name ++ ":-" ++ (inner ++ String.singleton closing ++ more))) =
        .ok (inner ++ String.singleton closing ++ more) ↔
      ClosesAtEnd (inner ++ String.singleton closing ++ more).toList := by
  have hrest : ¬ opening.toList <:+: (more ++ String.singleton closing).toList := by
    simpa using not_opening_concat hmore
  have htext : (inner ++ String.singleton closing ++ more).toList =
      inner.toList ++ closing :: more.toList := by simp
  rw [substitute_default_split vars hname hinner, hunset, substitute_of_no_opening hrest, htext,
    closesAtEnd_append_iff hinner, ← append_singleton_eq_cons_iff]
  simp [Except.map, ← String.toList_inj]

theorem substitute_unset_of_closesAtEnd (hname : IsName name)
    (hunset : Entries.get? vars name = none) (h : ClosesAtEnd default.toList) :
    substitute vars (written (name ++ ":-" ++ default)) = .ok default := by
  by_cases hmem : closing ∈ default.toList
  · obtain ⟨inner, more, rfl, hinner⟩ := exists_first_closing hmem
    have hmore : ¬ opening.toList <:+: more.toList := fun hin => by
      have hdollar : '$' ∈ more.toList := hin.subset (by decide)
      exact absurd (h inner.toList more.toList (by simp) '$' hdollar) (by decide)
    exact (substitute_unset_split_iff hname hunset hinner hmore).2 h
  · rw [substitute_default vars hname hmem, hunset]
    rfl

/-- A default in which nothing looks like the start of a placeholder comes out whole, where the
variable is not set, in no other case. -/
theorem closesAtEnd_of_substitute_unset (hname : IsName name)
    (hunset : Entries.get? vars name = none) (hplain : ¬ opening.toList <:+: default.toList)
    (h : substitute vars (written (name ++ ":-" ++ default)) = .ok default) :
    ClosesAtEnd default.toList := by
  by_cases hmem : closing ∈ default.toList
  · obtain ⟨inner, more, rfl, hinner⟩ := exists_first_closing hmem
    have hmore : ¬ opening.toList <:+: more.toList := fun hin =>
      hplain (hin.trans ⟨(inner ++ String.singleton closing).toList, [], by simp⟩)
    exact (substitute_unset_split_iff hname hunset hinner hmore).1 h
  · exact fun before after happ => absurd (happ ▸ List.mem_append_right _ List.mem_cons_self) hmem

theorem substitute_set_iff (hname : IsName name) {value : String}
    (hset : Entries.get? vars name = some value) (h : Balanced default.toList) :
    substitute vars (written (name ++ ":-" ++ default)) = .ok value ↔ closing ∉ default.toList := by
  constructor
  · intro hfill hmem
    obtain ⟨inner, more, rfl, hinner⟩ := exists_first_closing hmem
    have htext : (inner ++ String.singleton closing ++ more).toList =
        inner.toList ++ closing :: more.toList := by simp
    rw [htext] at h
    rw [substitute_default_split vars hname hinner, hset,
      substitute_concat_closing vars h.openingsClosed] at hfill
    cases hrest : substitute vars more with
    | error e =>
      rw [hrest] at hfill
      cases hfill
    | ok rest =>
      rw [hrest] at hfill
      have hlength := congrArg (fun s => s.toList.length) (Except.ok.inj hfill)
      simp at hlength
  · intro hnot
    rw [substitute_default vars hname hnot, hset]
    rfl

/-- A placeholder with a default ends at the first closing brace in the default, if there is one;
what stands behind that brace is filled on its own, together with the brace at the end. So, where
the variable is not set, the default comes out whole if its closing braces stand at the end, and
without the start of a placeholder in it only then; and where the variable is set, the placeholder
for a balanced default gives the value alone only if the default has no braces at all. -/
theorem substitute_withDefault (vars : Variables) {name : String} (hname : IsName name)
    (default : String) :
    (closing ∉ default.toList → substitute vars (written (name ++ ":-" ++ default)) =
      .ok ((Entries.get? vars name).getD default)) ∧
    (∀ inner more, default = inner ++ String.singleton closing ++ more → closing ∉ inner.toList →
      substitute vars (written (name ++ ":-" ++ default)) =
        (substitute vars (more ++ String.singleton closing)).map
          ((Entries.get? vars name).getD inner ++ ·)) ∧
    (Entries.get? vars name = none →
      (ClosesAtEnd default.toList →
        substitute vars (written (name ++ ":-" ++ default)) = .ok default) ∧
      (¬ opening.toList <:+: default.toList →
        substitute vars (written (name ++ ":-" ++ default)) = .ok default →
        ClosesAtEnd default.toList)) ∧
    ∀ value, Entries.get? vars name = some value → Balanced default.toList →
      (substitute vars (written (name ++ ":-" ++ default)) = .ok value ↔
        closing ∉ default.toList) := by
  refine ⟨substitute_default vars hname, ?_, fun hunset => ⟨?_, ?_⟩, fun value hset => ?_⟩
  · rintro inner more rfl hinner
    exact substitute_default_split vars hname hinner more
  · exact substitute_unset_of_closesAtEnd hname hunset
  · exact closesAtEnd_of_substitute_unset hname hunset
  · exact substitute_set_iff hname hset

def nestedDefault : String := "\x7ba: \x7bb: 1\x7d\x7d"

def serialDefault : String := "\x7ba\x7d\x7bb\x7d"

theorem closesAtEnd_nestedDefault : ClosesAtEnd nestedDefault.toList := by
  have hinner : closing ∉ "\x7ba: \x7bb: 1".toList := by decide
  have htext : nestedDefault.toList = "\x7ba: \x7bb: 1".toList ++ closing :: [closing] := by decide
  rw [htext, closesAtEnd_append_iff hinner]
  simp

theorem substitute_withDefault_nested :
    IsName "PORT" ∧ Balanced nestedDefault.toList ∧ ClosesAtEnd nestedDefault.toList ∧
      substitute [] (written ("PORT" ++ ":-" ++ nestedDefault)) = .ok nestedDefault ∧
      substitute [("PORT", "80")] (written ("PORT" ++ ":-" ++ nestedDefault)) ≠ .ok "80" ∧
      closing ∉ "8080".toList ∧
      substitute [] (written ("PORT" ++ ":-" ++ "8080")) = .ok "8080" := by
  have hbalanced : Balanced nestedDefault.toList := by decide
  have hplain : closing ∉ "8080".toList := by decide
  obtain ⟨-, -, hunset, -⟩ := substitute_withDefault [] isName_port nestedDefault
  obtain ⟨-, -, -, hset⟩ := substitute_withDefault [("PORT", "80")] isName_port nestedDefault
  obtain ⟨hwhole, -⟩ := substitute_withDefault [] isName_port "8080"
  refine ⟨isName_port, hbalanced, closesAtEnd_nestedDefault,
    (hunset rfl).1 closesAtEnd_nestedDefault, fun hfill => ?_, hplain, hwhole hplain⟩
  exact (hset "80" rfl hbalanced).1 hfill (by decide)

/-- A default with balanced braces is not consumed whole: a brace is left over behind the value of a
variable that is set, and where it is not set, a brace in the middle of the default is lost. -/
theorem braces_left_over :
    IsName "PORT" ∧ Balanced nestedDefault.toList ∧ Balanced serialDefault.toList ∧
      substitute [("PORT", "80")] (written ("PORT" ++ ":-" ++ nestedDefault)) = .ok "80\x7d\x7d" ∧
      substitute [] (written ("PORT" ++ ":-" ++ serialDefault)) = .ok "\x7ba\x7bb\x7d\x7d" :=
  ⟨isName_port, by decide, by decide, by decide +kernel, by decide +kernel⟩

end Template

end IdentityClaims
