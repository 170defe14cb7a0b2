import IdentityClaims.Proofs.Json.Layout
import IdentityClaims.Proofs.Json.Number
import IdentityClaims.Proofs.Json.Quoted
import IdentityClaims.Proofs.Values.Json

/-!
# JSON is read as it is written

In every layout that JSON allows, what the writer makes of data without floats is read back as the
data, whatever follows it. The reader's fuel bounds the nesting of its calls, and twice the length
of the text is enough of it: every call for a value, an item or a member goes on behind at least
one character that was read, and no more than two calls go on behind the same one. Main statement:
`Json.read_render`.
-/

namespace IdentityClaims

namespace Json

section Blank

variable {cs : List Char}

theorem skipSpace_append (h : Blank cs) {c : Char} (hc : isSpace c = false) (rest : List Char) :
    skipSpace (cs ++ c :: rest) = c :: rest := by
  rw [skipSpace, List.dropWhile_append_of_pos h, List.dropWhile_cons_of_neg (by simp [hc])]

theorem endsValue_append (h : Blank cs) {rest : List Char} (hrest : EndsValue rest) :
    EndsValue (cs ++ rest) := by
  cases cs with
  | nil => exact hrest
  | cons c cs => exact endsValue_cons (.inl (h c List.mem_cons_self))

end Blank

def Reads (layout : JsonLayout) (d : Data) : Prop :=
  ∀ depth fuel rest, 2 * (render layout depth d).toList.length ≤ fuel → EndsValue rest →
    ∃ t : JsonTree, readValue fuel ((render layout depth d).toList ++ rest) = .ok (t, rest) ∧
      t.toData = d

/-- What is written starts with no blank and no closing bracket or brace. -/
def StartsValue (cs : List Char) : Prop :=
  ∃ c rest, cs = c :: rest ∧ isSpace c = false ∧ c ≠ ']' ∧ c ≠ '\x7d'

section Scalars

variable {layout : JsonLayout} {c : Char}

theorem not_isSpace_of_isDigit (hc : c.isDigit = true) : isSpace c = false := by
  by_contra hs
  simp only [isSpace, Bool.not_eq_false, Bool.or_eq_true, beq_iff_eq, or_assoc] at hs
  rcases hs with rfl | rfl | rfl | rfl <;> exact absurd hc (by decide)

theorem ne_of_isDigit (hc : c.isDigit = true) {c' : Char} (hc' : c'.isDigit = false) : c ≠ c' := by
  rintro rfl
  rw [hc] at hc'
  cases hc'

theorem exists_toString_eq (n : Int) :
    ∃ c cs, c.isDigit = true ∧
      ((toString n).toList = c :: cs ∨ (toString n).toList = '-' :: c :: cs) := by
  cases hd : Nat.toDigits 10 n.natAbs with
  | nil => exact absurd hd Nat.toDigits_ne_nil
  | cons c cs =>
      have hc : c.isDigit = true :=
        isDigit_of_mem_toDigits (n := n.natAbs) (hd ▸ List.mem_cons_self)
      refine ⟨c, cs, hc, ?_⟩
      rw [toList_toString, hd]
      by_cases hn : n < 0
      · exact .inr (by rw [if_pos hn]; rfl)
      · exact .inl (by rw [if_neg hn]; rfl)

/-- What has no name and starts like no text, list or object is read as a number. -/
theorem readValue_number {fuel : Nat} {cs : List Char} (hq : c ≠ '"') (ho : c ≠ '\x7b')
    (hl : c ≠ '[') (hn : readNamed? (c :: cs) = none) :
    readValue (fuel + 1) (c :: cs) = readNumber (c :: cs) := by
  rw [readValue]
  · rw [hn]
  · simp
  · simpa using hq
  · simpa using ho
  · simpa using hl

theorem readNamed?_digit (hc : c.isDigit = true) (cs : List Char) :
    readNamed? (c :: cs) = none := by
  have hne {c' : Char} (hc' : c'.isDigit = false) : ¬ c' = c := (ne_of_isDigit hc hc').symm
  simp [readNamed?, named, hne]

theorem readNamed?_minus (hc : c.isDigit = true) (cs : List Char) :
    readNamed? ('-' :: c :: cs) = none := by
  have hne {c' : Char} (hc' : c'.isDigit = false) : ¬ c' = c := (ne_of_isDigit hc hc').symm
  simp [readNamed?, named, hne]

theorem exists_enclose_eq (layout : JsonLayout) (depth : Nat) (left right : String)
    (parts : List String) : ∃ s, enclose layout depth left right parts = left ++ s := by
  rw [enclose]
  split
  · exact ⟨right, rfl⟩
  · simp only [String.append_assoc]
    exact ⟨_, rfl⟩

theorem startsValue_list (layout : JsonLayout) (depth : Nat) (parts : List String) :
    StartsValue (enclose layout depth "[" "]" parts).toList := by
  obtain ⟨s, hs⟩ := exists_enclose_eq layout depth "[" "]" parts
  exact ⟨'[', s.toList, by rw [hs, String.toList_append]; rfl, by decide⟩

theorem startsValue_object (layout : JsonLayout) (depth : Nat) (parts : List String) :
    StartsValue (enclose layout depth "\x7b" "\x7d" parts).toList := by
  obtain ⟨s, hs⟩ := exists_enclose_eq layout depth "\x7b" "\x7d" parts
  exact ⟨'\x7b', s.toList, by rw [hs, String.toList_append]; rfl, by decide⟩

theorem startsValue_render_list (layout : JsonLayout) (depth : Nat) (items : List Data) :
    StartsValue (render layout depth (.list items)).toList := by
  rw [render]
  exact startsValue_list layout depth _

theorem startsValue_render_map (layout : JsonLayout) (depth : Nat)
    (entries : List (Data × Data)) : StartsValue (render layout depth (.map entries)).toList := by
  rw [render]
  exact startsValue_object layout depth _

theorem startsValue_render {d : Data} (h : d.IsFloatless) (depth : Nat) :
    StartsValue (render layout depth d).toList := by
  cases h with
  | null => exact ⟨'n', _, by rw [render]; rfl, by decide⟩
  | bool b =>
      cases b with
      | false => exact ⟨'f', _, by rw [render]; rfl, by decide⟩
      | true => exact ⟨'t', _, by rw [render]; rfl, by decide⟩
  | int n =>
      obtain ⟨c, cs, hc, hs⟩ := exists_toString_eq n
      rw [render]
      rcases hs with hs | hs
      · exact ⟨c, cs, hs, not_isSpace_of_isDigit hc, ne_of_isDigit hc (by decide),
          ne_of_isDigit hc (by decide)⟩
      · exact ⟨'-', c :: cs, hs, by decide⟩
  | float h => cases h
  | text s => exact ⟨'"', _, by rw [render, toList_writeText], by decide⟩
  | list _ => exact startsValue_render_list layout depth _
  | map _ _ => exact startsValue_render_map layout depth _

/-- Fuel for something is no less than one. -/
theorem StartsValue.exists_succ {cs : List Char} (h : StartsValue cs) {fuel : Nat}
    (hf : 2 * cs.length ≤ fuel) : ∃ fuel', fuel = fuel' + 1 := by
  obtain ⟨c, rest, rfl, -⟩ := h
  exact Nat.exists_eq_add_one.2 (by rw [List.length_cons] at hf; omega)

theorem reads_null : Reads layout .null := by
  intro depth fuel rest hf _
  obtain ⟨fuel, rfl⟩ := (startsValue_render .null depth).exists_succ hf
  refine ⟨.null, ?_, rfl⟩
  rw [render]
  exact readValue.eq_def _ _

theorem reads_bool (b : Bool) : Reads layout (.bool b) := by
  intro depth fuel rest hf _
  obtain ⟨fuel, rfl⟩ := (startsValue_render (.bool b) depth).exists_succ hf
  refine ⟨.bool b, ?_, rfl⟩
  rw [render]
  cases b with
  | false => exact readValue.eq_def _ _
  | true => exact readValue.eq_def _ _

/-- An integer that was written is read as a number. -/
theorem readValue_toString (fuel : Nat) (n : Int) (rest : List Char) :
    readValue (fuel + 1) ((toString n).toList ++ rest) =
      readNumber ((toString n).toList ++ rest) := by
  obtain ⟨c, cs, hc, hs | hs⟩ := exists_toString_eq n
  · rw [hs]
    exact readValue_number (ne_of_isDigit hc (by decide)) (ne_of_isDigit hc (by decide))
      (ne_of_isDigit hc (by decide)) (readNamed?_digit hc _)
  · rw [hs]
    exact readValue_number (by decide) (by decide) (by decide) (readNamed?_minus hc _)

theorem reads_int {n : Int} (hn : integerRefusal? n = none) : Reads layout (.int n) := by
  intro depth fuel rest hf hrest
  obtain ⟨fuel, rfl⟩ := (startsValue_render (.int n) depth).exists_succ hf
  refine ⟨.int n, ?_, rfl⟩
  rw [render, readValue_toString, readNumber_toString hn hrest]

theorem reads_text (s : String) : Reads layout (.text s) := by
  intro depth fuel rest hf _
  obtain ⟨fuel, rfl⟩ := (startsValue_render (.text s) depth).exists_succ hf
  refine ⟨.text s, ?_, rfl⟩
  rw [render, toList_writeText, List.cons_append, List.append_assoc, List.singleton_append,
    readValue, readQuoted_writeText]
  rfl

end Scalars

section Containers

variable {layout : JsonLayout} {sep keySep : String} {close cs cs' rest : List Char} {fuel : Nat}
  {t : JsonTree}

theorem IsSeparator.skipSpace_eq {mark : Char} (h : IsSeparator mark sep)
    (hm : isSpace mark = false) (hcs : StartsValue cs) :
    ∃ after, skipSpace (sep.toList ++ cs) = mark :: after ∧ skipSpace after = cs := by
  obtain ⟨before, after, hs, hb, ha⟩ := h
  obtain ⟨c, cs, rfl, hc, -⟩ := hcs
  refine ⟨after ++ c :: cs, ?_, skipSpace_append ha hc cs⟩
  rw [hs, List.append_assoc, List.cons_append]
  exact skipSpace_append hb hm _

theorem readItems_last (h : readValue fuel cs = .ok (t, close ++ ']' :: rest))
    (hclose : Blank close) : readItems (fuel + 1) cs = .ok ([t], rest) := by
  rw [readItems, h]
  dsimp only
  rw [skipSpace_append hclose (by decide)]
  rfl

theorem readItems_next (h : readValue fuel cs = .ok (t, sep.toList ++ cs'))
    (hsep : IsSeparator ',' sep) (hcs : StartsValue cs') :
    readItems (fuel + 1) cs = (readItems fuel cs').map fun r => (t :: r.1, r.2) := by
  obtain ⟨after, hs, ha⟩ := hsep.skipSpace_eq (by decide) hcs
  rw [readItems, h]
  simp only [hs, ha]

theorem readMembers_key {asciiOnly : Bool} {key : String} (hkey : IsSeparator ':' keySep)
    (hcs : StartsValue cs) :
    readMembers (fuel + 1) ((writeText asciiOnly key).toList ++ (keySep.toList ++ cs)) =
      match readValue fuel cs with
      | .error e => .error e
      | .ok (value, rest) =>
        match skipSpace rest with
        | '\x7d' :: rest => .ok ([(key, value)], rest)
        | ',' :: rest =>
          (readMembers fuel (skipSpace rest)).map fun r => ((key, value) :: r.1, r.2)
        | rest => .error (.fault .expectedComma rest.length) := by
  obtain ⟨after, hs, rfl⟩ := hkey.skipSpace_eq (by decide) hcs
  rw [toList_writeText, List.cons_append, List.append_assoc, List.singleton_append, readMembers,
    readQuoted_writeText]
  dsimp only
  rewrite [hs]
  rfl

theorem readMembers_last {asciiOnly : Bool} {key : String} (hkey : IsSeparator ':' keySep)
    (hcs : StartsValue cs) (h : readValue fuel cs = .ok (t, close ++ '\x7d' :: rest))
    (hclose : Blank close) :
    readMembers (fuel + 1) ((writeText asciiOnly key).toList ++ (keySep.toList ++ cs)) =
      .ok ([(key, t)], rest) := by
  rw [readMembers_key hkey hcs, h]
  dsimp only
  rw [skipSpace_append hclose (by decide)]
  rfl

theorem readMembers_next {asciiOnly : Bool} {key : String} (hkey : IsSeparator ':' keySep)
    (hcs : StartsValue cs) (h : readValue fuel cs = .ok (t, sep.toList ++ cs'))
    (hsep : IsSeparator ',' sep) (hcs' : StartsValue cs') :
    readMembers (fuel + 1) ((writeText asciiOnly key).toList ++ (keySep.toList ++ cs)) =
      (readMembers fuel cs').map fun r => ((key, t) :: r.1, r.2) := by
  obtain ⟨after, hs, ha⟩ := hsep.skipSpace_eq (by decide) hcs'
  rw [readMembers_key hkey hcs, h]
  simp only [hs, ha]

theorem IsSeparator.endsValue (h : IsSeparator ',' sep) : EndsValue (sep.toList ++ rest) := by
  obtain ⟨before, after, hs, hb, -⟩ := h
  rw [hs, List.append_assoc]
  exact endsValue_append hb (endsValue_cons (by simp))

theorem IsSeparator.length_pos {mark : Char} (h : IsSeparator mark sep) :
    0 < sep.toList.length := by
  obtain ⟨before, after, hs, -, -⟩ := h
  rw [hs, List.length_append, List.length_cons]
  omega

theorem StartsValue.append (h : StartsValue cs) (rest : List Char) : StartsValue (cs ++ rest) := by
  obtain ⟨c, cs, rfl, hc, hb⟩ := h
  exact ⟨c, cs ++ rest, rfl, hc, hb⟩

theorem startsValue_intercalate {part : String} (h : StartsValue part.toList) (sep : String)
    (parts : List String) : StartsValue (sep.intercalate (part :: parts)).toList := by
  cases parts with
  | nil => rwa [String.intercalate_singleton]
  | cons part' parts =>
      rw [String.intercalate_cons_cons, String.append_assoc, String.toList_append]
      exact h.append _

theorem toList_intercalate_cons_cons (sep part part' : String) (parts : List String) :
    (sep.intercalate (part :: part' :: parts)).toList =
      part.toList ++ (sep.toList ++ (sep.intercalate (part' :: parts)).toList) := by
  rw [String.intercalate_cons_cons, String.toList_append, String.toList_append, List.append_assoc]

theorem renderItems_cons_cons (layout : JsonLayout) (depth : Nat) (d d' : Data) (ds : List Data) :
    (sep.intercalate (renderItems layout depth (d :: d' :: ds))).toList =
      (render layout depth d).toList ++
        (sep.toList ++ (sep.intercalate (renderItems layout depth (d' :: ds))).toList) := by
  rw [renderItems, renderItems, toList_intercalate_cons_cons, ← renderItems]

/-- Items with separators between them are read back up to the closing bracket. -/
theorem readItems_render (hsep : IsSeparator ',' sep) (hclose : Blank close) (depth : Nat)
    (d : Data) (ds : List Data) (hread : ∀ x ∈ d :: ds, Reads layout x)
    (hstart : ∀ x ∈ d :: ds, StartsValue (render layout depth x).toList) (rest : List Char)
    (hf : 2 * (sep.intercalate (renderItems layout depth (d :: ds))).toList.length + 1 ≤ fuel) :
    ∃ ts, readItems fuel ((sep.intercalate (renderItems layout depth (d :: ds))).toList ++
        (close ++ ']' :: rest)) = .ok (ts, rest) ∧ JsonTree.itemsData ts = d :: ds := by
  induction ds generalizing d fuel with
  | nil =>
      obtain ⟨fuel, rfl⟩ := Nat.exists_eq_add_one.2 (Nat.zero_lt_of_lt hf)
      rw [renderItems, renderItems, String.intercalate_singleton] at hf ⊢
      obtain ⟨t, ht, rfl⟩ := hread d List.mem_cons_self depth fuel (close ++ ']' :: rest)
        (by omega) (endsValue_append hclose (endsValue_cons (by simp)))
      exact ⟨[t], readItems_last ht hclose, rfl⟩
  | cons d' ds ih =>
      obtain ⟨fuel, rfl⟩ := Nat.exists_eq_add_one.2 (Nat.zero_lt_of_lt hf)
      have hpos := hsep.length_pos
      rw [renderItems_cons_cons, List.length_append, List.length_append] at hf
      rw [renderItems_cons_cons, List.append_assoc, List.append_assoc]
      have hnext : StartsValue ((sep.intercalate (renderItems layout depth (d' :: ds))).toList ++
          (close ++ ']' :: rest)) := by
        rw [renderItems]
        exact (startsValue_intercalate (hstart d' (by simp)) sep _).append _
      obtain ⟨t, ht, htd⟩ := hread d List.mem_cons_self depth fuel _ (by omega) hsep.endsValue
      obtain ⟨ts, hts, htsd⟩ := ih d' (fun x hx => hread x (List.mem_cons_of_mem _ hx))
        (fun x hx => hstart x (List.mem_cons_of_mem _ hx)) (show _ ≤ fuel by omega)
      refine ⟨t :: ts, ?_, by rw [JsonTree.itemsData, htd, htsd]⟩
      rw [readItems_next ht hsep hnext, hts]
      rfl

def memberText (layout : JsonLayout) (depth : Nat) (e : TextPair) : String :=
  writeText layout.asciiOnly e.1 ++ (layout.keySeparator ++ render layout depth e.2)

theorem renderEntries_cons (layout : JsonLayout) (depth : Nat) (e : TextPair)
    (es : List TextPair) :
    renderEntries layout depth (textPairs (e :: es)) =
      memberText layout depth e :: renderEntries layout depth (textPairs es) := by
  rw [textPairs_cons, renderEntries, memberText, ← String.append_assoc]
  rfl

theorem renderEntries_cons_cons (layout : JsonLayout) (depth : Nat) (e e' : TextPair)
    (es : List TextPair) :
    (sep.intercalate (renderEntries layout depth (textPairs (e :: e' :: es)))).toList =
      (memberText layout depth e).toList ++
        (sep.toList ++
          (sep.intercalate (renderEntries layout depth (textPairs (e' :: es)))).toList) := by
  rw [renderEntries_cons, renderEntries_cons, toList_intercalate_cons_cons, ← renderEntries_cons]

theorem startsValue_memberText (depth : Nat) (e : TextPair) :
    StartsValue (memberText layout depth e).toList := by
  rw [memberText, String.toList_append, toList_writeText]
  exact ⟨'"', _, rfl, by decide⟩

theorem length_memberText (layout : JsonLayout) (depth : Nat) (e : TextPair) :
    (render layout depth e.2).toList.length ≤ (memberText layout depth e).toList.length := by
  rw [memberText, String.toList_append, String.toList_append, List.length_append,
    List.length_append]
  omega

/-- Members with separators between them are read back up to the closing brace. -/
theorem readMembers_render (hlayout : IsLayout layout) (hsep : IsSeparator ',' sep)
    (hclose : Blank close) (depth : Nat) (e : TextPair) (es : List TextPair)
    (hread : ∀ x ∈ e :: es, Reads layout x.2)
    (hstart : ∀ x ∈ e :: es, StartsValue (render layout depth x.2).toList) (rest : List Char)
    (hf : 2 * (sep.intercalate (renderEntries layout depth (textPairs (e :: es)))).toList.length + 1
      ≤ fuel) :
    ∃ ms, readMembers fuel ((sep.intercalate (renderEntries layout depth
        (textPairs (e :: es)))).toList ++ (close ++ '\x7d' :: rest)) = .ok (ms, rest) ∧
      JsonTree.membersData ms = textPairs (e :: es) := by
  have hlen := length_memberText layout depth e
  induction es generalizing e fuel with
  | nil =>
      obtain ⟨fuel, rfl⟩ := Nat.exists_eq_add_one.2 (Nat.zero_lt_of_lt hf)
      rw [renderEntries_cons, textPairs_nil, renderEntries, String.intercalate_singleton] at hf ⊢
      obtain ⟨t, ht, htd⟩ := hread e List.mem_cons_self depth fuel (close ++ '\x7d' :: rest)
        (by omega) (endsValue_append hclose (endsValue_cons (by simp)))
      refine ⟨[(e.1, t)], ?_, by rw [JsonTree.membersData, htd]; rfl⟩
      rw [memberText, String.toList_append, String.toList_append, List.append_assoc,
        List.append_assoc]
      exact readMembers_last hlayout.key ((hstart e List.mem_cons_self).append _) ht hclose
  | cons e' es ih =>
      obtain ⟨fuel, rfl⟩ := Nat.exists_eq_add_one.2 (Nat.zero_lt_of_lt hf)
      have hpos := hsep.length_pos
      have hnext : StartsValue ((sep.intercalate (renderEntries layout depth
          (textPairs (e' :: es)))).toList ++ (close ++ '\x7d' :: rest)) := by
        rw [renderEntries_cons]
        exact (startsValue_intercalate (startsValue_memberText depth e') sep _).append _
      rw [renderEntries_cons_cons, List.length_append, List.length_append] at hf
      rw [renderEntries_cons_cons, List.append_assoc, List.append_assoc]
      obtain ⟨t, ht, htd⟩ := hread e List.mem_cons_self depth fuel _ (by omega) hsep.endsValue
      obtain ⟨ms, hms, hmsd⟩ := ih e' (fun x hx => hread x (List.mem_cons_of_mem _ hx))
        (fun x hx => hstart x (List.mem_cons_of_mem _ hx)) (show _ ≤ fuel by omega)
        (length_memberText layout depth e')
      refine ⟨(e.1, t) :: ms, ?_, by rw [JsonTree.membersData, htd, hmsd]; rfl⟩
      rw [memberText, String.toList_append, String.toList_append, List.append_assoc,
        List.append_assoc, readMembers_next hlayout.key ((hstart e List.mem_cons_self).append _)
          ht hsep hnext, hms]
      rfl

theorem enclose_nil (layout : JsonLayout) (depth : Nat) (left right : String) :
    (enclose layout depth left right []).toList = left.toList ++ right.toList := by
  exact String.toList_append

theorem enclose_cons (layout : JsonLayout) (depth : Nat) (left right part : String)
    (parts : List String) :
    (enclose layout depth left right (part :: parts)).toList =
      left.toList ++ ((lineBreak layout (depth + 1)).toList ++
        (((layout.itemSeparator ++ lineBreak layout (depth + 1)).intercalate
          (part :: parts)).toList ++ ((lineBreak layout depth).toList ++ right.toList))) := by
  rw [enclose, if_neg (by simp)]
  simp only [String.toList_append, List.append_assoc]

theorem readValue_list (hb : Blank close) (hcs : StartsValue cs) :
    readValue (fuel + 1) ('[' :: (close ++ cs)) =
      (readItems fuel cs).map fun r => (.list r.1, r.2) := by
  obtain ⟨c, cs, rfl, hc, hne, -⟩ := hcs
  rw [readValue, skipSpace_append hb hc]
  split
  · next h => exact absurd (List.cons.inj h).1 hne
  · rfl

theorem readValue_object (hb : Blank close) (hcs : StartsValue cs) :
    readValue (fuel + 1) ('\x7b' :: (close ++ cs)) =
      (readMembers fuel cs).map fun r => (.object r.1, r.2) := by
  obtain ⟨c, cs, rfl, hc, -, hne⟩ := hcs
  rw [readValue, skipSpace_append hb hc]
  split
  · next h => exact absurd (List.cons.inj h).1 hne
  · rfl

/-- In every container, items are separated and set off by what a layout allows. -/
theorem IsLayout.separator (h : IsLayout layout) (depth : Nat) :
    IsSeparator ',' (layout.itemSeparator ++ lineBreak layout depth) :=
  h.item.append (blank_lineBreak h depth)

theorem length_render_list (layout : JsonLayout) (depth : Nat) (d : Data) (ds : List Data) :
    ((layout.itemSeparator ++ lineBreak layout (depth + 1)).intercalate
      (renderItems layout (depth + 1) (d :: ds))).toList.length + 2 ≤
        (render layout depth (.list (d :: ds))).toList.length := by
  have hleft : "[".toList = ['['] := rfl
  have hright : "]".toList = [']'] := rfl
  rw [render, renderItems, enclose_cons, hleft, hright]
  simp only [List.length_append, List.length_singleton]
  omega

theorem readValue_render_list (hlayout : IsLayout layout) {depth : Nat} {d : Data}
    (hstart : StartsValue (render layout (depth + 1) d).toList) (ds : List Data)
    (rest : List Char) :
    readValue (fuel + 1) ((render layout depth (.list (d :: ds))).toList ++ rest) =
      (readItems fuel (((layout.itemSeparator ++ lineBreak layout (depth + 1)).intercalate
        (renderItems layout (depth + 1) (d :: ds))).toList ++
          ((lineBreak layout depth).toList ++ ']' :: rest))).map fun r => (.list r.1, r.2) := by
  have hleft : "[".toList = ['['] := rfl
  have hright : "]".toList = [']'] := rfl
  have hcs : StartsValue (((layout.itemSeparator ++ lineBreak layout (depth + 1)).intercalate
      (renderItems layout (depth + 1) (d :: ds))).toList ++
        ((lineBreak layout depth).toList ++ ']' :: rest)) := by
    rw [renderItems]
    exact (startsValue_intercalate hstart _ _).append _
  rw [render, renderItems, enclose_cons, ← renderItems, hleft, hright]
  simp only [List.append_assoc, List.cons_append, List.nil_append]
  exact readValue_list (blank_lineBreak hlayout (depth + 1)) hcs

theorem reads_list (hlayout : IsLayout layout) {items : List Data}
    (hread : ∀ d ∈ items, Reads layout d)
    (hstart : ∀ d ∈ items, ∀ depth, StartsValue (render layout depth d).toList) :
    Reads layout (.list items) := by
  intro depth fuel rest hf _
  obtain ⟨fuel, rfl⟩ := (startsValue_render_list layout depth items).exists_succ hf
  cases items with
  | nil =>
      rw [render, renderItems, enclose_nil]
      exact ⟨.list [], readValue.eq_def _ _, rfl⟩
  | cons d ds =>
      have hlen := length_render_list layout depth d ds
      obtain ⟨ts, hts, htsd⟩ := readItems_render (hlayout.separator (depth + 1))
        (blank_lineBreak hlayout depth) (depth + 1) d ds hread (fun x hx => hstart x hx _) rest
        (show _ ≤ fuel by omega)
      refine ⟨.list ts, ?_, congrArg Data.list htsd⟩
      rw [readValue_render_list hlayout (hstart d List.mem_cons_self _), hts]
      rfl

theorem length_render_map (layout : JsonLayout) (depth : Nat) (e : TextPair)
    (es : List TextPair) :
    ((layout.itemSeparator ++ lineBreak layout (depth + 1)).intercalate
      (renderEntries layout (depth + 1) (textPairs (e :: es)))).toList.length + 2 ≤
        (render layout depth (.map (textPairs (e :: es)))).toList.length := by
  have hleft : "\x7b".toList = ['\x7b'] := rfl
  have hright : "\x7d".toList = ['\x7d'] := rfl
  rw [render, renderEntries_cons, enclose_cons, hleft, hright]
  simp only [List.length_append, List.length_singleton]
  omega

/-- An object that was written is read through its members, if it has any. -/
theorem readValue_render_map (hlayout : IsLayout layout) (depth : Nat) (e : TextPair)
    (es : List TextPair) (rest : List Char) :
    readValue (fuel + 1) ((render layout depth (.map (textPairs (e :: es)))).toList ++ rest) =
      (readMembers fuel (((layout.itemSeparator ++ lineBreak layout (depth + 1)).intercalate
        (renderEntries layout (depth + 1) (textPairs (e :: es)))).toList ++
          ((lineBreak layout depth).toList ++ '\x7d' :: rest))).map
            fun r => (.object r.1, r.2) := by
  have hleft : "\x7b".toList = ['\x7b'] := rfl
  have hright : "\x7d".toList = ['\x7d'] := rfl
  have hcs : StartsValue (((layout.itemSeparator ++ lineBreak layout (depth + 1)).intercalate
      (renderEntries layout (depth + 1) (textPairs (e :: es)))).toList ++
        ((lineBreak layout depth).toList ++ '\x7d' :: rest)) := by
    rw [renderEntries_cons]
    exact (startsValue_intercalate (startsValue_memberText _ e) _ _).append _
  rw [render, renderEntries_cons, enclose_cons, ← renderEntries_cons, hleft, hright]
  simp only [List.append_assoc, List.cons_append, List.nil_append]
  exact readValue_object (blank_lineBreak hlayout (depth + 1)) hcs

/-- What is written for a map is read back as an object whose members are its entries. -/
theorem readValue_map (hlayout : IsLayout layout) {pairs : List TextPair}
    (hread : ∀ e ∈ pairs, Reads layout e.2)
    (hstart : ∀ e ∈ pairs, ∀ depth, StartsValue (render layout depth e.2).toList)
    (depth : Nat) (rest : List Char)
    (hf : 2 * (render layout depth (.map (textPairs pairs))).toList.length ≤ fuel) :
    ∃ ms, readValue fuel ((render layout depth (.map (textPairs pairs))).toList ++ rest) =
        .ok (.object ms, rest) ∧ JsonTree.membersData ms = textPairs pairs := by
  obtain ⟨fuel, rfl⟩ := (startsValue_render_map layout depth _).exists_succ hf
  cases pairs with
  | nil =>
      rw [textPairs_nil, render, renderEntries, enclose_nil]
      exact ⟨[], readValue.eq_def _ _, rfl⟩
  | cons e es =>
      have hlen := length_render_map layout depth e es
      obtain ⟨ms, hms, hmsd⟩ := readMembers_render hlayout (hlayout.separator (depth + 1))
        (blank_lineBreak hlayout depth) (depth + 1) e es hread (fun x hx => hstart x hx _) rest
        (show _ ≤ fuel by omega)
      refine ⟨ms, ?_, hmsd⟩
      rw [readValue_render_map hlayout depth e es rest, hms]
      rfl

theorem reads_map (hlayout : IsLayout layout) {pairs : List TextPair}
    (hn : (pairKeys pairs).Nodup) (hread : ∀ e ∈ pairs, Reads layout e.2)
    (hstart : ∀ e ∈ pairs, ∀ depth, StartsValue (render layout depth e.2).toList) :
    Reads layout (.map (textPairs pairs)) := by
  intro depth fuel rest hf _
  obtain ⟨ms, hms, hmsd⟩ := readValue_map hlayout hread hstart depth rest hf
  refine ⟨.object ms, hms, ?_⟩
  rw [JsonTree.toData, hmsd]
  exact ofPairs_textPairs_of_nodup hn

end Containers

theorem refusalOfItems?_eq_none_iff {layout : JsonLayout} {items : List Data} :
    refusalOfItems? layout items = none ↔ ∀ d ∈ items, refusal? layout d = none := by
  induction items with
  | nil => simp [refusalOfItems?]
  | cons x xs ih => simp [refusalOfItems?, ih]

theorem refusalOfEntries?_eq_none_iff {layout : JsonLayout} {pairs : List TextPair} :
    refusalOfEntries? layout (textPairs pairs) = none ↔
      ∀ e ∈ pairs, refusal? layout e.2 = none := by
  induction pairs with
  | nil => simp [refusalOfEntries?]
  | cons x xs ih => simp [refusalOfEntries?, ih]

/-- Data without floats that is not refused is read back from what is written. -/
theorem reads_of_refusal? {layout : JsonLayout} (hlayout : IsLayout layout) {d : Data}
    (hd : d.IsFloatless) (h : refusal? layout d = none) : Reads layout d := by
  induction hd with
  | null => exact reads_null
  | bool b => exact reads_bool b
  | int n => exact reads_int h
  | float hx => cases hx
  | text s => exact reads_text s
  | list hitems ih =>
      exact reads_list hlayout (fun d hd => ih d hd (refusalOfItems?_eq_none_iff.1 h d hd))
        fun d hd => startsValue_render (hitems d hd)
  | map hn hpairs ih =>
      exact reads_map hlayout hn (fun e he => ih e he (refusalOfEntries?_eq_none_iff.1 h e he))
        fun e he => startsValue_render (hpairs e he)

/-- Text that is written for a map is read from its first character on. -/
theorem read_render_eq (layout : JsonLayout) (entries : List (Data × Data)) :
    read (render layout 0 (.map entries)) =
      match readValue (2 * (render layout 0 (.map entries)).toList.length + 2)
        (render layout 0 (.map entries)).toList with
      | .error e => .error e
      | .ok (value, rest) =>
        if (skipSpace rest).isEmpty then .ok value
        else .error (.fault .extraText (skipSpace rest).length) := by
  obtain ⟨s, hs⟩ : ∃ s, render layout 0 (.map entries) = "\x7b" ++ s := by
    rw [render]
    exact exists_enclose_eq layout 0 "\x7b" "\x7d" _
  have hcs : (render layout 0 (.map entries)).toList = '\x7b' :: s.toList := by
    rw [hs, String.toList_append]
    rfl
  have hskip : skipSpace ('\x7b' :: s.toList) = '\x7b' :: s.toList := rfl
  rewrite [read, hcs, if_neg (by simp), hskip]
  rfl

/-- Text that is written for a map is read back as an object whose members are its entries. -/
theorem read_render {layout : JsonLayout} (hlayout : IsLayout layout) {pairs : List TextPair}
    (hd : ∀ e ∈ pairs, e.2.IsFloatless) (h : refusal? layout (.map (textPairs pairs)) = none) :
    ∃ ms, read (render layout 0 (.map (textPairs pairs))) = .ok (.object ms) ∧
      JsonTree.membersData ms = textPairs pairs := by
  obtain ⟨ms, hms, hmsd⟩ := readValue_map hlayout
    (fun e he => reads_of_refusal? hlayout (hd e he) (refusalOfEntries?_eq_none_iff.1 h e he))
    (fun e he => startsValue_render (hd e he)) 0 [] (Nat.le_add_right _ 2)
  refine ⟨ms, ?_, hmsd⟩
  rw [List.append_nil] at hms
  rw [read_render_eq, hms]
  rfl

end Json

end IdentityClaims
