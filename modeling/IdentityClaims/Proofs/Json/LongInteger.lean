import IdentityClaims.Proofs.Json.Reading

/-!
# Written integers that are refused

An integer with more digits than are converted is written out by its digits like any other, but it
is not read back: the reader stops at it, however deep it lies, and the text has no value. Before it
the text is read as it was written. Main statement: `Json.read_render_refused`.
-/

namespace IdentityClaims

namespace Json

/-- Reading what is written for a value stops at an integer that is refused. -/
def Stops (layout : JsonLayout) (d : Data) : Prop :=
  ∀ depth fuel rest, 2 * (render layout depth d).toList.length ≤ fuel → EndsValue rest →
    ∃ n, readValue fuel ((render layout depth d).toList ++ rest) = .error (.longInteger n)

section Refused

variable {layout : JsonLayout} {sep keySep : String} {close cs rest : List Char} {fuel : Nat}
  {e : JsonError}

theorem stops_int {n : Int} (hn : integerRefusal? n ≠ none) : Stops layout (.int n) := by
  intro depth fuel rest hf hrest
  obtain ⟨fuel, rfl⟩ := (startsValue_render (.int n) depth).exists_succ hf
  obtain ⟨k, hk⟩ := readNumber_refused hn hrest
  refine ⟨k, ?_⟩
  rw [render, readValue_toString, hk]

theorem readItems_error (h : readValue fuel cs = .error e) :
    readItems (fuel + 1) cs = .error e := by
  rw [readItems, h]

theorem readMembers_error {asciiOnly : Bool} {key : String} (hkey : IsSeparator ':' keySep)
    (hcs : StartsValue cs) (h : readValue fuel cs = .error e) :
    readMembers (fuel + 1) ((writeText asciiOnly key).toList ++ (keySep.toList ++ cs)) =
      .error e := by
  rw [readMembers_key hkey hcs, h]

/-- The first of several parts, and what may follow a value behind it. -/
theorem intercalate_append_eq (hsep : IsSeparator ',' sep) (part : String) (parts : List String)
    {after : List Char} (hafter : EndsValue after) :
    ∃ tail, (sep.intercalate (part :: parts)).toList ++ after = part.toList ++ tail ∧
      EndsValue tail := by
  cases parts with
  | nil => exact ⟨after, by rw [String.intercalate_singleton], hafter⟩
  | cons part' parts =>
    refine ⟨sep.toList ++ ((sep.intercalate (part' :: parts)).toList ++ after), ?_,
      hsep.endsValue⟩
    rw [toList_intercalate_cons_cons, List.append_assoc, List.append_assoc]

theorem length_intercalate_cons (sep part : String) (parts : List String) :
    part.toList.length ≤ (sep.intercalate (part :: parts)).toList.length := by
  cases parts with
  | nil => exact Nat.le_of_eq (by rw [String.intercalate_singleton])
  | cons part' parts =>
    rw [toList_intercalate_cons_cons, List.length_append]
    omega

theorem readItems_stops_head (hsep : IsSeparator ',' sep) (hclose : Blank close) {depth : Nat}
    {d : Data} (hd : Stops layout d) (ds : List Data) (rest : List Char)
    (hf : 2 * (sep.intercalate (renderItems layout depth (d :: ds))).toList.length + 1 ≤ fuel) :
    ∃ n, readItems fuel ((sep.intercalate (renderItems layout depth (d :: ds))).toList ++
      (close ++ ']' :: rest)) = .error (.longInteger n) := by
  obtain ⟨fuel, rfl⟩ := Nat.exists_eq_add_one.2 (Nat.zero_lt_of_lt hf)
  rw [renderItems] at hf ⊢
  have hlen := length_intercalate_cons sep (render layout depth d) (renderItems layout depth ds)
  have hafter : EndsValue (close ++ ']' :: rest) :=
    endsValue_append hclose (endsValue_cons (by simp))
  obtain ⟨tail, htail, hends⟩ := intercalate_append_eq hsep (render layout depth d)
    (renderItems layout depth ds) hafter
  obtain ⟨n, hn⟩ := hd depth fuel tail (by omega) hends
  exact ⟨n, by rw [htail, readItems_error hn]⟩

theorem readItems_stops (hsep : IsSeparator ',' sep) (hclose : Blank close) (depth : Nat)
    (d : Data) (ds : List Data)
    (hread : ∀ x ∈ d :: ds, refusal? layout x = none → Reads layout x)
    (hstop : ∀ x ∈ d :: ds, refusal? layout x ≠ none → Stops layout x)
    (hstart : ∀ x ∈ d :: ds, StartsValue (render layout depth x).toList)
    (h : ∃ x ∈ d :: ds, refusal? layout x ≠ none) (rest : List Char)
    (hf : 2 * (sep.intercalate (renderItems layout depth (d :: ds))).toList.length + 1 ≤ fuel) :
    ∃ n, readItems fuel ((sep.intercalate (renderItems layout depth (d :: ds))).toList ++
      (close ++ ']' :: rest)) = .error (.longInteger n) := by
  obtain ⟨x, hx, hrefused⟩ := h
  induction ds generalizing d fuel with
  | nil =>
      obtain rfl := List.mem_singleton.1 hx
      exact readItems_stops_head hsep hclose (hstop x hx hrefused) [] rest hf
  | cons d' ds ih =>
      by_cases hd : refusal? layout d = none
      · have hlater : x ∈ d' :: ds :=
          (List.mem_cons.1 hx).resolve_left fun hxd => hrefused (hxd ▸ hd)
        obtain ⟨fuel, rfl⟩ := Nat.exists_eq_add_one.2 (Nat.zero_lt_of_lt hf)
        have hpos := hsep.length_pos
        rw [renderItems_cons_cons, List.length_append, List.length_append] at hf
        rw [renderItems_cons_cons, List.append_assoc, List.append_assoc]
        have hnext : StartsValue ((sep.intercalate (renderItems layout depth (d' :: ds))).toList ++
            (close ++ ']' :: rest)) := by
          rw [renderItems]
          exact (startsValue_intercalate (hstart d' (by simp)) sep _).append _
        obtain ⟨t, ht, -⟩ := hread d List.mem_cons_self hd depth fuel _ (by omega) hsep.endsValue
        obtain ⟨n, hn⟩ := ih d' (fun x hx => hread x (List.mem_cons_of_mem _ hx))
          (fun x hx => hstop x (List.mem_cons_of_mem _ hx))
          (fun x hx => hstart x (List.mem_cons_of_mem _ hx)) (show _ ≤ fuel by omega) hlater
        refine ⟨n, ?_⟩
        rw [readItems_next ht hsep hnext, hn]
        rfl
      · exact readItems_stops_head hsep hclose (hstop d List.mem_cons_self hd) (d' :: ds) rest hf

theorem readMembers_stops_head (hlayout : IsLayout layout) (hsep : IsSeparator ',' sep)
    (hclose : Blank close) {depth : Nat} {m : TextPair} (hm : Stops layout m.2)
    (hstart : StartsValue (render layout depth m.2).toList) (ms : List TextPair)
    (rest : List Char)
    (hf : 2 * (sep.intercalate (renderEntries layout depth (textPairs (m :: ms)))).toList.length + 1
      ≤ fuel) :
    ∃ n, readMembers fuel ((sep.intercalate (renderEntries layout depth
      (textPairs (m :: ms)))).toList ++ (close ++ '\x7d' :: rest)) = .error (.longInteger n) := by
  obtain ⟨fuel, rfl⟩ := Nat.exists_eq_add_one.2 (Nat.zero_lt_of_lt hf)
  rw [renderEntries_cons] at hf ⊢
  have hlen := length_intercalate_cons sep (memberText layout depth m)
    (renderEntries layout depth (textPairs ms))
  have hvalue := length_memberText layout depth m
  have hafter : EndsValue (close ++ '\x7d' :: rest) :=
    endsValue_append hclose (endsValue_cons (by simp))
  obtain ⟨tail, htail, hends⟩ := intercalate_append_eq hsep (memberText layout depth m)
    (renderEntries layout depth (textPairs ms)) hafter
  obtain ⟨n, hn⟩ := hm depth fuel tail (by omega) hends
  refine ⟨n, ?_⟩
  rw [htail, memberText, String.toList_append, String.toList_append, List.append_assoc,
    List.append_assoc]
  exact readMembers_error hlayout.key (hstart.append _) hn

theorem readMembers_stops (hlayout : IsLayout layout) (hsep : IsSeparator ',' sep)
    (hclose : Blank close) (depth : Nat) (m : TextPair) (ms : List TextPair)
    (hread : ∀ x ∈ m :: ms, refusal? layout x.2 = none → Reads layout x.2)
    (hstop : ∀ x ∈ m :: ms, refusal? layout x.2 ≠ none → Stops layout x.2)
    (hstart : ∀ x ∈ m :: ms, StartsValue (render layout depth x.2).toList)
    (h : ∃ x ∈ m :: ms, refusal? layout x.2 ≠ none) (rest : List Char)
    (hf : 2 * (sep.intercalate (renderEntries layout depth (textPairs (m :: ms)))).toList.length + 1
      ≤ fuel) :
    ∃ n, readMembers fuel ((sep.intercalate (renderEntries layout depth
      (textPairs (m :: ms)))).toList ++ (close ++ '\x7d' :: rest)) = .error (.longInteger n) := by
  obtain ⟨x, hx, hrefused⟩ := h
  induction ms generalizing m fuel with
  | nil =>
      obtain rfl := List.mem_singleton.1 hx
      exact readMembers_stops_head hlayout hsep hclose (hstop x hx hrefused) (hstart x hx) [] rest
        hf
  | cons m' ms ih =>
      by_cases hm : refusal? layout m.2 = none
      · have hlater : x ∈ m' :: ms :=
          (List.mem_cons.1 hx).resolve_left fun hxm => hrefused (hxm ▸ hm)
        obtain ⟨fuel, rfl⟩ := Nat.exists_eq_add_one.2 (Nat.zero_lt_of_lt hf)
        have hpos := hsep.length_pos
        have hvalue := length_memberText layout depth m
        rw [renderEntries_cons_cons, List.length_append, List.length_append] at hf
        rw [renderEntries_cons_cons, List.append_assoc, List.append_assoc]
        have hnext : StartsValue ((sep.intercalate (renderEntries layout depth
            (textPairs (m' :: ms)))).toList ++ (close ++ '\x7d' :: rest)) := by
          rw [renderEntries_cons]
          exact (startsValue_intercalate (startsValue_memberText depth m') sep _).append _
        obtain ⟨t, ht, -⟩ := hread m List.mem_cons_self hm depth fuel _ (by omega) hsep.endsValue
        obtain ⟨n, hn⟩ := ih m' (fun x hx => hread x (List.mem_cons_of_mem _ hx))
          (fun x hx => hstop x (List.mem_cons_of_mem _ hx))
          (fun x hx => hstart x (List.mem_cons_of_mem _ hx)) (show _ ≤ fuel by omega) hlater
        refine ⟨n, ?_⟩
        rw [memberText, String.toList_append, String.toList_append, List.append_assoc,
          List.append_assoc, readMembers_next hlayout.key ((hstart m List.mem_cons_self).append _)
            ht hsep hnext, hn]
        rfl
      · exact readMembers_stops_head hlayout hsep hclose (hstop m List.mem_cons_self hm)
          (hstart m List.mem_cons_self) (m' :: ms) rest hf

theorem exists_refused_item {items : List Data} (h : refusal? layout (.list items) ≠ none) :
    ∃ d ∈ items, refusal? layout d ≠ none := by
  by_contra hnone
  push Not at hnone
  exact h (refusalOfItems?_eq_none_iff.2 hnone)

theorem exists_refused_entry {pairs : List TextPair}
    (h : refusal? layout (.map (textPairs pairs)) ≠ none) :
    ∃ e ∈ pairs, refusal? layout e.2 ≠ none := by
  by_contra hnone
  push Not at hnone
  exact h (refusalOfEntries?_eq_none_iff.2 hnone)

theorem stops_list (hlayout : IsLayout layout) {items : List Data}
    (hitems : ∀ d ∈ items, d.IsFloatless)
    (hstop : ∀ d ∈ items, refusal? layout d ≠ none → Stops layout d)
    (h : refusal? layout (.list items) ≠ none) : Stops layout (.list items) := by
  intro depth fuel rest hf _
  obtain ⟨fuel, rfl⟩ := (startsValue_render_list layout depth items).exists_succ hf
  have hrefused := exists_refused_item h
  cases items with
  | nil => exact absurd rfl h
  | cons d ds =>
      have hlen := length_render_list layout depth d ds
      obtain ⟨n, hn⟩ := readItems_stops (hlayout.separator (depth + 1))
        (blank_lineBreak hlayout depth) (depth + 1) d ds
        (fun x hx => reads_of_refusal? hlayout (hitems x hx)) hstop
        (fun x hx => startsValue_render (hitems x hx) _) hrefused rest (show _ ≤ fuel by omega)
      refine ⟨n, ?_⟩
      rw [readValue_render_list hlayout (startsValue_render (hitems d List.mem_cons_self) _), hn]
      rfl

theorem stops_map (hlayout : IsLayout layout) {pairs : List TextPair}
    (hpairs : ∀ e ∈ pairs, e.2.IsFloatless)
    (hstop : ∀ e ∈ pairs, refusal? layout e.2 ≠ none → Stops layout e.2)
    (h : refusal? layout (.map (textPairs pairs)) ≠ none) :
    Stops layout (.map (textPairs pairs)) := by
  intro depth fuel rest hf _
  obtain ⟨fuel, rfl⟩ := (startsValue_render_map layout depth _).exists_succ hf
  have hrefused := exists_refused_entry h
  cases pairs with
  | nil => exact absurd rfl h
  | cons e es =>
      have hlen := length_render_map layout depth e es
      obtain ⟨n, hn⟩ := readMembers_stops hlayout (hlayout.separator (depth + 1))
        (blank_lineBreak hlayout depth) (depth + 1) e es
        (fun x hx => reads_of_refusal? hlayout (hpairs x hx)) hstop
        (fun x hx => startsValue_render (hpairs x hx) _) hrefused rest (show _ ≤ fuel by omega)
      refine ⟨n, ?_⟩
      rw [readValue_render_map hlayout depth e es rest, hn]
      rfl

/-- Reading what is written for data without floats stops at its first integer that is refused. -/
theorem stops_of_refusal? (hlayout : IsLayout layout) {d : Data} (hd : d.IsFloatless)
    (h : refusal? layout d ≠ none) : Stops layout d := by
  induction hd with
  | null => exact absurd rfl h
  | bool b => exact absurd rfl h
  | int n => exact stops_int h
  | float hx => cases hx
  | text s => exact absurd rfl h
  | list hitems ih => exact stops_list hlayout hitems ih h
  | map _ hpairs ih => exact stops_map hlayout hpairs ih h

/-- Text that is written for a map is refused as soon as one of its integers is. -/
theorem read_render_refused (hlayout : IsLayout layout) {pairs : List TextPair}
    (hd : ∀ e ∈ pairs, e.2.IsFloatless) (h : refusal? layout (.map (textPairs pairs)) ≠ none) :
    ∃ n, read (render layout 0 (.map (textPairs pairs))) = .error (.longInteger n) := by
  have hstops := stops_map hlayout hd (fun e he => stops_of_refusal? hlayout (hd e he)) h
  obtain ⟨n, hn⟩ := hstops 0 _ [] (Nat.le_add_right _ 2) (by simp [EndsValue])
  refine ⟨n, ?_⟩
  rw [List.append_nil] at hn
  rw [read_render_eq, hn]

end Refused

end Json

end IdentityClaims
