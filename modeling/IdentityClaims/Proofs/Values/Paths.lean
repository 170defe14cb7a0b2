import IdentityClaims.Proofs.Values.Merge

/-!
# What stands at a path of merged maps

A path is a list of keys, each looked up in the map that the keys before it lead to. Where the map
that is laid over another one holds a value at a path, this is laid over what stands there below.
Where it holds nothing, what stands there below stays, unless the way is cut off by something that
is no map. Main statement: `merge_along_paths`.

What is no number, and a thing of unknown kind, are the same as nothing, not even as themselves. A
program can still find such a key, as the one thing that it put into the map before, but data does
not say which thing it is. So here no path leads through these keys, and `FindsKeys` keeps them out
where the whole of a merged map is told.
-/

namespace IdentityClaims.Data

abbrev Key := { k : Data // k.keyFault? = none }

def child? (d : Data) (k : Key) : Option Data :=
  match d with
  | .map es => lookup es k
  | _ => none

def at? : Data → List Key → Option Data
  | d, [] => some d
  | d, k :: p => (d.child? k).bind fun c => c.at? p

def CutsOff (d : Data) (p : List Key) : Prop :=
  ∃ q v, q <+: p ∧ q ≠ p ∧ d.at? q = some v ∧ ∀ es, v ≠ .map es

/-- Maps in maps: the keys of each map are pairwise not the same and satisfy `key`. What is no map
is a leaf, whatever it is made of. -/
inductive NestedOver (key : Data → Prop) : Data → Prop
  | leaf {d : Data} (h : ∀ es, d ≠ .map es) : NestedOver key d
  | map {es : List (Data × Data)} (keys : ∀ e ∈ es, key e.1)
      (distinct : es.Pairwise fun e f => e.1.same f.1 = false)
      (values : ∀ e ∈ es, NestedOver key e.2) : NestedOver key (.map es)

abbrev Nested : Data → Prop := NestedOver fun k => k.keyFault? = none

/-- Maps in maps, each with keys that are the same as themselves, so that they are found again. -/
abbrev FindsKeys : Data → Prop := NestedOver fun k => k.same k = true

variable {d c base upper v : Data} {es : List (Data × Data)} {k : Key} {p : List Key}

/-! ## Walking along a path -/

theorem child?_of_not_map (h : ∀ es, d ≠ .map es) (k : Key) : d.child? k = none := by
  cases d with
  | map es => exact absurd rfl (h es)
  | _ => rfl

@[simp] theorem at?_nil (d : Data) : d.at? [] = some d := rfl

theorem at?_cons (d : Data) (k : Key) (p : List Key) :
    d.at? (k :: p) = (d.child? k).bind fun c => c.at? p := rfl

theorem at?_cons_of_child (h : d.child? k = some c) (p : List Key) : d.at? (k :: p) = c.at? p := by
  rw [at?_cons, h, Option.bind_some]

theorem at?_append (d : Data) (p q : List Key) :
    d.at? (p ++ q) = (d.at? p).bind fun c => c.at? q := by
  induction p generalizing d with
  | nil => rfl
  | cons k p ih => simp only [List.cons_append, at?_cons, Option.bind_assoc, ih]

theorem cutsOff_cons :
    d.CutsOff (k :: p) ↔ (∀ es, d ≠ .map es) ∨ ∃ c, d.child? k = some c ∧ c.CutsOff p := by
  constructor
  · rintro ⟨q, v, hq, hne, hv, hmap⟩
    cases q with
    | nil =>
        obtain rfl := Option.some.inj hv
        exact .inl hmap
    | cons k' q =>
        obtain ⟨rfl, hrest⟩ := List.cons_prefix_cons.1 hq
        obtain ⟨c, hk, hv⟩ := Option.bind_eq_some_iff.1 hv
        exact .inr ⟨c, hk, q, v, hrest, fun heq => hne (heq ▸ rfl), hv, hmap⟩
  · rintro (hmap | ⟨c, hk, q, v, hq, hne, hv, hmap⟩)
    · exact ⟨[], d, List.nil_prefix, (List.cons_ne_nil k p).symm, rfl, hmap⟩
    · exact ⟨k :: q, v, List.cons_prefix_cons.2 ⟨rfl, hq⟩, fun heq => hne (List.cons.inj heq).2,
        (at?_cons_of_child hk q).trans hv, hmap⟩

theorem CutsOff.at?_eq_none (h : d.CutsOff p) : d.at? p = none := by
  obtain ⟨q, v, ⟨r, rfl⟩, hne, hv, hmap⟩ := h
  cases r with
  | nil => exact absurd (List.append_nil q).symm hne
  | cons k r =>
      rw [at?_append, hv, Option.bind_some, at?_cons, child?_of_not_map hmap, Option.bind_none]

/-! ## What merging leaves at a path -/

theorem Nested.child (h : d.Nested) (hk : d.child? k = some c) : c.Nested := by
  cases h with
  | leaf h =>
      rw [child?_of_not_map h] at hk
      cases hk
  | map keys distinct values =>
      obtain ⟨e, he, rfl⟩ := exists_mem_of_lookup hk
      exact values e he

theorem Nested.atMostOnce (h : (Data.map es).Nested) (k : Key) : AtMostOnce es k := by
  cases h with
  | leaf h => exact absurd rfl (h es)
  | map keys distinct values =>
      refine distinct.imp fun {e f} hne he => Bool.eq_false_iff.2 fun hf => ?_
      rw [same_of_same k.2 he hf] at hne
      cases hne

theorem child?_merge (h : (Data.map es).Nested) (base : Data) (k : Key) :
    (base.merge (.map es)).child? k =
      match lookup es k with
      | some v => some (((base.child? k).getD .null).merge v)
      | none => base.child? k := by
  obtain ⟨bs, rfl⟩ | hleaf := map_or_leaf base
  · exact lookup_mergeEntries k.2 (h.atMostOnce k) bs
  · rw [merge_of_not_map hleaf, child?_of_not_map hleaf, child?]
    cases lookup es k <;> simp

theorem getD_at?_null (p : List Key) : ((Data.null).at? p).getD .null = .null := by
  cases p <;> rfl

theorem at?_merge_of_some (h : upper.Nested) (base : Data) (ho : upper.at? p = some v) :
    (base.merge upper).at? p = some (((base.at? p).getD .null).merge v) := by
  induction p generalizing base upper with
  | nil =>
      obtain rfl := Option.some.inj ho
      rfl
  | cons k p ih =>
      obtain ⟨c, hk, hc⟩ := Option.bind_eq_some_iff.1 ho
      obtain ⟨es, rfl⟩ | hleaf := map_or_leaf upper
      · have hlookup : lookup es k = some c := hk
        have hchild := child?_merge h base k
        rw [hlookup] at hchild
        rw [at?_cons_of_child hchild, ih (h.child hk) _ hc, at?_cons]
        cases base.child? k with
        | none => simp [getD_at?_null]
        | some b => rfl
      · rw [child?_of_not_map hleaf] at hk
        cases hk

/-- Where the data on top holds nothing, what stands there below stays, if the way is not cut
off. -/
theorem at?_merge_of_none (h : upper.Nested) (base : Data) (ho : upper.at? p = none)
    (hc : ¬ upper.CutsOff p) : (base.merge upper).at? p = base.at? p := by
  induction p generalizing base upper with
  | nil => cases ho
  | cons k p ih =>
      obtain ⟨es, rfl⟩ | hleaf := map_or_leaf upper
      · have hchild := child?_merge h base k
        cases hlookup : lookup es k with
        | none =>
            rw [hlookup] at hchild
            rw [at?_cons, hchild, at?_cons]
        | some c =>
            have hk : (Data.map es).child? k = some c := hlookup
            rw [hlookup] at hchild
            rw [at?_cons_of_child hk] at ho
            have hcut : ¬ c.CutsOff p := fun hcut => hc (cutsOff_cons.2 (.inr ⟨c, hk, hcut⟩))
            rw [at?_cons_of_child hchild, ih (h.child hk) _ ho hcut, at?_cons]
            cases base.child? k with
            | none =>
                -- the path goes on, and null leads nowhere
                cases p with
                | nil => cases ho
                | cons k' p => rfl
            | some b => rfl
      · exact absurd (cutsOff_cons.2 (.inl hleaf)) hc

theorem CutsOff.merge (h : upper.CutsOff p) (ho : upper.Nested) (base : Data) :
    (base.merge upper).CutsOff p := by
  obtain ⟨q, v, hq, hne, hv, hmap⟩ := h
  exact ⟨q, v, hq, hne, (at?_merge_of_some ho base hv).trans (by rw [merge_leaf hmap]), hmap⟩

/-! ## Merging the same map again -/

/-- Merging the same data again changes nothing. Every value on top was laid over what stands in its
place now, and by induction over the nesting that is not changed by it. -/
theorem merge_merge (h : upper.Nested) (hself : upper.FindsKeys) (base : Data) :
    (base.merge upper).merge upper = base.merge upper := by
  induction h generalizing base with
  | leaf h => rw [merge_leaf h, merge_leaf h]
  | @map es keys distinct values ih =>
      obtain ⟨ws, hws⟩ := exists_map_of_merge_map base es
      rw [hws]
      cases hself with
      | leaf hleaf => exact absurd rfl (hleaf es)
      | map found _ nested =>
          refine congrArg Data.map (mergeEntries_eq_self fun e he => ?_)
          have hlookup := lookup_of_mem distinct he (found e he)
          have hchild := child?_merge (.map keys distinct values) base ⟨e.1, keys e he⟩
          rw [hlookup, hws] at hchild
          exact ⟨_, hchild, ih e he (nested e he) _⟩

/-- Merging the same data again changes nothing that is no map, also where keys are not found
again. -/
theorem at?_merge_merge (h : upper.Nested) (base : Data) (hmap : ∀ es, v ≠ .map es) (p : List Key) :
    ((base.merge upper).merge upper).at? p = some v ↔ (base.merge upper).at? p = some v := by
  cases ho : upper.at? p with
  | none =>
      by_cases hc : upper.CutsOff p
      · rw [(hc.merge h _).at?_eq_none, (hc.merge h _).at?_eq_none]
      · rw [at?_merge_of_none h _ ho hc]
  | some u =>
      rw [at?_merge_of_some h _ ho, at?_merge_of_some h _ ho]
      obtain ⟨es, rfl⟩ | hleaf := map_or_leaf u
      · -- under a map there was a map before, and there is one again
        have hne : ∀ b : Data, some (b.merge (.map es)) ≠ some v := fun b heq => by
          obtain ⟨ws, hws⟩ := exists_map_of_merge_map b es
          exact hmap ws ((Option.some.inj heq).symm.trans hws)
        exact iff_of_false (hne _) (hne _)
      · rw [merge_leaf hleaf, merge_leaf hleaf]

/-- Along every path the map laid on top decides. Where it holds something that is no map, this is
what stands there. Where it holds nothing, what stands there is the value below, unless something
that is no map was laid on the way. There are no other paths. Laying an empty map on top changes
nothing, and so does laying the same map on top again: no value changes at any path, and the whole
stays as it is if the keys of that map are found again. -/
theorem merge_along_paths (base : List (Data × Data)) {upper : List (Data × Data)}
    (h : (Data.map upper).Nested) :
    let merged := (Data.map base).merge (.map upper)
    (∀ p v, (Data.map upper).at? p = some v → (∀ es, v ≠ .map es) → merged.at? p = some v) ∧
    (∀ p v, (Data.map base).at? p = some v → (Data.map upper).at? p = none →
      ¬ (Data.map upper).CutsOff p → merged.at? p = some v) ∧
    (∀ p, (merged.at? p).isSome →
      ((Data.map base).at? p).isSome ∨ ((Data.map upper).at? p).isSome) ∧
    (Data.map base).merge (.map []) = .map base ∧
    (∀ p v, (∀ es, v ≠ .map es) →
      ((merged.merge (.map upper)).at? p = some v ↔ merged.at? p = some v)) ∧
    ((Data.map upper).FindsKeys → merged.merge (.map upper) = merged) := by
  intro merged
  refine ⟨?_, ?_, ?_, rfl, ?_, ?_⟩
  · intro p v hv hmap
    rw [at?_merge_of_some h _ hv, merge_leaf hmap]
  · intro p v hv ho hc
    rw [at?_merge_of_none h _ ho hc, hv]
  · intro p hp
    by_cases ho : (Data.map upper).at? p = none
    · by_cases hc : (Data.map upper).CutsOff p
      · rw [(hc.merge h _).at?_eq_none] at hp
        cases hp
      · rw [at?_merge_of_none h _ ho hc] at hp
        exact .inl hp
    · exact .inr (Option.isSome_iff_ne_none.2 ho)
  · exact fun p v hmap => at?_merge_merge h _ hmap p
  · exact fun hself => merge_merge h hself _

def lowerLayer : List (Data × Data) :=
  [(.text "codec", .map [(.text "rounding", .text "floor"), (.text "strict", .bool true)]),
    (.int 1, .text "one"), (.text "logging", .map [(.text "level", .text "INFO")])]

/-- A map with a map for a map and one for a text, the latter under a truth value that is the same
key as the number, and a text for a map. -/
def upperLayer : List (Data × Data) :=
  [(.text "codec", .map [(.text "rounding", .text "round")]),
    (.bool true, .map [(.null, .int 3)]), (.text "logging", .text "off")]

theorem nestedOver_singleton {key : Data → Prop} {e : Data × Data} (hkey : key e.1)
    (hvalue : NestedOver key e.2) : NestedOver key (.map [e]) :=
  .map (List.forall_mem_singleton.2 hkey) (List.pairwise_singleton _ e)
    (List.forall_mem_singleton.2 hvalue)

theorem nestedOver_upperLayer {key : Data → Prop} (htext : ∀ s, key (.text s))
    (hbool : ∀ b, key (.bool b)) (hnull : key .null) : NestedOver key (.map upperLayer) := by
  have hcodec : NestedOver key (.map [(.text "rounding", .text "round")]) :=
    nestedOver_singleton (htext _) (.leaf nofun)
  have hone : NestedOver key (.map [(.null, .int 3)]) := nestedOver_singleton hnull (.leaf nofun)
  have hlogging : NestedOver key (.text "off") := .leaf nofun
  refine .map ?_ ?_ ?_
  · simp [upperLayer, htext, hbool]
  · simp [upperLayer, same, sameScalar]
  · simp [upperLayer, hcodec, hone, hlogging]

theorem merge_along_paths_layers :
    let merged := (Data.map lowerLayer).merge (.map upperLayer)
    let codec : Key := ⟨.text "codec", rfl⟩
    let strict : Key := ⟨.text "strict", rfl⟩
    (Data.map upperLayer).Nested ∧ (Data.map upperLayer).FindsKeys ∧
      merged.at? [⟨.int 1, rfl⟩, ⟨.null, rfl⟩] = some (.int 3) ∧
      ¬ (Data.map upperLayer).CutsOff [codec, strict] ∧
      merged.at? [codec, strict] = some (.bool true) ∧
      merged.merge (.map upperLayer) = merged := by
  intro merged codec strict
  have h : (Data.map upperLayer).Nested := nestedOver_upperLayer (fun _ => rfl) (fun _ => rfl) rfl
  have hself : (Data.map upperLayer).FindsKeys :=
    nestedOver_upperLayer (by simp [same, sameScalar]) (by simp [same, sameScalar]) rfl
  obtain ⟨hover, hbase, -, -, -, hagain⟩ := merge_along_paths lowerLayer h
  have hcut : ¬ (Data.map upperLayer).CutsOff [codec, strict] := by
    intro hcut
    obtain hmap | ⟨c, hc, hrest⟩ := cutsOff_cons.1 hcut
    · exact hmap _ rfl
    · cases hc
      obtain hmap | ⟨c, hc, -⟩ := cutsOff_cons.1 hrest
      · exact hmap _ rfl
      · cases hc
  refine ⟨h, hself, ?_, hcut, ?_, hagain hself⟩
  · refine hover _ _ ?_ fun es hes => ?_
    · rfl
    · cases hes
  · refine hbase _ _ ?_ ?_ hcut
    · rfl
    · rfl

end IdentityClaims.Data
