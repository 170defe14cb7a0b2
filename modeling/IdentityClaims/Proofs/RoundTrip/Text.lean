import IdentityClaims.ClaimSet.Text
import IdentityClaims.Proofs.Json.Reading
import IdentityClaims.Proofs.RoundTrip.FlatMap
import IdentityClaims.Proofs.Text.Utf8

/-!
# The round trip over JSON text

The text of a claim set is decoded to what the flat map itself is decoded to, in whatever layout it
was written. A layout may sort the keys of every object. Then the variants of a claim and the
entries of a map come back in another order, and the two claim sets are the same up to that.
-/

namespace IdentityClaims

namespace Json

theorem refusal?_rearranged {num : Binary64 → Prop} {layout : JsonLayout} {f : Data → Data}
    {d : Data} (hf : Data.Rearranging f) (hd : Data.JsonOver num d)
    (h : refusal? layout d = none) : refusal? layout (f d) = none := by
  induction hd with
  | null => rwa [hf.null]
  | bool b => rwa [hf.bool]
  | int n => rwa [hf.int]
  | float hx => rwa [hf.float]
  | text s => rwa [hf.text]
  | list _ ih =>
      have hitems := refusalOfItems?_eq_none_iff.1 h
      rw [hf.list]
      refine refusalOfItems?_eq_none_iff.2 fun d hd => ?_
      obtain ⟨x, hx, rfl⟩ := List.mem_map.1 hd
      exact ih x hx (hitems x hx)
  | @map pairs _ _ ih =>
      have hpairs := refusalOfEntries?_eq_none_iff.1 h
      obtain ⟨ps, hps, hmap⟩ := hf.map pairs
      rw [hmap]
      exact refusalOfEntries?_eq_none_iff.2
        (forall_of_perm_mapValues (P := fun v => refusal? layout v = none) hps fun e he =>
          ih e he (hpairs e he))

theorem exists_write_eq_ok_iff (layout : JsonLayout) :
    ∃ f, Data.Rearranging f ∧ ∀ d text, write layout d = .ok text ↔
      refusal? layout (f d) = none ∧ render layout 0 (f d) = text := by
  by_cases hs : layout.sortKeys = true
  · refine ⟨sorted, Data.rearranging_sorted, fun d text => ?_⟩
    cases hr : refusal? layout (sorted d) <;> simp [write, hs, hr]
  · refine ⟨id, Data.rearranging_id, fun d text => ?_⟩
    cases hr : refusal? layout d <;> simp [write, hs, hr]

theorem exists_text_of_refusal? {num : Binary64 → Prop} {layout : JsonLayout} {d : Data}
    (hd : Data.JsonOver num d) (h : refusal? layout d = none) :
    ∃ text, write layout d = .ok text := by
  obtain ⟨f, hf, hwrite⟩ := exists_write_eq_ok_iff layout
  exact ⟨_, (hwrite d _).2 ⟨refusal?_rearranged hf hd h, rfl⟩⟩

/-- Text that is written for a map without floats is read as an object whose members are the
entries of the map, rearranged. -/
theorem exists_members_of_write {layout : JsonLayout} {pairs : List TextPair} {text : String}
    (hlayout : IsLayout layout) (hd : ∀ e ∈ pairs, e.2.IsFloatless)
    (h : write layout (.ofEntries pairs) = .ok text) :
    ∃ f ms ps, Data.Rearranging f ∧ ps.Perm (mapValues f pairs) ∧
      read text = .ok (.object ms) ∧ JsonTree.membersData ms = textPairs ps := by
  obtain ⟨f, hf, hwrite⟩ := exists_write_eq_ok_iff layout
  obtain ⟨ps, hps, hmap⟩ := hf.map pairs
  obtain ⟨hr, rfl⟩ := (hwrite _ _).1 h
  have hfloatless : ∀ e ∈ ps, e.2.IsFloatless :=
    forall_of_perm_mapValues hps fun e he => hf.jsonOver (hd e he)
  rw [ofEntries_eq, hmap] at hr ⊢
  obtain ⟨ms, hms, hmsd⟩ := read_render hlayout hfloatless hr
  exact ⟨f, ms, ps, hf, hps, hms, hmsd⟩

end Json

namespace Decoder

variable {num : Binary64 → Prop} {d : Decoder} {x y y' : ClaimSet} {f : Data → Data}
  {ps : List TextPair}

theorem write_of_encodeText {policy : Policy} {layout : JsonLayout} {text : String} {m : FlatMap}
    (hm : x.encode policy = .ok m) (h : x.encodeText policy layout = .ok text) :
    Json.write layout (.ofEntries m) = .ok text := by
  rw [ClaimSet.encodeText, hm] at h
  exact Checked.mapError_eq_ok_iff.1 h

theorem decodeText_of_read {source : JsonSource} {text : String} {ms : List (String × JsonTree)}
    (hs : source.toText = .ok text) (hr : Json.read text = .ok (.object ms))
    (hm : JsonTree.membersData ms = textPairs ps) (hy : d.decode (textPairs ps) = .ok y) :
    d.decodeText source = .ok y := by
  have hpairs : source.pairs = .ok (textPairs ps) := by
    rw [JsonSource.pairs, hs]
    simp only [hr, hm]
  rw [decodeText, hpairs]
  simp only [hy]
  rfl

theorem Types.jsonOver_flatOf (h : d.Types num x) (hd : d.Faithful) :
    ∀ e ∈ flatOf (x.carried d.policy) x.additional.entries, Data.JsonOver num e.2 := by
  intro e he
  rcases List.mem_append.1 he with he | he
  · obtain ⟨c, -, hc⟩ := List.mem_flatMap.1 he
    rcases c with c | c | _
    · rw [ClaimSet.carried] at hc
      cases hv : x.plain c with
      | none => simp [hv] at hc
      | some v =>
          rw [hv] at hc
          rw [List.mem_singleton.1 hc]
          exact (h.plain c v hv).jsonOver_carried (restoresNull_schema hd.gender c)
    · obtain ⟨v, hv, rfl⟩ := List.mem_map.1 hc
      obtain ⟨tag, text, rfl, -⟩ := h.variants c v hv
      exact .text text
    · rw [ClaimSet.carried] at hc
      cases ht : x.updatedAt with
      | none => simp [ht] at hc
      | some t =>
          rw [ht] at hc
          rw [List.mem_singleton.1 hc]
          exact .int _
  · exact h.additional.jsonOver_entries hd.additional he

theorem Types.exists_encodeText {layout : JsonLayout} (h : d.Types (fun _ => False) x)
    (hd : d.Faithful)
    (hr : Json.refusal? layout
      (.ofEntries (flatOf (x.carried d.policy) x.additional.entries)) = none) :
    ∃ text, x.encodeText d.policy layout = .ok text := by
  have hencode := h.encode_eq hd fun _ hz => hz.elim
  obtain ⟨text, ht⟩ := Json.exists_text_of_refusal?
    (.map hencode.1.nodup_flatOf (h.jsonOver_flatOf hd)) hr
  rw [← ofEntries_eq] at ht
  refine ⟨text, ?_⟩
  rw [ClaimSet.encodeText, hencode.2]
  simp only [ht]
  rfl

theorem Types.variants_perm (h : d.Types num x) (hd : d.Faithful)
    (hnum : ∀ z, num z → z.magnitude?.isSome = true) (hf : Data.Rearranging f)
    (hps : ps.Perm (mapValues f (flatOf (x.carried d.policy) x.additional.entries)))
    (hy : d.Restores f x ps y) (c : LocalizedClaim) :
    (y.localized c).variants.Perm (x.localized c).variants := by
  have hperm := (h.pairsOf_perm_carried hd hnum hps (.localized c)).map
    fun e => (Label.tag (FlatKey.split e.1).2, e.2)
  rwa [← hy.localized c, h.variants_carried hf c] at hperm

/-- What comes back of a claim set from a rearranged flat map is the same as the claim set at its
whole second. -/
theorem Types.same_of_restores (h : d.Types num x) (hd : d.Faithful)
    (hnum : ∀ z, num z → z.magnitude?.isSome = true) (hf : Data.Rearranging f)
    (hps : ps.Perm (mapValues f (flatOf (x.carried d.policy) x.additional.entries)))
    (hy' : d.Restores f x ps y') (hy : x.IsRounded d.policy.rounding y) : y'.same y = true := by
  have hplain (c : PlainClaim) : ClaimSet.sameOption (y'.plain c) (y.plain c) = true := by
    rw [hy'.plain c, hy.plain]
    cases hv : x.plain c with
    | none => rfl
    | some v => exact (h.plain c v hv).same_mapData (restoresNull_schema hd.gender c) hf hnum
  have hlocalized (c : LocalizedClaim) :
      (y'.localized c).same Data.same (y.localized c) = true := by
    rw [hy.localized]
    refine Localized.same_of_perm (h.variants_perm hd hnum hf hps hy' c) fun v hv => ?_
    obtain ⟨tag, text, rfl, -⟩ := h.variants c v hv
    simp
  have htime : y'.updatedAt = y.updatedAt := by
    have hmicros := hy'.updatedAt.trans hy.updatedAt.symm
    exact Option.map_injective (fun _ _ => Instant.ext_micros) hmicros
  have hadditional : y'.additional.same y.additional = true := by
    rw [hy'.additional, hy.additional]
    exact h.additional.same_refill hd.additional hf hnum
      (h.unrecognized_perm_entries hd hnum hps)
  simp [ClaimSet.same, hplain, hlocalized, htime, hadditional]

/-- A claim set without floats, written as text with options that ask for JSON, is decoded to the
claim set that its flat map is decoded to, and so it is from the bytes that encode the text. -/
theorem decodeText_encodeText (d : Decoder) (x : ClaimSet) (options : List (Data × Data))
    (layout : JsonLayout) (text : String) (hd : d.Faithful) (hx : d.Types (fun _ => False) x)
    (ha : JsonLayout.AsksForJson options) (hl : JsonLayout.ofOptions options = .ok layout)
    (ht : x.encodeText d.policy layout = .ok text) :
    ∃ m y y', x.encode d.policy = .ok m ∧ d.decode (textPairs m) = .ok y ∧
      d.decodeText (.text text) = .ok y' ∧ d.decodeText (.bytes (Utf8.encode text)) = .ok y' ∧
      y'.same y = true := by
  have hlayout := JsonLayout.isLayout_of_ofOptions ha hl
  have hnum : ∀ z : Binary64, False → z.magnitude?.isSome = true := fun _ hz => hz.elim
  have hencode := (hx.encode_eq hd hnum).2
  have hid : (flatOf (x.carried d.policy) x.additional.entries).Perm
      (mapValues id (flatOf (x.carried d.policy) x.additional.entries)) := by
    rw [mapValues_id]
  obtain ⟨y, hy, hrestores⟩ := hx.exists_restored hd hnum Data.rearranging_id hid
  obtain ⟨f, ms, ps, hf, hps, hread, hms⟩ := Json.exists_members_of_write hlayout
    (hx.jsonOver_flatOf hd) (write_of_encodeText hencode ht)
  obtain ⟨y', hy', hrestores'⟩ := hx.exists_restored hd hnum hf hps
  have hbytes : (JsonSource.bytes (Utf8.encode text)).toText = .ok text := by
    rw [JsonSource.toText, Utf8.decode_encode_eq_ok]
    rfl
  exact ⟨_, y, y', hencode, hy, decodeText_of_read rfl hread hms hy',
    decodeText_of_read hbytes hread hms hy',
    hx.same_of_restores hd hnum hf hps hrestores' (hx.isRounded_of_restores hd hnum hrestores)⟩

/-- Options for a layout on lines with all keys sorted. -/
def sortedOptions : List (Data × Data) :=
  [(.text "indent", .int 2), (.text "sort_keys", .bool true)]

def sortedLines : JsonLayout := { indent := some "  ", sortKeys := true }

theorem asksForJson_sortedOptions : JsonLayout.AsksForJson sortedOptions where
  indent s hs := by
    have hint : JsonLayout.option sortedOptions "indent" = .int 2 := rfl
    rw [hint] at hs
    cases hs
  separators item key h := by
    have hnull : JsonLayout.option sortedOptions "separators" = .null := rfl
    rw [hnull] at h
    cases h

theorem ofOptions_sortedOptions : JsonLayout.ofOptions sortedOptions = .ok sortedLines := rfl

theorem exists_encodeText_traveller :
    ∃ text, traveller.encodeText travelDecoder.policy sortedLines = .ok text := by
  have hflat : flatOf (traveller.carried travelDecoder.policy) traveller.additional.entries =
      [("sub", .text "u-1"), ("name", .text "Ada"), ("name#fr#CA", .text "Adèle"),
        ("email_verified", .bool true), ("gender", .map [(.text "genderCode", .text "x")]),
        ("address", .map []), ("updated_at", .int (-1)), ("org-id", .int 7),
        ("motto#fr", .null)] := rfl
  refine (types_traveller fun _ => False).exists_encodeText faithful_travelDecoder ?_
  rw [hflat]
  rfl

theorem decodeText_encodeText_traveller :
    travelDecoder.Faithful ∧ travelDecoder.Types (fun _ => False) traveller ∧
      JsonLayout.AsksForJson sortedOptions ∧
      JsonLayout.ofOptions sortedOptions = .ok sortedLines ∧
      ∃ text m y y', traveller.encodeText travelDecoder.policy sortedLines = .ok text ∧
        traveller.encode travelDecoder.policy = .ok m ∧
        travelDecoder.decode (textPairs m) = .ok y ∧
        travelDecoder.decodeText (.text text) = .ok y' ∧ y'.same y = true := by
  obtain ⟨text, ht⟩ := exists_encodeText_traveller
  obtain ⟨m, y, y', hm, hy, hy', -, hsame⟩ :=
    decodeText_encodeText travelDecoder traveller sortedOptions sortedLines text
      faithful_travelDecoder (types_traveller _) asksForJson_sortedOptions ofOptions_sortedOptions
      ht
  exact ⟨faithful_travelDecoder, types_traveller _, asksForJson_sortedOptions,
    ofOptions_sortedOptions, text, m, y, y', ht, hm, hy, hy', hsame⟩

end Decoder

end IdentityClaims
