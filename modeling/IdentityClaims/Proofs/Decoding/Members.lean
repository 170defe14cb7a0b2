import IdentityClaims.Proofs.Decoding.Acceptance
import IdentityClaims.Proofs.Decoding.Escape
import IdentityClaims.Proofs.Json.Direct
import IdentityClaims.Proofs.Json.Nesting
import Mathlib.Data.Fintype.EquivFin

/-!
# Members that repeat

A map cannot hold a key twice, so a claim that is written twice has to be noticed before the text
becomes a map. The members of the outer object are decoded as they are written, and what lies
further inside is settled as in any map. Main statement: an object that repeats a name is no claim
set, and any other is decoded as the map that the text is read as straight, if there is room for the
calls that make data of its members. Reading straight has no such bound: however much room there is,
lists in lists can be read and decoded as a map and are too deep as members.

An escape in a name can be a lone surrogate. The statement is for all characters that stand for
these, as for any one text there are some that do not occur in it.
-/

namespace IdentityClaims

open JsonTree (memberPairs membersCalls)

namespace Json

def supplementary (n : Nat) : Char := Char.ofNat (0x10000 + n)

theorem card_supplementary :
    ((Finset.range 0x100000).image supplementary).card = 0x100000 := by
  rw [Finset.card_image_of_injOn, Finset.card_range]
  intro a ha b hb h
  rw [Finset.mem_coe, Finset.mem_range] at ha hb
  have hnat := congrArg Char.toNat h
  rw [supplementary, supplementary, toNat_ofNat (.inr (by omega)),
    toNat_ofNat (.inr (by omega))] at hnat
  omega

theorem LoneUnits.exists_apart {used : Finset Char} (h : used.card + 0x800 ≤ 0x100000) :
    ∃ units : LoneUnits, ∀ n, isSurrogate n = true → units.char n ∉ used := by
  have hcard : 0x800 ≤ ((Finset.range 0x100000).image supplementary \ used).card := by
    have hle := Finset.le_card_sdiff used ((Finset.range 0x100000).image supplementary)
    rw [card_supplementary] at hle
    omega
  have hnonempty : Nonempty (Fin 0x800 ↪ ↥((Finset.range 0x100000).image supplementary \ used)) :=
    Function.Embedding.nonempty_of_card_le (by rwa [Fintype.card_fin, Fintype.card_coe])
  obtain ⟨f⟩ := hnonempty
  have hindex : ∀ n, isSurrogate n = true → 0xD800 ≤ n ∧ n - 0xD800 < 0x800 := by
    intro n hn
    simp only [isSurrogate, isHighSurrogate, isLowSurrogate, Bool.or_eq_true, Bool.and_eq_true,
      decide_eq_true_eq] at hn
    omega
  refine ⟨⟨fun n => f (Fin.ofNat 0x800 (n - 0xD800)), fun a b ha hb hab => ?_⟩, fun n _ => ?_⟩
  · obtain ⟨hle, hlt⟩ := hindex a ha
    obtain ⟨hle', hlt'⟩ := hindex b hb
    have hfin := Fin.mk.inj (f.injective (Subtype.ext hab))
    rw [Nat.mod_eq_of_lt hlt, Nat.mod_eq_of_lt hlt'] at hfin
    omega
  · exact (Finset.mem_sdiff.1 (f _).2).2

end Json

namespace Decoder

theorem exists_error_of_repeated {d : Decoder} {pairs : List TextPair}
    (h : ¬ (pairKeys pairs).Nodup) : ∃ e, d.decode (textPairs pairs) = .error e := by
  cases hs : d.decode (textPairs pairs) with
  | error e => exact ⟨e, rfl⟩
  | ok s => exact absurd (decode_ok_iff_accepts.1 ⟨s, hs⟩).distinct h

section Members

variable [Json.LoneUnits] {d : Decoder} {source : JsonSource} {text : String}
  {members : List (String × JsonTree)} {room : Nat}

theorem decodeTextWithin_of_read (ht : source.toText = .ok text)
    (hm : Json.read text = .ok (.object members)) :
    d.decodeTextWithin room source =
      if membersCalls members < room then
        (d.decode (textPairs (memberPairs members))).mapError fun e => .text (.claims e)
      else .error .tooDeep := by
  rw [decodeTextWithin, JsonSource.pairsWithin_of_read ht hm, JsonTree.membersData_eq]
  by_cases hfit : membersCalls members < room
  · rw [if_pos hfit, if_pos hfit]
  · rw [if_neg hfit, if_neg hfit]

/-- The members of an object are decoded as they are written, none of them dropped. An object that
repeats a name is refused, and one that does not is decoded as the map that a reader straight into
data makes of the text, unless its members are too deep for the room there is. In both ways every
object further inside has each name once, in its first place with its last value. -/
theorem decodeText_members (d : Decoder) (source : JsonSource) (text : String)
    (members : List (String × JsonTree)) (ht : source.toText = .ok text)
    (hm : Json.read text = .ok (.object members)) :
    (¬ (members.map Prod.fst).Nodup → ∀ room, ∃ e, d.decodeTextWithin room source = .error e) ∧
      ((members.map Prod.fst).Nodup →
        Json.readWhole text = .ok (.map (textPairs (memberPairs members))) ∧
          ∀ room, d.decodeTextWithin room source =
            if membersCalls members < room then
              (d.decode (textPairs (memberPairs members))).mapError fun e => .text (.claims e)
            else .error .tooDeep) ∧
      ∀ nested : List (String × JsonTree), ∃ es, (JsonTree.object nested).toData = .ofEntries es ∧
        JsonTree.Settles nested es := by
  refine ⟨fun hrepeated room => ?_, fun hdistinct => ⟨?_, fun _ => decodeTextWithin_of_read ht hm⟩,
    fun nested => ⟨_, JsonTree.toData_object, JsonTree.settles_ofPairs⟩⟩
  · rw [← JsonTree.pairKeys_memberPairs] at hrepeated
    obtain ⟨e, he⟩ := exists_error_of_repeated hrepeated
    rw [decodeTextWithin_of_read ht hm, he]
    split
    · exact ⟨_, rfl⟩
    · exact ⟨_, rfl⟩
  · rw [Json.readWhole_eq, hm, ← JsonTree.toData_object_of_nodup hdistinct]
    rfl

end Members

/-- One name written twice, the second time with an escape. -/
def escapedTwin : String := "\x7b\"sub\": \"a\", \"\\u0073ub\": \"b\"\x7d"

def innerTwins : String :=
  "\x7b\"sub\": \"a\", \"tags\": \x7b\"k\": 1, \"l\": [\x7b\"x\": 1, \"x\": 2\x7d], \"k\": 3\x7d\x7d"

def settledTwins : List TextPair :=
  [("sub", .text "a"),
    ("tags", .ofEntries [("k", .int 3), ("l", .list [.ofEntries [("x", .int 2)]])])]

def anyDecoder : Decoder where
  policy := {}
  additionalType := AdditionalType.anyMap

theorem read_escapedTwin :
    Json.read escapedTwin = .ok (.object [("sub", .text "a"), ("sub", .text "b")]) := by
  simp only [Json.read, escapedTwin, String.reduceToList]
  rfl

theorem read_innerTwins :
    Json.read innerTwins = .ok (.object [("sub", .text "a"), ("tags", .object [("k", .int 1),
      ("l", .list [.object [("x", .int 1), ("x", .int 2)]]), ("k", .int 3)])]) := by
  simp only [Json.read, innerTwins, String.reduceToList]
  rfl

theorem decodeText_members_twins :
    (∀ room, ∃ e, anyDecoder.decodeTextWithin room (.text escapedTwin) = .error e) ∧
      Json.readWhole innerTwins = .ok (.map (textPairs settledTwins)) ∧
      anyDecoder.decodeTextWithin 10 (.text innerTwins) =
        (anyDecoder.decode (textPairs settledTwins)).mapError fun e => .text (.claims e) := by
  obtain ⟨hrepeated, -, -⟩ :=
    decodeText_members anyDecoder (.text escapedTwin) escapedTwin _ rfl read_escapedTwin
  obtain ⟨-, hdistinct, -⟩ :=
    decodeText_members anyDecoder (.text innerTwins) innerTwins _ rfl read_innerTwins
  obtain ⟨hread, hdecode⟩ := hdistinct (by decide)
  exact ⟨hrepeated (by decide), hread, hdecode 10⟩

/-- An empty list in so many lists, one in the other. -/
def nestedLists : Nat → Data
  | 0 => .list []
  | n + 1 => .list [nestedLists n]

/-- A subject, and a key of no standard claim with lists in lists. -/
def nestedPairs (n : Nat) : List TextPair := subjectAnd "x" (nestedLists n)

theorem exists_items_of_toData {t : JsonTree} {ds : List Data} (h : t.toData = .list ds) :
    ∃ items, t = .list items ∧ JsonTree.itemsData items = ds := by
  cases t with
  | list items =>
    rw [JsonTree.toData] at h
    exact ⟨items, rfl, Data.list.inj h⟩
  | object members =>
    rw [JsonTree.toData_object, ofEntries_eq] at h
    cases h
  | _ => cases h

theorem le_calls_of_nestedLists {n : Nat} {t : JsonTree} (h : t.toData = nestedLists n) :
    2 * (n + 1) ≤ t.calls := by
  induction n generalizing t with
  | zero =>
    obtain ⟨items, rfl, -⟩ := exists_items_of_toData h
    rw [JsonTree.calls]
    omega
  | succ n ih =>
    obtain ⟨items, rfl, hitems⟩ := exists_items_of_toData h
    cases items with
    | nil => cases hitems
    | cons t ts =>
      have hinner := ih (List.cons.inj hitems).1
      rw [JsonTree.calls, JsonTree.itemsCalls]
      omega

theorem isFloatless_nestedLists (n : Nat) : (nestedLists n).IsFloatless := by
  induction n with
  | zero => exact .list (by simp)
  | succ n ih => exact .list (by simpa using ih)

theorem refusal?_nestedLists (n : Nat) : Json.refusal? {} (nestedLists n) = none := by
  induction n with
  | zero => rfl
  | succ n ih =>
    rw [nestedLists, Json.refusal?, Json.refusalOfItems?_eq_none_iff]
    simpa using ih

def nestedText (n : Nat) : String := Json.render {} 0 (.ofEntries (nestedPairs n))

theorem exists_members_nestedText (n : Nat) :
    ∃ members, Json.read (nestedText n) = .ok (.object members) ∧
      memberPairs members = nestedPairs n := by
  have hfloatless : ∀ e ∈ nestedPairs n, e.2.IsFloatless := by
    simpa [nestedPairs, subjectAnd] using ⟨.text _, isFloatless_nestedLists n⟩
  have hrefusal : Json.refusal? {} (.map (textPairs (nestedPairs n))) = none := by
    rw [Json.refusal?, Json.refusalOfEntries?_eq_none_iff]
    simpa [nestedPairs, subjectAnd] using ⟨rfl, refusal?_nestedLists n⟩
  obtain ⟨members, hm, hdata⟩ := Json.read_render isLayout_default hfloatless hrefusal
  exact ⟨members, hm, textPairs_injective (JsonTree.membersData_eq.symm.trans hdata)⟩

theorem le_membersCalls_of_nestedPairs {n : Nat} {members : List (String × JsonTree)}
    (h : memberPairs members = nestedPairs n) : 2 * (n + 1) ≤ membersCalls members := by
  have hmem : ("x", nestedLists n) ∈ memberPairs members := by
    rw [h]
    exact List.mem_cons_of_mem _ List.mem_cons_self
  obtain ⟨m, hm, heq⟩ := List.mem_map.1 hmem
  exact (le_calls_of_nestedLists (Prod.mk.inj heq).2).trans (JsonTree.calls_le_membersCalls hm)

/-- However much room there is, there are lists in lists that are read straight and decoded as a
map, but are too deep as members. -/
theorem decodeTextWithin_nestedText {room n : Nat} (h : room ≤ 2 * (n + 1)) :
    Json.readWhole (nestedText n) = .ok (.map (textPairs (nestedPairs n))) ∧
      (∃ s, anyDecoder.decode (textPairs (nestedPairs n)) = .ok s) ∧
      anyDecoder.decodeTextWithin room (.text (nestedText n)) = .error .tooDeep := by
  obtain ⟨members, hm, hpairs⟩ := exists_members_nestedText n
  have hdistinct : (members.map Prod.fst).Nodup := by
    rw [← JsonTree.pairKeys_memberPairs, hpairs]
    exact show ["sub", "x"].Nodup by decide
  have hdeep := le_membersCalls_of_nestedPairs hpairs
  refine ⟨?_, decode_ok_iff_accepts.2 (accepts_subjectAnd anyDecoder rfl rfl _), ?_⟩
  · rw [Json.readWhole_eq, hm, ← hpairs, ← JsonTree.toData_object_of_nodup hdistinct]
    rfl
  · rw [decodeTextWithin_of_read rfl hm, if_neg (by omega)]

/-- With room for a thousand calls, five hundred lists in each other are too deep. -/
theorem decodeText_tooDeep :
    Json.readWhole (nestedText 499) = .ok (.map (textPairs (nestedPairs 499))) ∧
      (∃ s, anyDecoder.decode (textPairs (nestedPairs 499)) = .ok s) ∧
      anyDecoder.decodeTextWithin 1000 (.text (nestedText 499)) = .error .tooDeep :=
  decodeTextWithin_nestedText (by decide)

end Decoder

end IdentityClaims
