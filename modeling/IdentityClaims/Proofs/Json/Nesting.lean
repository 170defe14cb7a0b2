import IdentityClaims.ClaimSet.Text

/-!
# How deep the calls go that make data of a tree

The calls that lie inside each other are counted on the tree, and counting needs no room. Main
statement: with room for as many calls as a tree takes, its data is made as without a bound, and
with less room nothing is made. A source is then decoded as without a bound, or it is too deep.
-/

namespace IdentityClaims

namespace JsonTree

mutual

/-- How many calls lie inside each other when a tree is turned into data. -/
def calls : JsonTree → Nat
  | .list items => itemsCalls items + 2
  | .object members => membersCalls members + 2
  | _ => 1

def itemsCalls : List JsonTree → Nat
  | [] => 0
  | t :: ts => max t.calls (itemsCalls ts)

def membersCalls : List (String × JsonTree) → Nat
  | [] => 0
  | (_, t) :: ms => max t.calls (membersCalls ms)

end

theorem calls_le_membersCalls {members : List (String × JsonTree)} {m : String × JsonTree}
    (h : m ∈ members) : m.2.calls ≤ membersCalls members := by
  induction members with
  | nil => cases h
  | cons m' members ih =>
    rw [membersCalls]
    obtain rfl | h := List.mem_cons.1 h
    · exact Nat.le_max_left _ _
    · exact Nat.le_trans (ih h) (Nat.le_max_right _ _)

section Room

variable {α β γ : Type} {room m n : Nat} {a : α} {b : β}

theorem map_of_room_sub_two (f : α → β) :
    (if 2 ≤ room then (if n ≤ room - 2 then some a else none).map f else none) =
      if n + 2 ≤ room then some (f a) else none := by
  by_cases hroom : 2 ≤ room
  · have hfit : n ≤ room - 2 ↔ n + 2 ≤ room := by omega
    simp only [if_pos hroom, hfit]
    split <;> rfl
  · rw [if_neg hroom, if_neg (by omega)]

theorem bind_of_room (f : α → β → γ) :
    ((if m ≤ room then some a else none).bind fun a =>
      (if n ≤ room then some b else none).map (f a)) =
      if max m n ≤ room then some (f a b) else none := by
  simp only [Nat.max_le]
  by_cases hm : m ≤ room <;> by_cases hn : n ≤ room <;> simp [hm, hn]

end Room

mutual

/-- A tree is data where its calls fit, and nothing where they do not. -/
theorem toDataWithin_eq (room : Nat) : ∀ t : JsonTree,
    t.toDataWithin room = if t.calls ≤ room then some t.toData else none
  | .list items => by
    rw [toDataWithin, itemsWithin_eq, map_of_room_sub_two, calls, toData]
  | .object members => by
    rw [toDataWithin, membersWithin_eq, map_of_room_sub_two, calls, toData]
  | .null | .bool _ | .int _ | .float _ | .text _ => rfl

theorem itemsWithin_eq (room : Nat) : ∀ ts : List JsonTree,
    itemsWithin room ts = if itemsCalls ts ≤ room then some (itemsData ts) else none
  | [] => rfl
  | t :: ts => by
    rw [itemsWithin, toDataWithin_eq room t, itemsWithin_eq room ts, itemsCalls, itemsData,
      bind_of_room]

theorem membersWithin_eq (room : Nat) : ∀ ms : List (String × JsonTree),
    membersWithin room ms = if membersCalls ms ≤ room then some (membersData ms) else none
  | [] => rfl
  | (name, t) :: ms => by
    rw [membersWithin, toDataWithin_eq room t, membersWithin_eq room ms, membersCalls, membersData,
      bind_of_room]

end

end JsonTree

section Source

variable [Json.LoneUnits] {room : Nat} {source : JsonSource} {text : String}
  {members : List (String × JsonTree)}

theorem JsonSource.pairsWithin_of_read (ht : source.toText = .ok text)
    (hm : Json.read text = .ok (.object members)) :
    source.pairsWithin room =
      if JsonTree.membersCalls members < room then .ok (JsonTree.membersData members)
      else .error .tooDeep := by
  rw [pairsWithin, ht]
  simp only [hm, JsonTree.membersWithin_eq]
  by_cases hroom : 1 ≤ room
  · by_cases hfit : JsonTree.membersCalls members < room
    · rw [if_pos hroom, if_pos (Nat.le_sub_one_of_lt hfit), if_pos hfit]
    · rw [if_pos hroom, if_neg (by omega), if_neg hfit]
  · rw [if_neg hroom, if_neg (by omega)]

theorem JsonSource.pairsWithin_eq_or (room : Nat) (source : JsonSource) :
    source.pairsWithin room = source.pairs.mapError .text ∨
      source.pairsWithin room = .error .tooDeep := by
  cases ht : source.toText with
  | error e => exact .inl (by rw [pairsWithin, pairs, ht]; rfl)
  | ok text =>
    cases hr : Json.read text with
    | error e => exact .inl (by simp only [pairsWithin, pairs, ht, hr]; rfl)
    | ok t =>
      cases t with
      | object members =>
        rw [pairsWithin_of_read ht hr]
        split
        · exact .inl (by simp only [pairs, ht, hr]; rfl)
        · exact .inr rfl
      | _ => exact .inl (by simp only [pairsWithin, pairs, ht, hr]; rfl)

/-- A source is decoded as without a bound, or it is too deep. -/
theorem Decoder.decodeTextWithin_eq_or (d : Decoder) (room : Nat) (source : JsonSource) :
    d.decodeTextWithin room source = (d.decodeText source).mapError .text ∨
      d.decodeTextWithin room source = .error .tooDeep := by
  obtain h | h := JsonSource.pairsWithin_eq_or room source
  · refine .inl ?_
    rw [decodeTextWithin, h, decodeText]
    cases source.pairs with
    | error e => rfl
    | ok pairs =>
      show (d.decode pairs).mapError _ =
        ((d.decode pairs).mapError TextError.claims).mapError NestedTextError.text
      cases d.decode pairs <;> rfl
  · exact .inr (by rw [decodeTextWithin, h])

end Source

end IdentityClaims
