import IdentityClaims.Json.Direct
import IdentityClaims.Proofs.Values.TextPairs

/-!
# Reading through a tree and reading straight into data

The two readers go through a text in step, and what `Json.readDatum` has put together is what the
tree that `Json.readValue` keeps stands for. The steps are compared at one more unit of fuel, given
that the readers agree at the fuel that is left; only the members of an object need more than their
own results, for they are put into entries that are already there. Main statement: a text is read
straight as the data of its tree, where each object has every name in its first place with its last
value.
-/

namespace IdentityClaims

namespace JsonTree

/-- The members of an object with their values as data, none of them dropped. -/
def memberPairs (members : List (String × JsonTree)) : List TextPair :=
  members.map fun m => (m.1, m.2.toData)

variable {members : List (String × JsonTree)}

theorem memberPairs_cons (m : String × JsonTree) (members : List (String × JsonTree)) :
    memberPairs (m :: members) = (m.1, m.2.toData) :: memberPairs members := rfl

theorem membersData_eq : membersData members = textPairs (memberPairs members) := by
  induction members with
  | nil => rfl
  | cons m members ih => rw [membersData, ih, memberPairs_cons, textPairs_cons]

theorem pairKeys_memberPairs : pairKeys (memberPairs members) = members.map Prod.fst := by
  rw [pairKeys, memberPairs, List.map_map]
  rfl

theorem toData_object :
    (object members).toData = .ofEntries (Entries.ofPairs (memberPairs members)) := by
  rw [toData, membersData_eq, ofPairs_textPairs]

/-- Members with distinct names are the entries of a map as they stand. -/
theorem toData_object_of_nodup (h : (members.map Prod.fst).Nodup) :
    (object members).toData = .map (textPairs (memberPairs members)) := by
  rw [← pairKeys_memberPairs] at h
  rw [toData, membersData_eq, ofPairs_textPairs_of_nodup h, ofEntries_eq]

structure Settles (members : List (String × JsonTree)) (es : Entries String Data) : Prop where
  keys : es.keys = (members.map Prod.fst).eraseDups
  values : ∀ name, es.get? name = (Entries.get? members.reverse name).map toData

theorem get?_memberPairs (name : String) :
    Entries.get? (memberPairs members) name = (Entries.get? members name).map toData := by
  induction members with
  | nil => rfl
  | cons m members ih =>
    rw [memberPairs_cons, Entries.get?_cons, Entries.get?_cons, ih]
    split <;> rfl

theorem settles_ofPairs : Settles members (Entries.ofPairs (memberPairs members)) where
  keys := by
    rw [Entries.keys_ofPairs]
    exact congrArg List.eraseDups pairKeys_memberPairs
  values name := by
    have hreverse : (memberPairs members).reverse = memberPairs members.reverse :=
      List.map_reverse.symm
    rw [Entries.get?_ofPairs, hreverse, get?_memberPairs]

end JsonTree

namespace Json

def putAllMembers (entries : List (Data × Data)) (members : List (String × JsonTree)) :
    List (Data × Data) :=
  (JsonTree.membersData members).foldl (fun es e => Data.putEntry es e.1 e.2) entries

variable [LoneUnits]

section Step

variable {fuel : Nat}

theorem readDatum_succ
    (hitems : ∀ cs, readData fuel cs =
      (readItems fuel cs).map fun r => (JsonTree.itemsData r.1, r.2))
    (hmembers : ∀ entries cs, putMembers fuel entries cs =
      (readMembers fuel cs).map fun r => (putAllMembers entries r.1, r.2)) (cs : List Char) :
    readDatum (fuel + 1) cs = (readValue (fuel + 1) cs).map fun r => (r.1.toData, r.2) := by
  rw [readValue.eq_def]
  dsimp only
  split
  case h_1 => rfl
  case h_2 rest =>
    rw [readDatum]
    cases readQuoted rest <;> rfl
  case h_3 rest =>
    rw [readDatum]
    generalize skipSpace rest = after
    split
    case h_1 => rfl
    case h_2 =>
      simp only [hmembers]
      cases readMembers fuel after <;> rfl
  case h_4 rest =>
    rw [readDatum]
    generalize skipSpace rest = after
    split
    case h_1 => rfl
    case h_2 =>
      simp only [hitems]
      cases readItems fuel after <;> rfl
  case h_5 hnil htext hobject hlist =>
    rw [readDatum.eq_6 _ _ hnil htext hobject hlist]
    cases readNamed? cs <;> rfl

theorem readData_succ
    (hvalue : ∀ cs, readDatum fuel cs = (readValue fuel cs).map fun r => (r.1.toData, r.2))
    (hitems : ∀ cs, readData fuel cs =
      (readItems fuel cs).map fun r => (JsonTree.itemsData r.1, r.2)) (cs : List Char) :
    readData (fuel + 1) cs =
      (readItems (fuel + 1) cs).map fun r => (JsonTree.itemsData r.1, r.2) := by
  rw [readData, readItems, hvalue]
  cases readValue fuel cs with
  | error e => rfl
  | ok r =>
    dsimp only [Except.map]
    generalize skipSpace r.2 = after
    split
    case h_1 => rfl
    case h_2 =>
      simp only [hitems]
      cases readItems fuel _ <;> rfl
    case h_3 => simp only

theorem putMembers_succ
    (hvalue : ∀ cs, readDatum fuel cs = (readValue fuel cs).map fun r => (r.1.toData, r.2))
    (hmembers : ∀ entries cs, putMembers fuel entries cs =
      (readMembers fuel cs).map fun r => (putAllMembers entries r.1, r.2))
    (entries : List (Data × Data)) (cs : List Char) :
    putMembers (fuel + 1) entries cs =
      (readMembers (fuel + 1) cs).map fun r => (putAllMembers entries r.1, r.2) := by
  rw [readMembers.eq_def]
  dsimp only
  split
  case h_1 rest =>
    rw [putMembers]
    cases readQuoted rest with
    | error e => rfl
    | ok name =>
      dsimp only
      generalize skipSpace name.2 = after
      split
      case h_1 =>
        simp only [hvalue]
        cases readValue fuel _ with
        | error e => rfl
        | ok r =>
          dsimp only [Except.map]
          generalize skipSpace r.2 = after
          split
          case h_1 => rfl
          case h_2 =>
            simp only [hmembers]
            cases readMembers fuel _ <;> rfl
          case h_3 => simp only
      case h_2 => simp only [Except.map]
  case h_2 hname =>
    rw [putMembers]
    · rfl
    · exact hname

end Step

theorem readers_agree (fuel : Nat) :
    (∀ cs, readDatum fuel cs = (readValue fuel cs).map fun r => (r.1.toData, r.2)) ∧
      (∀ cs, readData fuel cs =
        (readItems fuel cs).map fun r => (JsonTree.itemsData r.1, r.2)) ∧
      ∀ entries cs, putMembers fuel entries cs =
        (readMembers fuel cs).map fun r => (putAllMembers entries r.1, r.2) := by
  induction fuel with
  | zero => exact ⟨fun _ => rfl, fun _ => rfl, fun _ _ => rfl⟩
  | succ fuel ih =>
    obtain ⟨hvalue, hitems, hmembers⟩ := ih
    exact ⟨readDatum_succ hitems hmembers, readData_succ hvalue hitems,
      putMembers_succ hvalue hmembers⟩

/-- A text is read straight as the data of its tree. -/
theorem readWhole_eq (text : String) : readWhole text = (read text).map JsonTree.toData := by
  rw [readWhole, read]
  dsimp only
  split
  case isTrue => rfl
  case isFalse =>
    rw [(readers_agree _).1]
    cases readValue _ _ with
    | error e => rfl
    | ok r =>
      dsimp only [Except.map]
      split <;> rfl

end Json

end IdentityClaims
