import IdentityClaims.Config.Mode
import Mathlib.Data.List.Nodup

/-!
# What a mode makes of variables

In a mode, a variable has the value of the mode's own variable if there is one. A name that itself
starts with the mode is a name like any other: nothing is taken off it twice. Main statement:
`Mode.get?_view`.
-/

namespace IdentityClaims.Mode

variable {mode : String} {vars : Variables}

theorem restAfter?_eq_some_iff {start text rest : String} :
    restAfter? start text = some rest ↔ text = start ++ rest := by
  rw [restAfter?]
  constructor
  · intro h
    split at h
    · rename_i hstart
      obtain ⟨tail, htail⟩ := List.isPrefixOf_iff_prefix.1 hstart
      rw [← htail, ← String.length_toList, List.drop_left, Option.some.injEq] at h
      rw [← String.toList_inj, String.toList_append, ← h, String.toList_ofList, htail]
    · cases h
  · rintro rfl
    have hstart : start.toList.isPrefixOf (start ++ rest).toList = true := by
      rw [String.toList_append]
      exact List.isPrefixOf_iff_prefix.2 (List.prefix_append _ _)
    rw [if_pos hstart, String.toList_append, ← String.length_toList, List.drop_left,
      String.ofList_toList]

/-- The mode's own variables under the names that they stand for. -/
def stripped (mode : String) (vars : Variables) : Variables :=
  (own mode vars).map fun (_, rest, value) => (rest, value)

theorem view_eq_putAll (mode : String) (vars : Variables) :
    view mode vars = Entries.putAll vars (stripped mode vars) := rfl

theorem keys_stripped (mode : String) (vars : Variables) :
    Entries.keys (stripped mode vars) =
      (Entries.keys vars).filterMap (restAfter? (start mode)) := by
  simp [stripped, own, Entries.keys, List.map_filterMap, List.filterMap_map, Function.comp_def]

theorem get?_stripped (mode : String) (vars : Variables) (name : String) :
    Entries.get? (stripped mode vars) name = Entries.get? vars (start mode ++ name) := by
  induction vars with
  | nil => rfl
  | cons e vars ih =>
      obtain ⟨key, value⟩ := e
      rw [Entries.get?_cons, ← ih]
      cases hrest : restAfter? (start mode) key with
      | none =>
          have hne : key ≠ start mode ++ name := fun hkey => by
            rw [restAfter?_eq_some_iff.2 hkey] at hrest
            cases hrest
          simp [stripped, own, hrest, hne]
      | some rest =>
          have hname : rest = name ↔ key = start mode ++ name := by
            rw [← restAfter?_eq_some_iff, hrest, Option.some.injEq]
          simp [stripped, own, hrest, Entries.get?_cons, hname]

theorem nodup_keys_stripped (h : (Entries.keys vars).Nodup) (mode : String) :
    (Entries.keys (stripped mode vars)).Nodup := by
  rw [keys_stripped]
  refine List.Nodup.filterMap (fun name name' rest hname hname' => ?_) h
  rw [Option.mem_def, restAfter?_eq_some_iff] at hname hname'
  rw [hname, hname']

/-- In a mode, the mode's own variable counts, and without one the variable itself. -/
theorem get?_view (h : (Entries.keys vars).Nodup) (mode name : String) :
    Entries.get? (view mode vars) name =
      (Entries.get? vars (start mode ++ name)).or (Entries.get? vars name) := by
  rw [view_eq_putAll, Entries.get?_putAll (nodup_keys_stripped h mode), get?_stripped]

end IdentityClaims.Mode
