import IdentityClaims.Proofs.Config.ModeView
import Mathlib.Data.List.Perm.Basic

/-!
# One pass through the variables of a process

The view of a mode is made in one pass. The variables are copied, and each of the mode's own
variables that is met on the way is put into the copy, under the name that it stands for. What is
read is never written to: a name that starts with the mode twice loses the start once, and neither
the order of the variables nor a name that both loses a start and gets a new value matters. Main
statement: `Mode.view_characterized`.
-/

namespace IdentityClaims

namespace Entries

variable {κ ν : Type} [DecidableEq κ] {es fs : Entries κ ν}

theorem perm_of_get?_eq (he : (keys es).Nodup) (hf : (keys fs).Nodup)
    (h : ∀ k, get? es k = get? fs k) : es.Perm fs := by
  refine (List.perm_ext_iff_of_nodup he.of_map hf.of_map).2 fun e => ?_
  constructor
  · intro hm
    exact mem_of_get? ((h e.1).symm.trans (get?_of_mem he hm))
  · intro hm
    exact mem_of_get? ((h e.1).trans (get?_of_mem hf hm))

end Entries

namespace Mode

variable {mode : String} {vars : Variables}

/-! ## The pass -/

namespace Pass

theorem stripped_cons (mode : String) (e : String × String) (vars : Variables) :
    stripped mode (e :: vars) =
      match restAfter? (start mode) e.1 with
      | some rest => (rest, e.2) :: stripped mode vars
      | none => stripped mode vars := by
  cases h : restAfter? (start mode) e.1 <;> simp [stripped, own, h]

/-- After some variables, what is read is as it was, and the mode's own ones among them are in the
copy. -/
theorem foldl_meet (mode : String) (p : Pass) (seen : Variables) :
    seen.foldl (meet mode) p =
      { source := p.source, copy := Entries.putAll p.copy (stripped mode seen) } := by
  induction seen generalizing p with
  | nil => rfl
  | cons e seen ih =>
      rw [List.foldl_cons, ih, stripped_cons, meet]
      cases restAfter? (start mode) e.1 with
      | none => rfl
      | some rest => rw [Entries.putAll_cons]

theorem run_begin (mode : String) (vars : Variables) :
    (begin vars).run mode = { source := vars, copy := view mode vars } :=
  foldl_meet mode (begin vars) vars

end Pass

/-! ## The view -/

theorem nodup_keys_view (h : (Entries.keys vars).Nodup) (mode : String) :
    (Entries.keys (view mode vars)).Nodup :=
  Entries.nodup_keys_putAll h _

theorem mem_keys_view_iff (h : (Entries.keys vars).Nodup) (mode name : String) :
    name ∈ Entries.keys (view mode vars) ↔
      start mode ++ name ∈ Entries.keys vars ∨ name ∈ Entries.keys vars := by
  rw [← not_iff_not, not_or, ← Entries.get?_eq_none_iff, ← Entries.get?_eq_none_iff,
    ← Entries.get?_eq_none_iff, get?_view h, Option.or_eq_none_iff]

theorem view_perm {other : Variables} (h : other.Perm vars) (hn : (Entries.keys vars).Nodup)
    (mode : String) : (view mode other).Perm (view mode vars) := by
  have hn' : (Entries.keys other).Nodup := (h.map Prod.fst).nodup_iff.2 hn
  refine Entries.perm_of_get?_eq (nodup_keys_view hn' mode) (nodup_keys_view hn mode) fun name => ?_
  rw [get?_view hn', get?_view hn, Entries.get?_perm h hn', Entries.get?_perm h hn']

/-- In a mode a name has the value of the mode's own variable for it, else the value of the variable
itself, and there are no other names. The start of the mode is taken off once, the order of the
variables does not matter, and the pass that makes the view leaves the variables as they are. -/
theorem view_characterized (mode : String) (h : (Entries.keys vars).Nodup) :
    (∀ name, Entries.get? (view mode vars) name =
      (Entries.get? vars (upperCase mode ++ "_" ++ name)).or (Entries.get? vars name)) ∧
    (∀ name, name ∈ Entries.keys (view mode vars) ↔
      upperCase mode ++ "_" ++ name ∈ Entries.keys vars ∨ name ∈ Entries.keys vars) ∧
    (Entries.keys (view mode vars)).Nodup ∧
    (∀ other : Variables, other.Perm vars → (view mode other).Perm (view mode vars)) ∧
    (Pass.begin vars).run mode = { source := vars, copy := view mode vars } := by
  refine ⟨?_, ?_, nodup_keys_view h mode, ?_, Pass.run_begin mode vars⟩
  · exact fun name => get?_view h mode name
  · exact fun name => mem_keys_view_iff h mode name
  · exact fun other hother => view_perm hother h mode

/-- Variables that start with the test mode once, twice, and with nothing behind it. -/
def nestedVariables : Variables :=
  [("TEST_TEST_LEVEL", "WARN"), ("LEVEL", "ERROR"), ("TEST_", "?"), ("TEST_LEVEL", "DEBUG")]

theorem view_characterized_nested :
    (Entries.keys nestedVariables).Nodup ∧
      Entries.get? (view "test" nestedVariables) "LEVEL" = some "DEBUG" ∧
      Entries.get? (view "test" nestedVariables) "TEST_LEVEL" = some "WARN" ∧
      Entries.get? (view "test" nestedVariables) "" = some "?" ∧
      (view "test" nestedVariables.reverse).Perm (view "test" nestedVariables) := by
  have hn : (Entries.keys nestedVariables).Nodup := by decide
  have hstart : upperCase "test" = "TEST" := by decide +kernel
  obtain ⟨hget, -, -, hperm, -⟩ := view_characterized "test" hn
  rw [hstart] at hget
  refine ⟨hn, ?_, ?_, ?_, hperm _ (List.reverse_perm _)⟩
  · rw [hget]
    decide
  · rw [hget]
    decide
  · rw [hget]
    decide

end Mode

end IdentityClaims
