import IdentityClaims.Proofs.Values.TextPairs

/-!
# Data that JSON can say

`Data.JsonOver num` holds of data made of null, truth values, integers, floats that satisfy `num`,
text, lists, and maps with distinct text keys. With finite floats this is what JSON can say, and
without floats it is what JSON says with no rounding at all. Such data is its own portable form.
-/

namespace IdentityClaims

namespace Data

/-- Data that JSON can say, where `num` tells which floats it may hold. -/
inductive JsonOver (num : Binary64 → Prop) : Data → Prop
  | null : JsonOver num .null
  | bool (b : Bool) : JsonOver num (.bool b)
  | int (n : Int) : JsonOver num (.int n)
  | float {x : Binary64} (h : num x) : JsonOver num (.float x)
  | text (s : String) : JsonOver num (.text s)
  | list {items : List Data} (h : ∀ d ∈ items, JsonOver num d) : JsonOver num (.list items)
  | map {pairs : List TextPair} (hn : (pairKeys pairs).Nodup)
      (h : ∀ e ∈ pairs, JsonOver num e.2) : JsonOver num (.map (textPairs pairs))

abbrev IsJson : Data → Prop := JsonOver fun x => x.magnitude?.isSome = true

abbrev IsFloatless : Data → Prop := JsonOver fun _ => False

variable {num num' : Binary64 → Prop} {d : Data}

theorem JsonOver.imp (h : JsonOver num d) (hn : ∀ x, num x → num' x) : JsonOver num' d := by
  induction h with
  | null => exact .null
  | bool b => exact .bool b
  | int n => exact .int n
  | float hx => exact .float (hn _ hx)
  | text s => exact .text s
  | list _ ih => exact .list ih
  | map hk _ ih => exact .map hk ih

theorem portableItems_eq_self {items : List Data} (h : ∀ d ∈ items, d.portable = .ok d) :
    portableItems items = .ok items := by
  induction items with
  | nil => rfl
  | cons d items ih =>
      simp only [portableItems, h d List.mem_cons_self,
        ih fun x hx => h x (List.mem_cons_of_mem _ hx)]
      rfl

theorem portableEntries_eq_self {pairs : List TextPair} (h : ∀ e ∈ pairs, e.2.portable = .ok e.2) :
    portableEntries (textPairs pairs) = .ok (textPairs pairs) := by
  induction pairs with
  | nil => rfl
  | cons e pairs ih =>
      simp only [textPairs_cons, portableEntries, portableKey, h e List.mem_cons_self,
        ih fun x hx => h x (List.mem_cons_of_mem _ hx)]
      rfl

/-- What JSON can say is its own portable form. -/
theorem IsJson.portable_eq (h : d.IsJson) : d.portable = .ok d := by
  induction h with
  | null => rfl
  | bool b => rfl
  | int n => rfl
  | @float x hx =>
      cases x with
      | nan => simp [Binary64.magnitude?] at hx
      | infinite negative => simp [Binary64.magnitude?] at hx
      | finite negative m q => rfl
  | text s => rfl
  | list _ ih =>
      rw [portable, portableItems_eq_self ih]
      rfl
  | map hk _ ih =>
      rw [portable, portableEntries_eq_self ih]
      exact congrArg Except.ok (ofPairs_textPairs_of_nodup hk)

end Data

end IdentityClaims
