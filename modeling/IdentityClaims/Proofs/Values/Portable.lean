import IdentityClaims.Claim.Value
import IdentityClaims.Proofs.Values.Record

/-!
# What has a portable form

Data has a portable form if all bytes in it encode text and nothing in it is of an unknown kind.
Otherwise the first thing that stands in the way, in the order of writing, decides the error.
`Data.Writable` and `Data.Blocks` say which of the two it is, by the structure of the data, and each
value is one or the other. Main statement: `PlainClaim.write_eq_error_iff`.
-/

namespace IdentityClaims

namespace Data

inductive Writable : Data → Prop
  | null : Writable .null
  | bool (b : Bool) : Writable (.bool b)
  | int (n : Int) : Writable (.int n)
  | float (x : Binary64) : Writable (.float x)
  | text (s : String) : Writable (.text s)
  | bytes {bs : List UInt8} {s : String} (h : Utf8.decode bs = .ok s) : Writable (.bytes bs)
  | list {items : List Data} (h : ∀ d ∈ items, Writable d) : Writable (.list items)
  | map {entries : List (Data × Data)} (hk : ∀ e ∈ entries, ∃ key, e.1.portableKey = .ok key)
      (h : ∀ e ∈ entries, Writable e.2) : Writable (.map entries)

/-- The first thing in data that has no portable form. The key of an entry is written before its
value. -/
inductive Blocks : Data → PortableError → Prop
  | bytes {bs : List UInt8} {position : Nat} (h : Utf8.decode bs = .error position) :
      Blocks (.bytes bs) (.notUtf8 (bs.getD position 0) position)
  | object (kind : String) : Blocks (.object kind) (.unknownKind kind)
  | item {pre post : List Data} {d : Data} {e : PortableError} (hpre : ∀ x ∈ pre, Writable x)
      (h : Blocks d e) : Blocks (.list (pre ++ d :: post)) e
  | key {pre post : List (Data × Data)} {k v : Data} {e : PortableError}
      (hk : ∀ x ∈ pre, ∃ key, x.1.portableKey = .ok key) (hpre : ∀ x ∈ pre, Writable x.2)
      (h : k.portableKey = .error e) : Blocks (.map (pre ++ (k, v) :: post)) e
  | value {pre post : List (Data × Data)} {k v : Data} {key : String} {e : PortableError}
      (hk : ∀ x ∈ pre, ∃ key, x.1.portableKey = .ok key) (hpre : ∀ x ∈ pre, Writable x.2)
      (hkey : k.portableKey = .ok key) (h : Blocks v e) : Blocks (.map (pre ++ (k, v) :: post)) e

variable {d : Data} {e : PortableError}

section Run

theorem exists_portableItems {items : List Data} (h : ∀ d ∈ items, ∃ y, d.portable = .ok y) :
    ∃ ys, portableItems items = .ok ys := by
  induction items with
  | nil => exact ⟨[], rfl⟩
  | cons d items ih =>
    obtain ⟨y, hy⟩ := h d List.mem_cons_self
    obtain ⟨ys, hys⟩ := ih fun x hx => h x (List.mem_cons_of_mem _ hx)
    exact ⟨y :: ys, by rw [portableItems, hy, hys]; rfl⟩

theorem exists_portableEntries {entries : List (Data × Data)}
    (hk : ∀ e ∈ entries, ∃ key, e.1.portableKey = .ok key)
    (h : ∀ e ∈ entries, ∃ y, e.2.portable = .ok y) :
    ∃ ys, portableEntries entries = .ok ys := by
  induction entries with
  | nil => exact ⟨[], rfl⟩
  | cons e entries ih =>
    obtain ⟨key, hkey⟩ := hk e List.mem_cons_self
    obtain ⟨y, hy⟩ := h e List.mem_cons_self
    obtain ⟨ys, hys⟩ := ih (fun x hx => hk x (List.mem_cons_of_mem _ hx))
      fun x hx => h x (List.mem_cons_of_mem _ hx)
    refine ⟨(.text key, y) :: ys, ?_⟩
    simp only [portableEntries, hkey, hy, hys]
    rfl

theorem Writable.exists_portable (h : d.Writable) : ∃ y, d.portable = .ok y := by
  induction h with
  | null => exact ⟨_, rfl⟩
  | bool b => exact ⟨_, rfl⟩
  | int n => exact ⟨_, rfl⟩
  | float x => cases x <;> exact ⟨_, rfl⟩
  | text s => exact ⟨_, rfl⟩
  | @bytes bs s h => exact ⟨.text s, by rw [portable, portableBytes, h]; rfl⟩
  | list _ ih =>
    obtain ⟨ys, hys⟩ := exists_portableItems ih
    exact ⟨.list ys, by rw [portable, hys]; rfl⟩
  | map hk _ ih =>
    obtain ⟨ys, hys⟩ := exists_portableEntries hk ih
    exact ⟨.ofPairs ys, by rw [portable, hys]; rfl⟩

/-- Items are written one after the other, up to the first that is not. -/
theorem portableItems_append {pre post : List Data} (hpre : ∀ x ∈ pre, ∃ y, x.portable = .ok y)
    (h : portableItems post = .error e) : portableItems (pre ++ post) = .error e := by
  induction pre with
  | nil => exact h
  | cons x pre ih =>
    obtain ⟨y, hy⟩ := hpre x List.mem_cons_self
    rw [List.cons_append, portableItems, hy]
    dsimp only
    rw [ih fun x hx => hpre x (List.mem_cons_of_mem _ hx)]
    rfl

theorem portableEntries_append {pre post : List (Data × Data)}
    (hk : ∀ x ∈ pre, ∃ key, x.1.portableKey = .ok key)
    (hpre : ∀ x ∈ pre, ∃ y, x.2.portable = .ok y) (h : portableEntries post = .error e) :
    portableEntries (pre ++ post) = .error e := by
  induction pre with
  | nil => exact h
  | cons x pre ih =>
    obtain ⟨key, hkey⟩ := hk x List.mem_cons_self
    obtain ⟨y, hy⟩ := hpre x List.mem_cons_self
    have hrest := ih (fun x hx => hk x (List.mem_cons_of_mem _ hx))
      fun x hx => hpre x (List.mem_cons_of_mem _ hx)
    simp only [List.cons_append, portableEntries, hkey, hy, hrest]
    rfl

theorem Blocks.portable_eq (h : d.Blocks e) : d.portable = .error e := by
  induction h with
  | bytes h =>
    rw [portable, portableBytes, h]
    rfl
  | object kind => rfl
  | @item pre post d e hpre _ ih =>
    have hfirst : portableItems (d :: post) = .error e := by rw [portableItems, ih]
    rw [portable, portableItems_append (fun x hx => (hpre x hx).exists_portable) hfirst]
    rfl
  | @key pre post k v e hk hpre h =>
    have hfirst : portableEntries ((k, v) :: post) = .error e := by simp only [portableEntries, h]
    rw [portable, portableEntries_append hk (fun x hx => (hpre x hx).exists_portable) hfirst]
    rfl
  | @value pre post k v key e hk hpre hkey _ ih =>
    have hfirst : portableEntries ((k, v) :: post) = .error e := by
      simp only [portableEntries, hkey, ih]
    rw [portable, portableEntries_append hk (fun x hx => (hpre x hx).exists_portable) hfirst]
    rfl

end Run

section Cons

variable {k v : Data} {items : List Data} {entries : List (Data × Data)} {key : String}

theorem Blocks.head_list (hd : d.Blocks e) : (Data.list (d :: items)).Blocks e :=
  @Blocks.item [] items d e nofun hd

theorem Blocks.head_key (hk : k.portableKey = .error e) :
    (Data.map ((k, v) :: entries)).Blocks e :=
  @Blocks.key [] entries k v e nofun nofun hk

theorem Blocks.head_value (hk : k.portableKey = .ok key) (hv : v.Blocks e) :
    (Data.map ((k, v) :: entries)).Blocks e :=
  @Blocks.value [] entries k v key e nofun nofun hk hv

theorem Blocks.cons_list (hd : d.Writable) (h : (Data.list items).Blocks e) :
    (Data.list (d :: items)).Blocks e := by
  cases h with
  | @item pre post d' _ hpre h =>
    exact @Blocks.item (d :: pre) post d' e (List.forall_mem_cons.2 ⟨hd, hpre⟩) h

theorem Blocks.cons_map (hk : k.portableKey = .ok key) (hv : v.Writable)
    (h : (Data.map entries).Blocks e) : (Data.map ((k, v) :: entries)).Blocks e := by
  cases h with
  | @key pre post k' v' _ hks hpre h =>
    exact @Blocks.key ((k, v) :: pre) post k' v' e (List.forall_mem_cons.2 ⟨⟨key, hk⟩, hks⟩)
      (List.forall_mem_cons.2 ⟨hv, hpre⟩) h
  | @value pre post k' v' key' _ hks hpre hkey h =>
    exact @Blocks.value ((k, v) :: pre) post k' v' key' e
      (List.forall_mem_cons.2 ⟨⟨key, hk⟩, hks⟩) (List.forall_mem_cons.2 ⟨hv, hpre⟩) hkey h

theorem Writable.cons_list (hd : d.Writable) (h : (Data.list items).Writable) :
    (Data.list (d :: items)).Writable := by
  cases h with
  | list h => exact .list (List.forall_mem_cons.2 ⟨hd, h⟩)

theorem Writable.cons_map (hk : k.portableKey = .ok key) (hv : v.Writable)
    (h : (Data.map entries).Writable) : (Data.map ((k, v) :: entries)).Writable := by
  cases h with
  | map hks h =>
    exact .map (List.forall_mem_cons.2 ⟨⟨key, hk⟩, hks⟩) (List.forall_mem_cons.2 ⟨hv, h⟩)

end Cons

mutual

/-- Data has a portable form, or something in it stands in the way. -/
theorem writable_or_blocks : ∀ d : Data, d.Writable ∨ ∃ e, d.Blocks e
  | .null => .inl .null
  | .bool b => .inl (.bool b)
  | .int n => .inl (.int n)
  | .float x => .inl (.float x)
  | .text s => .inl (.text s)
  | .bytes bs => by
    cases hb : Utf8.decode bs with
    | ok s => exact .inl (.bytes hb)
    | error position => exact .inr ⟨_, .bytes hb⟩
  | .list items => list_writable_or_blocks items
  | .map entries => map_writable_or_blocks entries
  | .object kind => .inr ⟨_, .object kind⟩

theorem list_writable_or_blocks :
    ∀ items : List Data, (Data.list items).Writable ∨ ∃ e, (Data.list items).Blocks e
  | [] => .inl (.list nofun)
  | d :: items => by
    rcases writable_or_blocks d with hd | ⟨e, hd⟩
    · rcases list_writable_or_blocks items with h | ⟨e, h⟩
      · exact .inl (.cons_list hd h)
      · exact .inr ⟨e, .cons_list hd h⟩
    · exact .inr ⟨e, hd.head_list⟩

theorem map_writable_or_blocks :
    ∀ entries : List (Data × Data), (Data.map entries).Writable ∨ ∃ e, (Data.map entries).Blocks e
  | [] => .inl (.map nofun nofun)
  | (k, v) :: entries => by
    cases hk : k.portableKey with
    | error e => exact .inr ⟨e, .head_key hk⟩
    | ok key =>
      rcases writable_or_blocks v with hv | ⟨e, hv⟩
      · rcases map_writable_or_blocks entries with h | ⟨e, h⟩
        · exact .inl (.cons_map hk hv h)
        · exact .inr ⟨e, .cons_map hk hv h⟩
      · exact .inr ⟨e, hv.head_value hk⟩

end

theorem portable_eq_error_iff : d.portable = .error e ↔ d.Blocks e := by
  refine ⟨fun h => ?_, Blocks.portable_eq⟩
  rcases writable_or_blocks d with hd | ⟨e', hd⟩
  · obtain ⟨y, hy⟩ := hd.exists_portable
    rw [hy] at h
    cases h
  · rw [hd.portable_eq] at h
    exact Except.error.inj h ▸ hd

end Data

namespace Held

/-- The first thing in a value that has no portable form. What localized values are reported as
depends on whether their kind was to say how they are written. -/
inductive Blocks (unfit : String → PortableError) (keepNull : Bool) : Held → PortableError → Prop
  | data {d : Data} {e : PortableError} (h : d.Blocks e) : Blocks unfit keepNull (.data d) e
  | variants (l : Localized Data) : Blocks unfit keepNull (.variants l) (unfit localizedType)
  | record {r : Record} {e : PortableError}
      (h : (Data.map (textPairs (r.carried keepNull))).Blocks e) :
      Blocks unfit keepNull (.record r) e

variable {v : Held} {keepNull : Bool} {e : PortableError} {unfit : String → PortableError}

theorem blocks_data_iff {d : Data} : (data d).Blocks unfit keepNull e ↔ d.portable = .error e := by
  rw [Data.portable_eq_error_iff]
  refine ⟨fun h => ?_, .data⟩
  cases h with
  | data h => exact h

theorem blocks_record_iff {r : Record} :
    (record r).Blocks unfit keepNull e ↔ r.portable keepNull = .error e := by
  rw [Record.portable_eq_carried, ← Data.portable, Data.portable_eq_error_iff]
  refine ⟨fun h => ?_, .record⟩
  cases h with
  | record h => exact h

theorem blocks_variants_iff {l : Localized Data} :
    (variants l).Blocks unfit keepNull e ↔ unfit localizedType = e := by
  constructor
  · intro h
    cases h with
    | variants => rfl
  · rintro rfl
    exact .variants l

theorem portable_eq_error_iff :
    v.portable keepNull = .error e ↔ v.Blocks .noSchema keepNull e := by
  cases v with
  | data d =>
    rw [blocks_data_iff]
    cases d with
    | float x => cases x <;> exact ⟨nofun, nofun⟩
    | _ => rfl
  | variants l => rw [blocks_variants_iff, portable, Except.error.injEq]
  | wrapped type text => exact ⟨nofun, nofun⟩
  | chosen type option => exact ⟨nofun, nofun⟩
  | record r => rw [blocks_record_iff, portable]

theorem inferred_eq_error_iff : v.inferred = .error e ↔ v.Blocks .unknownKind false e := by
  cases v with
  | data d => rw [blocks_data_iff, inferred]
  | variants l => rw [blocks_variants_iff, inferred, Except.error.injEq]
  | wrapped type text => exact ⟨nofun, nofun⟩
  | chosen type option => exact ⟨nofun, nofun⟩
  | record r => rw [blocks_record_iff]; rfl

end Held

namespace PlainClaim

def unfit (c : PlainClaim) : String → PortableError :=
  if c.isPluggable then .noSchema else .unknownKind

theorem write_eq_error_iff {c : PlainClaim} {v : Held} {e : PortableError} :
    c.write v = .error e ↔ v.Blocks c.unfit false e := by
  rw [write, unfit]
  split
  · exact Held.portable_eq_error_iff
  · exact Held.inferred_eq_error_iff

end PlainClaim

end IdentityClaims
