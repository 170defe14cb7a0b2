import IdentityClaims.Data.Basic

/-!
# Merging maps

Merging lays one value over another. Where both are maps the entries are merged key by key, and
anything else that is laid over a value takes its place.
-/

namespace IdentityClaims.Data

def lookup : List (Data × Data) → Data → Option Data
  | [], _ => none
  | e :: es, k => if e.1.same k then some e.2 else lookup es k

mutual

def merge (base : Data) : Data → Data
  | .map es =>
    match base with
    | .map bs => .map (mergeEntries bs es)
    | _ => .map es
  | d => d

/-- Lays entries over entries, one after the other. -/
def mergeEntries (base : List (Data × Data)) : List (Data × Data) → List (Data × Data)
  | [] => base
  | (k, v) :: es =>
    let value :=
      match lookup base k with
      | some b => merge b v
      | none => v
    mergeEntries (putEntry base k value) es

end

end IdentityClaims.Data
