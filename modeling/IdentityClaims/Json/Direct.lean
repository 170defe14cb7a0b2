import IdentityClaims.Json.Reader

/-!
# Reading JSON straight into data

A reader that keeps no tree. Each member of an object is put into a map as soon as it is read, so a
name that occurs twice is settled on the spot and cannot be seen afterwards. It takes the same texts
as `Json.read` and stops at the same faults.
-/

namespace IdentityClaims

namespace Json

mutual

/-- A value as data. The fuel bounds the nesting of the calls. -/
def readDatum [LoneUnits] : Nat → List Char → Except JsonError (Data × List Char)
  | 0, cs => .error (.fault .expectedValue cs.length)
  | fuel + 1, cs =>
    match cs with
    | [] => .error (.fault .expectedValue 0)
    | '"' :: rest => (readQuoted rest).map fun r => (.text r.1, r.2)
    | '\x7b' :: rest =>
      match skipSpace rest with
      | '\x7d' :: rest => .ok (.map [], rest)
      | rest => (putMembers fuel [] rest).map fun r => (.map r.1, r.2)
    | '[' :: rest =>
      match skipSpace rest with
      | ']' :: rest => .ok (.list [], rest)
      | rest => (readData fuel rest).map fun r => (.list r.1, r.2)
    | cs =>
      match readNamed? cs with
      | some r => .ok (r.1.toData, r.2)
      | none => (readNumber cs).map fun r => (r.1.toData, r.2)

def readData [LoneUnits] : Nat → List Char → Except JsonError (List Data × List Char)
  | 0, cs => .error (.fault .expectedValue cs.length)
  | fuel + 1, cs =>
    match readDatum fuel cs with
    | .error e => .error e
    | .ok (value, rest) =>
      match skipSpace rest with
      | ']' :: rest => .ok ([value], rest)
      | ',' :: rest => (readData fuel (skipSpace rest)).map fun r => (value :: r.1, r.2)
      | rest => .error (.fault .expectedComma rest.length)

def putMembers [LoneUnits] : Nat → List (Data × Data) → List Char →
    Except JsonError (List (Data × Data) × List Char)
  | 0, _, cs => .error (.fault .expectedName cs.length)
  | fuel + 1, entries, cs =>
    match cs with
    | '"' :: rest =>
      match readQuoted rest with
      | .error e => .error e
      | .ok (name, rest) =>
        match skipSpace rest with
        | ':' :: rest =>
          match readDatum fuel (skipSpace rest) with
          | .error e => .error e
          | .ok (value, rest) =>
            match skipSpace rest with
            | '\x7d' :: rest => .ok (Data.putEntry entries (.text name) value, rest)
            | ',' :: rest =>
              putMembers fuel (Data.putEntry entries (.text name) value) (skipSpace rest)
            | rest => .error (.fault .expectedComma rest.length)
        | rest => .error (.fault .expectedColon rest.length)
    | cs => .error (.fault .expectedName cs.length)

end

def readWhole [LoneUnits] (text : String) : Except JsonError Data :=
  let cs := text.toList
  if cs.head? == some (Char.ofNat 0xFEFF) then .error (.fault .byteOrderMark cs.length)
  else
    match readDatum (2 * cs.length + 2) (skipSpace cs) with
    | .error e => .error e
    | .ok (value, rest) =>
      let rest := skipSpace rest
      if rest.isEmpty then .ok value else .error (.fault .extraText rest.length)

end Json

end IdentityClaims
