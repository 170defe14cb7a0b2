import IdentityClaims.ClaimSet.Basic

/-!
# Building and revising claim sets

A claim set is built from supplied values by the names of what it holds, and revised by supplying
some of them anew. A localized claim may be supplied as a text, which becomes its value without
tag, or as a map from tags to values. Null takes a claim away, and so does a localized claim
without variants. A point of time may be supplied at any offset and is kept in universal time.
-/

namespace IdentityClaims

inductive Supplied
  | held (h : Held)
  | moment (m : Moment)
  | clock (c : ClockTime) (offset : Option Offset)

namespace Supplied

def kind : Supplied → String
  | .held h => h.kind
  | .moment _ => "datetime"
  | .clock _ _ => "time"

end Supplied

/-- Why supplied values do not make a claim set. -/
inductive SupplyError
  | unknownName (name : String)
  | receiver (operation : String)
  | missing (c : PlainClaim)
  | notLocalized (c : LocalizedClaim) (kind : String)
  | notMoment (kind : String)
  | momentOutOfRange
  | zonedClock
  deriving DecidableEq, Repr

def SupplyError.message : SupplyError → String
  | .unknownName name =>
    "StandardClaims.__init__() got an unexpected keyword argument " ++ "'" ++ name ++ "'"
  | .receiver operation => "StandardClaims." ++ operation ++ "() got multiple values for argument 'self'"
  | .missing c => "StandardClaims.__init__() missing 1 required positional argument: '" ++ c.key ++ "'"
  | .notLocalized c kind => c.key ++ " must be a LocalizedClaim, str or mapping, got " ++ kind
  | .notMoment kind => "'" ++ kind ++ "' object has no attribute 'tzinfo'"
  | .momentOutOfRange => "date value out of range"
  | .zonedClock => "'datetime.time' object has no attribute 'astimezone'"

def Localized.ofEntries (entries : List (Data × Data)) : Localized Data :=
  entries.foldl (fun l e => ((l.insert (.ofKey e.1) e.2).toOption).getD l) .empty

/-- What is held for the time of the last update. A time of day is one in universal time. -/
inductive UpdateTime
  | unset
  | instant (t : Instant)
  | clock (c : ClockTime)
  deriving DecidableEq

namespace UpdateTime

def ofInstant? : Option Instant → UpdateTime
  | none => unset
  | some t => instant t

def instant? : UpdateTime → Option Instant
  | instant t => some t
  | unset | clock _ => none

/-- What is supplied when the time is not supplied anew. -/
def resupplied : UpdateTime → Supplied
  | unset => .held (.data .null)
  | instant t => .moment t.toMoment
  | clock c => .clock c (some 0)

end UpdateTime

namespace ClaimSet

def suppliedVariants (c : LocalizedClaim) : Supplied → Except SupplyError (Localized Data)
  | .held (.variants l) => .ok l
  | .held (.data .null) => .ok .empty
  | .held (.data (.text s)) => .ok (.ofDefault (.text s))
  | .held (.data (.map entries)) => .ok (.ofEntries entries)
  | .held (.chosen _ s) => .ok (.ofDefault (.text s))
  | s => .error (.notLocalized c s.kind)

def suppliedTime : Supplied → Except SupplyError UpdateTime
  | .held (.data .null) => .ok .unset
  | .moment m =>
    match m.toInstant? with
    | some t => .ok (.instant t)
    | none => .error .momentOutOfRange
  | .clock c none => .ok (.clock c)
  | .clock _ (some _) => .error .zonedClock
  | s => .error (.notMoment s.kind)

def suppliedHeld : Supplied → Held
  | .held h => h
  | s => .data (.object s.kind)

end ClaimSet

/-- A claim set as a program holds it, with what is held for the time of the last update. Only a
point of time is claimed. -/
structure Entity where
  claims : ClaimSet
  time : UpdateTime
  claimed : claims.updatedAt = time.instant?

namespace Entity

def ofClaims (s : ClaimSet) : Entity where
  claims := s
  time := .ofInstant? s.updatedAt
  claimed := by cases s.updatedAt <;> rfl

def revisedVariants (e : Entity) (changes : Entries String Supplied) (c : LocalizedClaim) :
    Except SupplyError (Localized Data) :=
  match Entries.get? changes c.key with
  | some v => ClaimSet.suppliedVariants c v
  | none => .ok (e.claims.localized c)

def revisedTime (e : Entity) (changes : Entries String Supplied) :
    Except SupplyError UpdateTime :=
  ClaimSet.suppliedTime ((Entries.get? changes Claim.updatedAt.key).getD e.time.resupplied)

def errorOf? {ε α : Type} : Except ε α → Option ε
  | .error e => some e
  | .ok _ => none

/-- The name that stands for the claim set itself, under which no value can be supplied. -/
def receiverName : String := "self"

def isUnknown (name : String) : Bool := !Claim.attributeNames.contains name

/-- The first reason why changes cannot be made: the name of the claim set itself, an unknown name,
then localized claims in their order, then the time. -/
def revisionError? (e : Entity) (changes : Entries String Supplied) : Option SupplyError :=
  (if Entries.has changes receiverName then some (.receiver "replace") else none)
    |>.or ((changes.find? fun c => isUnknown c.1).map fun c => .unknownName c.1)
    |>.or (LocalizedClaim.all.findSome? fun c => errorOf? (e.revisedVariants changes c))
    |>.or (errorOf? (e.revisedTime changes))

def revise (e : Entity) (changes : Entries String Supplied) : Except SupplyError Entity :=
  match e.revisionError? changes with
  | some err => .error err
  | none =>
    let time := ((e.revisedTime changes).toOption).getD .unset
    .ok
      { claims :=
          { plain := fun c =>
              match Entries.get? changes c.key with
              | some v => ClaimSet.settled (ClaimSet.suppliedHeld v)
              | none => e.claims.plain c
            localized := fun c =>
              ((e.revisedVariants changes c).toOption).getD (e.claims.localized c)
            updatedAt := time.instant?
            additional :=
              match Entries.get? changes additionalName with
              | some v => ClaimSet.suppliedHeld v
              | none => e.claims.additional }
        time
        claimed := rfl }

def build (supplied : Entries String Supplied) : Except SupplyError Entity :=
  match supplied.find? fun c => isUnknown c.1 with
  | some c =>
    .error (if c.1 = receiverName then .receiver "__init__" else .unknownName c.1)
  | none =>
    match PlainClaim.all.find? fun c => c.isRequired && !Entries.has supplied c.key with
    | some c => .error (.missing c)
    | none => (ofClaims .empty).revise supplied

end Entity

end IdentityClaims
