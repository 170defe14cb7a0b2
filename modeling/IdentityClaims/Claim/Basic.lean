import IdentityClaims.LanguageTag
import IdentityClaims.Schema.Catalogue

/-!
# Standard claims

The claims about a user that OpenID Connect defines. A plain claim has one value, a localized claim
has a value per language tag, and the time of the last update is a point of time. `Claim.all` lists
them in the order in which they travel. Main statement: a claim is found by its key and by no other
key.
-/

namespace IdentityClaims

inductive LocalizedClaim
  | name
  | givenName
  | familyName
  | middleName
  | nickname
  | profile
  | picture
  | website
  deriving DecidableEq, Repr

namespace LocalizedClaim

def all : List LocalizedClaim :=
  [name, givenName, familyName, middleName, nickname, profile, picture, website]

/-- The key of a localized claim without language tag. -/
def key : LocalizedClaim → String
  | name => "name"
  | givenName => "given_name"
  | familyName => "family_name"
  | middleName => "middle_name"
  | nickname => "nickname"
  | profile => "profile"
  | picture => "picture"
  | website => "website"

theorem mem_all (c : LocalizedClaim) : c ∈ all := by cases c <;> decide

end LocalizedClaim

inductive PlainClaim
  | sub
  | preferredUsername
  | email
  | emailVerified
  | gender
  | birthday
  | zoneinfo
  | locale
  | phoneNumber
  | phoneNumberVerified
  | address
  deriving DecidableEq, Repr

namespace PlainClaim

def all : List PlainClaim :=
  [sub, preferredUsername, email, emailVerified, gender, birthday, zoneinfo, locale, phoneNumber,
    phoneNumberVerified, address]

def key : PlainClaim → String
  | sub => "sub"
  | preferredUsername => "preferred_username"
  | email => "email"
  | emailVerified => "email_verified"
  | gender => "gender"
  | birthday => "birthday"
  | zoneinfo => "zoneinfo"
  | locale => "locale"
  | phoneNumber => "phone_number"
  | phoneNumberVerified => "phone_number_verified"
  | address => "address"

def schema (genderType : Schema) : PlainClaim → Schema
  | emailVerified => .shape .truth
  | phoneNumberVerified => .shape .truth
  | gender => genderType
  | address => .record addressType
  | _ => .shape .text

def isRequired (c : PlainClaim) : Bool := c = sub

/-- Whether the claim is checked as closely as the caller wants; the others are always checked
leniently. -/
def heedsStrictness (c : PlainClaim) : Bool := c ≠ gender ∧ c ≠ address

def isPluggable (c : PlainClaim) : Bool := c = gender

theorem mem_all (c : PlainClaim) : c ∈ all := by cases c <;> decide

end PlainClaim

def additionalName : String := "additional_claims"

inductive Claim
  | plain (c : PlainClaim)
  | localized (c : LocalizedClaim)
  | updatedAt
  deriving DecidableEq, Repr

/-- How a claim is laid out in a flat map: under one key, under one key for each language tag, or
as a map of its own under one key. -/
inductive ClaimLayout
  | plain
  | localized
  | nested
  deriving DecidableEq, Repr

namespace ClaimLayout

def name : ClaimLayout → String
  | plain => "plain"
  | localized => "localized"
  | nested => "nested"

end ClaimLayout

namespace Claim

def all : List Claim :=
  [.plain .sub, .localized .name, .localized .givenName, .localized .familyName,
    .localized .middleName, .localized .nickname, .plain .preferredUsername, .localized .profile,
    .localized .picture, .localized .website, .plain .email, .plain .emailVerified, .plain .gender,
    .plain .birthday, .plain .zoneinfo, .plain .locale, .plain .phoneNumber,
    .plain .phoneNumberVerified, .plain .address, .updatedAt]

/-- The key of a claim without language tag. -/
def key : Claim → String
  | plain c => c.key
  | localized c => c.key
  | updatedAt => "updated_at"

def ofKey? (key : String) : Option Claim := all.find? fun c => c.key = key

def layout : Claim → ClaimLayout
  | localized _ => .localized
  | plain .address => .nested
  | _ => .plain

def isRequired : Claim → Bool
  | plain c => c.isRequired
  | _ => false

/-- Whether the claim is checked as closely as the caller wants. -/
def heedsStrictness : Claim → Bool
  | plain c => c.heedsStrictness
  | _ => true

def isPluggable : Claim → Bool
  | plain c => c.isPluggable
  | _ => false

theorem mem_all (c : Claim) : c ∈ all := by
  rcases c with c | c | _
  · cases c <;> decide
  · cases c <;> decide
  · decide

theorem nodup_all : all.Nodup := by decide

@[simp] theorem key_plain (c : PlainClaim) : (plain c).key = c.key := rfl

@[simp] theorem key_localized (c : LocalizedClaim) : (localized c).key = c.key := rfl

theorem key_injective {a b : Claim} (h : a.key = b.key) : a = b := by
  have hall : ∀ x ∈ all, ∀ y ∈ all, x.key = y.key → x = y := by decide
  exact hall a (mem_all a) b (mem_all b) h

/-- A claim is found by its key and by no other key. -/
theorem ofKey?_eq_some_iff {s : String} {c : Claim} : ofKey? s = some c ↔ c.key = s := by
  constructor
  · intro h
    simpa using List.find?_some h
  · intro h
    cases hf : ofKey? s with
    | none =>
      have := List.find?_eq_none.1 hf c (mem_all c)
      simp [h] at this
    | some d =>
      have hd : d.key = s := by simpa using List.find?_some hf
      rw [key_injective (h.trans hd.symm)]

/-- No key of a claim has a delimiter in it. -/
theorem delimiter_not_mem_key (c : Claim) : FlatKey.delimiter ∉ c.key.toList := by
  have hall : ∀ x ∈ all, FlatKey.delimiter ∉ x.key.toList := by decide
  exact hall c (mem_all c)

/-- The standard claim that a key belongs to, whatever its tag is. -/
def owner? (key : String) : Option Claim := ofKey? (FlatKey.base key)

theorem split_key (c : Claim) : FlatKey.split c.key = (c.key, none) :=
  FlatKey.split_join (delimiter_not_mem_key c) none

theorem split_join_key (c : Claim) (tag : Tag) :
    FlatKey.split (FlatKey.join c.key tag) = (c.key, tag) :=
  FlatKey.split_join (delimiter_not_mem_key c) tag

theorem owner?_join (c : Claim) (tag : Tag) : owner? (FlatKey.join c.key tag) = some c := by
  rw [owner?, FlatKey.base, split_join_key]
  exact ofKey?_eq_some_iff.2 rfl

theorem owner?_key (c : Claim) : owner? c.key = some c := owner?_join c none

theorem join_of_owner? {key : String} {c : Claim} (h : owner? key = some c) :
    FlatKey.join c.key (FlatKey.split key).2 = key := by
  rw [ofKey?_eq_some_iff.1 h]
  exact FlatKey.join_split key

theorem key_of_owner? {key : String} {c : Claim} (h : owner? key = some c)
    (ht : (FlatKey.split key).2 = none) : c.key = key := by
  simpa [ht] using join_of_owner? h

/-- Under one claim, keys differ as their tags do. -/
theorem join_key_inj {c : Claim} {t u : Tag} :
    FlatKey.join c.key t = FlatKey.join c.key u ↔ t = u := by
  constructor
  · intro h
    simpa [split_join_key] using congrArg (fun key => (FlatKey.split key).2) h
  · rintro rfl
    rfl

def attributeNames : List String := all.map key ++ [additionalName]

end Claim

end IdentityClaims
