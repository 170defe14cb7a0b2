import IdentityClaims.Schema.Basic

/-!
# A catalogue of types

The types of the address, of gender values and of additional claims that come with the library.
-/

namespace IdentityClaims

def addressType : RecordType where
  name := "AddressClaim"
  members := ["formatted", "street_address", "locality", "region", "postal_code", "country"].map
    fun name => .nullable name name .text
  extras := .dropped
  byName := false

namespace GenderType

/-- Gender as OpenID Connect Core defines it: `female`, `male`, or any other text. -/
def core : Schema := .wrapped "CoreGenderClaim"

def plainText : Schema := .shape .text

def letter : Schema := .shape (.literal ["f", "m"])

def word : Schema := .choice "Gender" ["female", "male", "non-binary"]

def codedType : RecordType where
  name := "GenderInfo"
  members := [
    { name := "code", key := "genderCode", shape := .text, default? := none },
    .nullable "note" "note" .text]
  extras := .dropped
  byName := false

def coded : Schema := .record codedType

def all : List Schema := [core, plainText, letter, word, coded]

end GenderType

namespace AdditionalType

def claims (name : String) (extras : ExtraKeys) (members : List Member) : RecordType :=
  { name, members, extras, byName := true }

/-- No additional claims; unrecognized keys are dropped. -/
def emptyType : RecordType := claims "EmptyAdditionalClaims" .dropped []

/-- No additional claims; unrecognized keys are dropped. -/
def empty : Schema := .record emptyType

def strict : Schema := .record (claims "StrictAdditionalClaims" .refused [])

def passthroughType : RecordType := claims "PassthroughAdditionalClaims" .kept []

def passthrough : Schema := .record passthroughType

def tenant : Schema := .record (claims "TenantClaims" .refused
  [.nullable "tenant" "tenant" .text,
    { name := "roles", key := "roles", shape := .listOf .text, default? := some (.list []) }])

def audited : Schema := .record (claims "AuditedClaims" .kept [.nullable "acr" "acr" .text])

/-- Members that travel under keys other than their names. -/
def aliasedType : RecordType := claims "AliasedClaims" .refused
  [{ name := "org_id", key := "org-id", shape := .integer, default? := none },
    .nullable "motto_fr" "motto#fr" .text]

/-- Members that travel under keys other than their names. -/
def aliased : Schema := .record aliasedType

def colliding : Schema := .record (claims "CollidingClaims" .dropped
  [.nullable "mail" "email" .text, .plain "level" .integer (some (.int 1))])

def anyMap : Schema := .shape (.mapOf .any)

def integerMap : Schema := .shape (.mapOf .integer)

/-- A list of texts, which no claim set can be encoded with. -/
def textList : Schema := .shape (.listOf .text)

def all : List Schema :=
  [empty, strict, passthrough, tenant, audited, aliased, colliding, anyMap, integerMap, textList]

end AdditionalType

end IdentityClaims
