import PasswordGrant.Json.Record

/-!
# What a realm says about itself

The discovery document of a realm: its endpoints and what it supports. All fields may be missing.

* `Discovery.parse` : reads a document;
* `Discovery.toJson` : the document with all its fields;
* `Discovery.supportsPasswordGrant` : whether the realm lets users sign in with a password.
-/

namespace PasswordGrant

/-- A discovery document. -/
structure Discovery where
  issuer : String
  authorizationEndpoint : String
  tokenEndpoint : String
  introspectionEndpoint : String
  userinfoEndpoint : String
  endSessionEndpoint : String
  grantTypesSupported : List String
  responseTypesSupported : List String
  responseModesSupported : List String
  claimsSupported : List String
  claimTypesSupported : List String
  codeChallengeMethodsSupported : List String
  deriving DecidableEq, Repr

namespace Discovery

/-- The names of the fields that hold one text. -/
def textFields : List String :=
  ["issuer", "authorization_endpoint", "token_endpoint", "introspection_endpoint",
   "userinfo_endpoint", "end_session_endpoint"]

/-- The names of the fields that hold a list. -/
def listFields : List String :=
  ["grant_types_supported", "response_types_supported", "response_modes_supported",
   "claims_supported", "claim_types_supported", "code_challenge_methods_supported"]

/-- The fields of a document, in the order of the array form. -/
def schema : Json.Schema where
  name := "OpenIdConfiguration"
  fields := textFields.map (Json.Field.plain · .text) ++ listFields.map (Json.Field.plain · .texts)

/-- The document whose fields were read. -/
def ofSlots (slots : Json.Slots) : Discovery where
  issuer := (slots.text? "issuer").getD ""
  authorizationEndpoint := (slots.text? "authorization_endpoint").getD ""
  tokenEndpoint := (slots.text? "token_endpoint").getD ""
  introspectionEndpoint := (slots.text? "introspection_endpoint").getD ""
  userinfoEndpoint := (slots.text? "userinfo_endpoint").getD ""
  endSessionEndpoint := (slots.text? "end_session_endpoint").getD ""
  grantTypesSupported := slots.texts "grant_types_supported"
  responseTypesSupported := slots.texts "response_types_supported"
  responseModesSupported := slots.texts "response_modes_supported"
  claimsSupported := slots.texts "claims_supported"
  claimTypesSupported := slots.texts "claim_types_supported"
  codeChallengeMethodsSupported := slots.texts "code_challenge_methods_supported"

/-- Reads a document. -/
def parse (body : String) : Except Json.Fault Discovery := (schema.parse body).map ofSlots

def textsJson (l : List String) : Json := .array (l.map .text)

/-- The document with all its fields. -/
def toJson (d : Discovery) : Json :=
  .object
    [("issuer", .text d.issuer),
     ("authorization_endpoint", .text d.authorizationEndpoint),
     ("token_endpoint", .text d.tokenEndpoint),
     ("introspection_endpoint", .text d.introspectionEndpoint),
     ("userinfo_endpoint", .text d.userinfoEndpoint),
     ("end_session_endpoint", .text d.endSessionEndpoint),
     ("grant_types_supported", textsJson d.grantTypesSupported),
     ("response_types_supported", textsJson d.responseTypesSupported),
     ("response_modes_supported", textsJson d.responseModesSupported),
     ("claims_supported", textsJson d.claimsSupported),
     ("claim_types_supported", textsJson d.claimTypesSupported),
     ("code_challenge_methods_supported", textsJson d.codeChallengeMethodsSupported)]

/-- Whether the realm lets users sign in with a password. One that lists nothing may. -/
def supportsPasswordGrant (d : Discovery) : Bool :=
  d.grantTypesSupported.isEmpty || d.grantTypesSupported.contains "password"

end Discovery

end PasswordGrant
