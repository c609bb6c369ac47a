/-
# Roles

An entity takes part in a federation in one or more roles. A role has one written form in
documents; queries and settings may also use the name of its element.
-/

import Federation.Text.Blank

namespace Federation.Metadata

/-- What an entity does for others. -/
inductive Role where
  | identityProvider
  | serviceProvider
  | attributeAuthority
  | authenticationAuthority
  | policyDecisionPoint
deriving DecidableEq, Repr, Inhabited

namespace Role

/-- All roles, in the order of their declaration. -/
def all : List Role :=
  [.identityProvider, .serviceProvider, .attributeAuthority, .authenticationAuthority,
    .policyDecisionPoint]

/-- The written form. -/
def text : Role → String
  | identityProvider => "idpSso"
  | serviceProvider => "spSso"
  | attributeAuthority => "attributeAuthority"
  | authenticationAuthority => "authnAuthority"
  | policyDecisionPoint => "pdp"

/-- The name of the element. -/
def elementName : Role → String
  | identityProvider => "IDPSSODescriptor"
  | serviceProvider => "SPSSODescriptor"
  | attributeAuthority => "AttributeAuthorityDescriptor"
  | authenticationAuthority => "AuthnAuthorityDescriptor"
  | policyDecisionPoint => "PDPDescriptor"

/-- The role with a written form. -/
def ofText? (s : String) : Option Role :=
  all.find? (·.text == s)

/-- The role a query or setting names, padded with white space or not; otherwise what is
wrong with the name. -/
def ofName (s : String) : Except String Role :=
  let name := Text.trim s
  match all.find? fun role => role.text == name || role.elementName == name with
  | some role => .ok role
  | none => .error ("Unknown role type: " ++ name)

/-- Written forms tell roles apart. -/
theorem ofText?_text (role : Role) : ofText? role.text = some role := by
  cases role <;> decide

end Role

end Federation.Metadata
