/-
# The rules of filters

What the filters of this library do to a document, each a function of its own: a window of
validity for the root, signatures, the form of entities, and lists of roles and IDs that are
kept; and two that only add, algorithms and formats of name identifiers.
-/

import Federation.Filter.Basic
import Federation.Metadata.Canonical
import Federation.Trust

namespace Federation.Filter

open Federation.Metadata Federation.Time

/-- The root must state until when it is valid: later than now and, if a longest validity is
given, no further ahead than that. -/
def requireValidUntil (name : String) (longest : Option Span) (context : Context)
    (document : Document) : Except Failure (Option Document) :=
  match document.validUntil with
  | none => .error (.filterFailed name "metadata root has no validUntil")
  | some until_ =>
    if until_ ≤ context.now then
      .error (.filterFailed name ("metadata expired at " ++ until_.textWithOffset))
    else
      match longest with
      | none => .ok (some document)
      | some longest =>
        if longest < until_.span context.now then
          .error (.filterFailed name ("validUntil " ++ until_.textWithOffset ++ " is more than "
            ++ toString longest.seconds ++ "s in the future"))
        else .ok (some document)

/-- Keeps an entity unless its signature is wrong. -/
def keepUnlessWronglySigned (engine : TrustEngine) : EntityMap := fun e =>
  match e.signature with
  | none => .ok (some e)
  | some signature =>
    if engine.accepts e.signingInput signature then .ok (some e) else .ok none

/-- The signature of the root must be right, and there if it is required. In a group every
entity with a wrong signature is dropped. -/
def checkSignatures (name : String) (engine : TrustEngine) (rootRequired : Bool)
    (document : Document) : Except Failure (Option Document) :=
  let checked : Except Failure (Option Document) :=
    match document with
    -- The only entity is the root, which is seen to below.
    | .entity e => .ok (some (.entity e))
    | .group g => mapDocument (keepUnlessWronglySigned engine) (.group g)
  match document.signature with
  | some signature =>
    if engine.accepts document.signingInput signature then checked
    else .error (.filterFailed name
      ("root signature by key '" ++ signature.keyName ++ "' did not verify"))
  | none =>
    if rootRequired then .error (.filterFailed name "metadata root is not signed") else checked

/-- A scheme and a colon with something behind it. -/
def isAbsoluteUri (s : String) : Bool :=
  match Text.cutFirst? (· == ':') s.toList with
  | none => false
  | some (scheme, rest) =>
    !rest.isEmpty &&
      match scheme with
      | [] => false
      | c :: cs =>
        c.isAlpha && cs.all fun c => c.isAlphanum || c == '+' || c == '-' || c == '.'

/-- The longest ID of an entity, in bytes. -/
def longestEntityId : Nat := 1024

/-- Is an endpoint without a binding or with a location that is not absolute? -/
def endpointFails (e : Endpoint) : Bool :=
  e.binding.isEmpty || !isAbsoluteUri e.location

/-- What is wrong with a role of an entity, if anything. -/
def roleFault (entityId : String) (role : RoleDescriptor) : Option String :=
  if role.protocols.isEmpty then
    some (role.role.text ++ " role of " ++ entityId ++ " has no protocolSupportEnumeration")
  else
    (role.endpoints.find? endpointFails).map fun endpoint =>
      endpoint.kind ++ " endpoint of " ++ entityId ++ " needs a binding and an absolute location"

/-- What is wrong with an entity, if anything. -/
def entityFault (e : Entity) : Option String :=
  if e.entityId.isEmpty then some "entityID is empty"
  else if longestEntityId < e.entityId.utf8ByteSize then
    some ("entityID longer than " ++ toString longestEntityId ++ " characters")
  else if !isAbsoluteUri e.entityId then
    some ("entityID '" ++ e.entityId ++ "' is not an absolute URI")
  else e.roles.findSome? (roleFault e.entityId)

/-- Every entity must have the right form. -/
def checkForm (name : String) (document : Document) : Except Failure (Option Document) :=
  mapDocument
    (fun e =>
      match entityFault e with
      | some reason => .error (.filterFailed name reason)
      | none => .ok (some e))
    document

/-- Keeps the roles of a list, and an entity that has one of them or may be without. -/
def keepRoles (roles : List Role) (keepRoleless : Bool) (document : Document) :
    Except Failure (Option Document) :=
  mapDocument
    (fun e =>
      let kept := e.roles.filter fun r => roles.contains r.role
      if kept.isEmpty && !keepRoleless then .ok none else .ok (some { e with roles := kept }))
    document

/-- Whether the entities of a list are those that stay or those that go. -/
inductive ListMode where
  | including
  | excluding
deriving DecidableEq, Repr

/-- Keeps the entities that a list of IDs is for. -/
def keepListed (mode : ListMode) (ids : List String) (document : Document) :
    Except Failure (Option Document) :=
  mapDocument
    (fun e =>
      let listed := ids.contains e.entityId
      let kept := match mode with
        | .including => listed
        | .excluding => !listed
      .ok (if kept then some e else none))
    document

/-- Adds those of some values that a list does not have. -/
def addMissing (target : List String) : (values : List String) → List String
  | [] => target
  | v :: rest => addMissing (if target.contains v then target else target ++ [v]) rest

/-- Algorithms that certain entities are known to support. -/
structure AlgorithmRule where
  target : Target
  digestMethods : List String
  signingMethods : List String
deriving Repr

/-- An entity with the algorithms of a rule that is about it. -/
def AlgorithmRule.annotate (e : Entity) (rule : AlgorithmRule) : Entity :=
  if rule.target.includes e then
    { e with
      extensions :=
        ⟨addMissing e.extensions.digestMethods rule.digestMethods,
          addMissing e.extensions.signingMethods rule.signingMethods⟩ }
  else e

/-- Adds algorithms by rules. -/
def addAlgorithms (rules : List AlgorithmRule) (document : Document) :
    Except Failure (Option Document) :=
  mapDocument (fun e => .ok (some (rules.foldl AlgorithmRule.annotate e))) document

/-- Formats of name identifiers that certain entities are known to support. -/
structure NameIdRule where
  target : Target
  formats : List String
deriving Repr

/-- Is a role one in which users sign on? -/
def isSignOn (role : Role) : Bool :=
  role == .identityProvider || role == .serviceProvider

/-- An entity with the formats of a rule that is about it, in the roles in which users sign
on. -/
def NameIdRule.annotate (e : Entity) (rule : NameIdRule) : Entity :=
  if rule.target.includes e then
    { e with
      roles := e.roles.map fun r =>
        if isSignOn r.role then { r with nameIdFormats := addMissing r.nameIdFormats rule.formats }
        else r }
  else e

/-- Adds formats of name identifiers by rules. -/
def addNameIdFormats (rules : List NameIdRule) (document : Document) :
    Except Failure (Option Document) :=
  mapDocument (fun e => .ok (some (rules.foldl NameIdRule.annotate e))) document

end Federation.Filter
