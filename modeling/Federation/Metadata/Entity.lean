/-
# Entities

A descriptor says who an entity is, in which roles it takes part and how long the
description may be used. What is needed to identify, index and check an entity has a place
of its own here.
-/

import Federation.Metadata.Role
import Federation.Metadata.Attributes
import Federation.Time.Instant

namespace Federation.Metadata

open Federation.Time

/-- Where a role can be reached. -/
structure Endpoint where
  kind : String
  binding : String
  location : String
  /-- At most 65535. -/
  index : Option Nat
deriving DecidableEq, Repr

/-- One role of an entity. -/
structure RoleDescriptor where
  role : Role
  protocols : List String
  nameIdFormats : List String
  endpoints : List Endpoint
  /-- Hexadecimal source of artifacts, where it is not derived from the entity ID. -/
  sourceId : Option String
deriving DecidableEq, Repr

/-- A role that speaks one protocol. -/
def RoleDescriptor.speaking (role : Role) (protocol : String) : RoleDescriptor :=
  ⟨role, [protocol], [], [], none⟩

/-- A signature over the canonical text of what it is attached to. -/
structure Signature where
  keyName : String
  algorithm : String
  /-- The signature bytes in hexadecimal. -/
  value : String
deriving DecidableEq, Repr

/-- Algorithms that an entity is known to support. -/
structure Extensions where
  digestMethods : List String
  signingMethods : List String
deriving DecidableEq, Repr

/-- Nothing known. -/
def Extensions.empty : Extensions := ⟨[], []⟩

/-- Is nothing known? -/
def Extensions.isEmpty (x : Extensions) : Bool :=
  x.digestMethods.isEmpty && x.signingMethods.isEmpty

/-- The description of one entity. -/
structure Entity where
  entityId : String
  roles : List RoleDescriptor
  validUntil : Option Instant
  /-- How long the description may be cached, in seconds of 64 bits. -/
  cacheSeconds : Option Nat
  registrar : Option String
  attributes : Attributes
  extensions : Extensions
  signature : Option Signature
  /-- The text the description was read from, until it is cached. -/
  wireForm : Option String
deriving DecidableEq, Repr

namespace Entity

/-- An entity of which only the ID is known. -/
def ofId (entityId : String) : Entity :=
  ⟨entityId, [], none, none, none, .empty, .empty, none, none⟩

/-- The description with one more role. -/
def withRole (e : Entity) (role : RoleDescriptor) : Entity := { e with roles := e.roles ++ [role] }

/-- The description with an end of its validity. -/
def withValidUntil (e : Entity) (t : Instant) : Entity := { e with validUntil := some t }

/-- The description with a cache duration in whole seconds; a negative one counts as zero. -/
def withCacheDuration (e : Entity) (d : Span) : Entity :=
  { e with cacheSeconds := some d.seconds.toNat }

/-- The description with one more value of an attribute. -/
def withAttribute (e : Entity) (name value : String) : Entity :=
  { e with attributes := e.attributes.addValue name value }

/-- Does the entity take part in a role? -/
def hasRole (e : Entity) (role : Role) : Bool :=
  e.roles.any (·.role == role)

/-- The first description of a role. -/
def role? (e : Entity) (role : Role) : Option RoleDescriptor :=
  e.roles.find? (·.role == role)

/-- A description is valid until, and not at, the instant it states. -/
def isValidAt (e : Entity) (now : Instant) : Bool :=
  match e.validUntil with
  | some until_ => now < until_
  | none => true

/-- The description without the text it was read from. -/
def withoutWireForm (e : Entity) : Entity := { e with wireForm := none }

/-- The stated cache duration as a span. There is none beyond the reach of spans. -/
inductive StatedDuration where
  | unstated
  | stated (d : Span)
  | unrepresentable
deriving DecidableEq, Repr

/-- The cache duration that the description states. -/
def cacheDuration (e : Entity) : StatedDuration :=
  match e.cacheSeconds with
  | none => .unstated
  | some n =>
    match Span.ofSeconds? n with
    | some d => .stated d
    | none => .unrepresentable

end Entity

end Federation.Metadata
