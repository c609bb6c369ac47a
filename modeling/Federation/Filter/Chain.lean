/-
# Chains of filters

A chain runs its filters in order. It stops when a filter suppresses the document or fails;
a failure of any other kind is reported as a rejection by the filter it came from.
-/

import Federation.Filter.Rules

namespace Federation

open Federation.Metadata Federation.Time

/-- A filter of this library, or one from outside. -/
inductive MetadataFilter where
  | validUntil (longest : Option Span)
  | signature (engine : TrustEngine) (rootRequired : Bool)
  | form
  | roles (roles : List Role) (keepRoleless : Bool)
  | entityIds (mode : Filter.ListMode) (ids : List String)
  | algorithms (rules : List Filter.AlgorithmRule)
  | nameIdFormats (rules : List Filter.NameIdRule)
  | custom (name : String)
      (run : Filter.Context → Document → Except Failure (Option Document))

namespace MetadataFilter

/-- A longest validity counts only if it is positive. -/
def validWithin (longest : Option Span) : MetadataFilter :=
  validUntil (longest.filter fun d => Span.zero < d)

/-- The name of a filter in messages. -/
def name : MetadataFilter → String
  | validUntil _ => "RequiredValidUntil"
  | signature _ _ => "SignatureValidation"
  | form => "SchemaValidation"
  | roles _ _ => "EntityRole"
  | entityIds _ _ => "EntityIdPredicate"
  | algorithms _ => "AlgorithmAnnotation"
  | nameIdFormats _ => "NameIDFormat"
  | custom name _ => name

/-- Runs a filter. -/
def run (filter : MetadataFilter) (context : Filter.Context) (document : Document) :
    Except Failure (Option Document) :=
  match filter with
  | .validUntil longest => Filter.requireValidUntil filter.name longest context document
  | .signature engine rootRequired =>
    Filter.checkSignatures filter.name engine rootRequired document
  | .form => Filter.checkForm filter.name document
  | .roles kept keepRoleless => Filter.keepRoles kept keepRoleless document
  | .entityIds mode ids => Filter.keepListed mode ids document
  | .algorithms rules => Filter.addAlgorithms rules document
  | .nameIdFormats rules => Filter.addNameIdFormats rules document
  | .custom _ run => run context document

end MetadataFilter

/-- Filters in the order in which they run. -/
abbrev FilterChain := List MetadataFilter

namespace FilterChain

/-- The names of the filters. -/
def names (chain : FilterChain) : List String := chain.map (·.name)

/-- A failure of a filter, as a rejection by it. -/
def rejection (filter : MetadataFilter) : Failure → Failure
  | .filterFailed name reason => .filterFailed name reason
  | failure => .filterFailed filter.name failure.message

/-- Runs a chain. -/
def apply (context : Filter.Context) : FilterChain → Document → Except Failure (Option Document)
  | [], document => .ok (some document)
  | filter :: rest, document =>
    match filter.run context document with
    | .ok (some document) => apply context rest document
    | .ok none => .ok none
    | .error failure => .error (rejection filter failure)

/-- How a chain is shown. -/
def shown (chain : FilterChain) : String :=
  "[" ++ Text.join ", " (chain.names.map Text.quoted) ++ "]"

end FilterChain

end Federation
