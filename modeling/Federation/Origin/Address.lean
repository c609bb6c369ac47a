/-
# Addresses of entities

An origin that is asked for entities one by one has an address for each. The address is the
ID itself, or the ID is put into a template, or the origin answers queries below a base
address; a rule of its own may be given instead. Some rules also have addresses for queries
without an ID.
-/

import Federation.Criteria
import Federation.Index.Source
import Federation.Text.Percent

namespace Federation.Origin

/-- How an ID is written into a template. -/
inductive TemplateEncoding where
  /-- As it is. -/
  | verbatim
  /-- Percent-encoded, with a plus sign for a space. -/
  | form
  /-- Percent-encoded save for slashes. -/
  | path
deriving DecidableEq, Repr

namespace TemplateEncoding

/-- The encoding a setting names. -/
def ofName (s : String) : Except String TemplateEncoding :=
  let name := Text.asciiLower (Text.trim s)
  if name = "none" then .ok verbatim
  else if name = "form" then .ok form
  else if name = "path" then .ok path
  else .error ("Unknown template encoding: " ++ name)

/-- Writes an ID. -/
def encode : TemplateEncoding → String → String
  | verbatim, s => s
  | form, s => Text.replace (Text.Percent.encode s) "%20" "+"
  | path, s => Text.replace (Text.Percent.encode s) "%2F" "/"

end TemplateEncoding

/-- The mark in a template that the ID takes the place of. -/
def placeholder : String := "\x7bentityID\x7d"

/-- A rule that gives queries their addresses. -/
inductive AddressRule where
  | entityId
  | template (template : String) (encoding : TemplateEncoding)
  /-- Below a base address without slashes at its end. -/
  | queryService (base : String)
  | custom (address? : Criteria → Option String) (secondary : Bool)

namespace AddressRule

/-- The service below a base address, whose slashes at the end are dropped. -/
def service (base : String) : AddressRule :=
  queryService (String.ofList (Text.dropEndWhile (· == '/') base.toList))

/-- The address of an identifier at a query service. -/
def serviceAddress (base identifier : String) : String :=
  base ++ "/entities/" ++ Text.Percent.encode identifier

/-- Is an ID an address itself? -/
def isWebAddress (id : String) : Bool :=
  let lower := (Text.asciiLower id).toList
  (Text.dropPrefix? "https://".toList lower).isSome
    || (Text.dropPrefix? "http://".toList lower).isSome

/-- The address of a query, if the rule has one for it. -/
def address? : AddressRule → Criteria → Option String
  | entityId, c => c.entityId.filter isWebAddress
  | template t encoding, c =>
    c.entityId.map fun id => Text.replace t placeholder (encoding.encode id)
  | queryService base, c =>
    match c.entityId with
    | some id => some (serviceAddress base id)
    | none =>
      (c.artifact.bind Index.sourceOfArtifact?).map fun source =>
        serviceAddress base ("\x7bsha1\x7d" ++ source)
  | custom address? _, c => address? c

/-- Does the rule have addresses for queries without an ID? -/
def isSecondary : AddressRule → Bool
  | entityId => false
  | template _ _ => false
  | queryService _ => true
  | custom _ secondary => secondary

end AddressRule

end Federation.Origin
