/-
# Flights

While one call fetches an entity, others that want it wait their turn. A flight is a lock under
which one entity is fetched. A call that wants to fetch an entity boards the flight that is listed
for it, a new one if there is none. One call at a time holds a flight; the others that are aboard
wait for it, in the order in which they came, or leave. A flight on which nobody is left is struck
off the list.

Calls are known by tickets, no two of which are the same. A flight that is not listed any longer
is not boarded by new calls, but goes on for those that are aboard. A call that breaks off hands its
flight over as well, but does not strike it off: the next call that boards it does so.
-/

import Federation.Time.Instant

namespace Federation

/-- The number of a call. -/
abbrev Ticket := Nat

/-- A lock under which an entity is fetched. -/
structure Flight where
  entityId : String
  /-- The call that holds it. -/
  holder : Option Ticket
  /-- The calls that wait for it. -/
  waiting : List Ticket
  /-- All calls that refer to it. -/
  aboard : List Ticket
  /-- Do new calls find it? -/
  isListed : Bool
deriving DecidableEq, Repr

namespace Flight

/-- The flight of an entity before anyone boards it. -/
def new (id : String) : Flight := ⟨id, none, [], [], true⟩

/-- Is it the flight that new calls for an entity board? -/
def isOpenFor (id : String) (f : Flight) : Bool := f.isListed && f.entityId == id

/-- One more call refers to the flight. -/
def takeOn (f : Flight) (ticket : Ticket) : Flight := { f with aboard := f.aboard ++ [ticket] }

/-- A call holds the flight if nobody does. -/
def hold (f : Flight) (ticket : Ticket) : Flight :=
  match f.holder with
  | none => { f with holder := some ticket }
  | some _ => f

/-- A call holds the flight if nobody does, and waits for it otherwise. -/
def queue (f : Flight) (ticket : Ticket) : Flight :=
  match f.holder with
  | none => { f with holder := some ticket }
  | some _ => { f with waiting := f.waiting ++ [ticket] }

/-- The holder hands the flight over to the call that has waited longest. -/
def release (f : Flight) (ticket : Ticket) : Flight :=
  if f.holder = some ticket then { f with holder := f.waiting.head?, waiting := f.waiting.tail }
  else f

/-- A call does not refer to the flight any longer. -/
def letGo (f : Flight) (ticket : Ticket) : Flight := { f with aboard := f.aboard.erase ticket }

end Flight

/-- All flights, and the ticket of the next call. -/
structure Flights where
  all : List Flight
  nextTicket : Ticket
deriving DecidableEq, Repr

namespace Flights

/-- No flights. -/
def empty : Flights := ⟨[], 0⟩

/-- Lists a flight for an entity if there is none. -/
def list (fs : Flights) (id : String) : Flights :=
  if fs.all.any (·.isOpenFor id) then fs else { fs with all := fs.all ++ [.new id] }

/-- A call boards the listed flight of an entity; gives its ticket. -/
def board (fs : Flights) (id : String) : Ticket × Flights :=
  (fs.nextTicket,
    ⟨(fs.list id).all.map fun f => if f.isOpenFor id then f.takeOn fs.nextTicket else f,
      fs.nextTicket + 1⟩)

/-- Changes the flight that a call is aboard of. -/
def alter (fs : Flights) (ticket : Ticket) (change : Flight → Flight) : Flights :=
  { fs with all := fs.all.map fun f => if ticket ∈ f.aboard then change f else f }

/-- Does nobody hold the flight that a call is aboard of? -/
def isFree (fs : Flights) (ticket : Ticket) : Bool :=
  fs.all.any fun f => f.aboard.contains ticket && f.holder.isNone

/-- A call that is aboard holds the flight, if nobody does. -/
def tryHold (fs : Flights) (ticket : Ticket) : Bool × Flights :=
  (fs.isFree ticket, fs.alter ticket (·.hold ticket))

/-- A call that is aboard holds the flight or waits for it. -/
def queue (fs : Flights) (ticket : Ticket) : Flights := fs.alter ticket (·.queue ticket)

/-- Does a call hold a flight? -/
def holds (fs : Flights) (ticket : Ticket) : Bool := fs.all.any (·.holder == some ticket)

/-- The holder of a flight hands it over. -/
def release (fs : Flights) (ticket : Ticket) : Flights := fs.alter ticket (·.release ticket)

/-- A call leaves the flight. One that is not listed is gone when the last call leaves. -/
def leave (fs : Flights) (ticket : Ticket) : Flights :=
  let left := fs.alter ticket (·.letGo ticket)
  { left with all := left.all.filter fun f => f.isListed || !f.aboard.isEmpty }

/-- Strikes the flight of an entity off the list, unless some call is aboard. -/
def retire (fs : Flights) (id : String) : Flights :=
  { fs with all := fs.all.filter fun f => !(f.isOpenFor id && f.aboard.isEmpty) }

/-- New calls do not board any of the flights under way. One that nobody is aboard of is gone. -/
def close (fs : Flights) : Flights :=
  { fs with all := (fs.all.filter (!·.aboard.isEmpty)).map fun f => { f with isListed := false } }

/-- All calls that are aboard break off. Their flights are free then, but stay on the list, for it
takes a call that leaves to strike one off. -/
def desert (fs : Flights) : Flights :=
  { fs with all := (fs.all.filter (·.isListed)).map fun f => .new f.entityId }

end Flights

end Federation
