/-
# Flights and those aboard

A call that wants to fetch an entity boards its flight, waits for it or holds it at once, hands it
over, leaves, and strikes it off the list if it was the last. Where a call is on this way is its
seat. The flights are manned by calls if what the flights tell of them agrees with their seats. Each
of the steps on the way keeps the flights manned, whatever the seats of the other calls are.

So a flight is held by one call at a time, there are no two flights of one entity, and the last one
to leave a flight strikes it off.

## Main definitions

- `Seat`: where a call is on its way through a flight.
- `Flight.IsManned`, `Flights.AreManned`: what a flight, and all flights, tell of the seats.

## Main results

- `AreManned.board`, `AreManned.tryHold`, `AreManned.queue`, `AreManned.wake`, `AreManned.release`,
  `AreManned.leave`, `AreManned.retire`: the steps of a call keep the flights manned.
- `AreManned.holding_unique`: no two calls hold the flight of one entity.
- `AreManned.all_eq_nil`: without calls there are no flights.
- `AreVacant.board`, `Carry.retire_board`: a call that finds nobody aboard of any flight is alone on
  its own, and strikes it off when it leaves.
-/

import Mathlib.Data.List.Nodup
import Mathlib.Logic.Function.Basic
import Federation.Resolver.Flights

namespace Federation

variable {fs : Flights} {id : String} {ticket : Ticket} {holder : Option Ticket}

/-! ## Flights with one call aboard

While calls come one after another, nobody is aboard of any flight when a call begins: there are
only those flights that calls which broke off have left on the list. -/

/-- The flight of an entity with one call aboard, which may hold it. -/
def Flight.alone (id : String) (ticket : Ticket) (holder : Option Ticket) : Flight :=
  ⟨id, holder, [], [ticket], true⟩

namespace Flights

/-- Nobody is aboard of any flight. -/
def AreVacant (fs : Flights) : Prop := ∀ f ∈ fs.all, f = .new f.entityId

/-- One call is aboard, of the flight of an entity, which it may hold. There is such a flight among
those that were there before. -/
structure Carry (id : String) (ticket : Ticket) (holder : Option Ticket) (before fs : Flights) :
    Prop where
  vacant : before.AreVacant
  present : ∃ f ∈ before.all, f.entityId = id
  all : fs.all = before.all.map fun f => if f.entityId = id then .alone id ticket holder else f

theorem areVacant_desert (fs : Flights) : fs.desert.AreVacant := by
  intro f listed
  obtain ⟨f', -, rfl⟩ := List.mem_map.1 listed
  rfl

theorem areVacant_of_all_eq_nil (none_listed : fs.all = []) : fs.AreVacant := by
  rw [AreVacant, none_listed]
  exact nofun

/-- No flight is closed while nobody is aboard. -/
theorem AreVacant.close (vacant : fs.AreVacant) : fs.close.AreVacant := by
  intro f listed
  obtain ⟨f', kept, -⟩ := List.mem_map.1 listed
  obtain ⟨listed, aboard⟩ := List.mem_filter.1 kept
  rw [vacant f' listed] at aboard
  cases aboard

theorem AreVacant.isOpenFor_iff {f : Flight} (vacant : fs.AreVacant) (listed : f ∈ fs.all) :
    f.isOpenFor id = true ↔ f.entityId = id := by
  rw [vacant f listed]
  simp [Flight.isOpenFor, Flight.new]

/-- Whether or not there was a flight for the entity, there is one then. -/
theorem AreVacant.list (vacant : fs.AreVacant) (id : String) :
    (fs.list id).AreVacant ∧ ∃ f ∈ (fs.list id).all, f.entityId = id := by
  rw [Flights.list]
  split
  · rename_i found
    obtain ⟨f, listed, isOpen⟩ := List.any_eq_true.1 found
    exact ⟨vacant, f, listed, (vacant.isOpenFor_iff listed).1 isOpen⟩
  · refine ⟨fun f listed => ?_, .new id, by simp, rfl⟩
    rcases List.mem_append.1 listed with listed | listed
    · exact vacant f listed
    · obtain rfl := List.mem_singleton.1 listed
      rfl

/-- A call that boards a flight is alone aboard. -/
theorem AreVacant.board (vacant : fs.AreVacant) (id : String) :
    Carry id fs.nextTicket none (fs.list id) (fs.board id).2 := by
  obtain ⟨vacant, present⟩ := vacant.list id
  refine ⟨vacant, present, List.map_congr_left fun f listed => ?_⟩
  rw [vacant f listed]
  by_cases here : f.entityId = id
  · simp [here, Flight.new, Flight.isOpenFor, Flight.takeOn, Flight.alone]
  · simp [here, Flight.new, Flight.isOpenFor]

/-- A flight of the entity is not among those of other entities. -/
theorem filter_list (fs : Flights) (id : String) :
    (fs.list id).all.filter (·.entityId != id) = fs.all.filter (·.entityId != id) := by
  rw [list]
  split
  · rfl
  · simp [List.filter_append, Flight.new]

namespace Carry

variable {before : Flights}

/-- What the call does on its flight changes no other. -/
theorem alter (h : Carry id ticket holder before fs) {change : Flight → Flight}
    {holder' : Option Ticket}
    (changes : change (.alone id ticket holder) = .alone id ticket holder') :
    Carry id ticket holder' before (fs.alter ticket change) := by
  refine ⟨h.vacant, h.present, ?_⟩
  rw [Flights.alter, h.all, List.map_map]
  refine List.map_congr_left fun f listed => ?_
  by_cases here : f.entityId = id
  · simpa [here, Flight.alone] using changes
  · rw [h.vacant f listed]
    simp [here, Flight.new]

theorem tryHold (h : Carry id ticket none before fs) :
    (fs.tryHold ticket).1 = true ∧ Carry id ticket (some ticket) before (fs.tryHold ticket).2 := by
  refine ⟨?_, h.alter rfl⟩
  obtain ⟨f, listed, here⟩ := h.present
  refine List.any_eq_true.2 ⟨.alone id ticket none, ?_, by simp [Flight.alone]⟩
  rw [h.all]
  exact List.mem_map.2 ⟨f, listed, if_pos here⟩

theorem release (h : Carry id ticket (some ticket) before fs) :
    Carry id ticket none before (fs.release ticket) :=
  h.alter (by simp [Flight.release, Flight.alone])

/-- When the call has left, the flight of its entity is not there any longer. -/
theorem retire (h : Carry id ticket none before fs) :
    ((fs.leave ticket).retire id).all = before.all.filter (·.entityId != id) := by
  have left : (fs.alter ticket (·.letGo ticket)).all = before.all := by
    rw [Flights.alter, h.all, List.map_map]
    refine (List.map_congr_left fun f listed => ?_).trans (List.map_id _)
    rw [h.vacant f listed]
    by_cases here : f.entityId = id
    · simp [here, Flight.alone, Flight.letGo, Flight.new]
    · simp [here, Flight.new]
  rw [Flights.retire, Flights.leave, left]
  dsimp only
  rw [List.filter_filter]
  refine List.filter_congr fun f listed => ?_
  rw [h.vacant f listed]
  simp [Flight.new, Flight.isOpenFor, bne]

end Carry

/-- When a call that was alone has left, the flight of its entity is not there any longer, whoever
had put it on the list, and every other is. -/
theorem Carry.retire_board {flown : Flights} (h : Carry id ticket none (fs.list id) flown) :
    ((flown.leave ticket).retire id).all = fs.all.filter (·.entityId != id) :=
  h.retire.trans (filter_list fs id)

end Flights

/-! ## Seats -/

/-- Where a call is on its way through the flight of an entity. -/
inductive Seat where
  /-- Before it, or after. -/
  | outside
  | aboard (id : String) (ticket : Ticket)
  /-- It waits for the flight, or has been handed it and does not know yet. -/
  | waiting (id : String) (ticket : Ticket)
  | holding (id : String) (ticket : Ticket)
  /-- It has left the flight, and is going to strike it off if nobody is aboard. -/
  | leaving (id : String)
deriving DecidableEq

namespace Seat

/-- The entity and the ticket of a call that is aboard. -/
def pass : Seat → Option (String × Ticket)
  | outside => none
  | aboard id ticket => some (id, ticket)
  | waiting id ticket => some (id, ticket)
  | holding id ticket => some (id, ticket)
  | leaving _ => none

/-- The entity on whose flight a call is, or was a moment ago. -/
def entity : Seat → Option String
  | outside => none
  | aboard id _ => some id
  | waiting id _ => some id
  | holding id _ => some id
  | leaving id => some id

theorem entity_of_pass {seat : Seat} (passed : seat.pass = some (id, ticket)) :
    seat.entity = some id := by
  cases seat <;> simp_all [pass, entity]

/-- A call goes from one seat to another: of all seats that are taken, one is left and one is
taken. -/
structure Moves (taken taken' : Seat → Prop) (old new : Seat) : Prop where
  stays : ∀ seat, taken seat → seat = old ∨ taken' seat
  stayed : ∀ seat, taken' seat → seat = new ∨ taken seat
  left : taken old
  arrived : taken' new

/-- A call with a ticket does, and no other call has its ticket. -/
structure Steps (id : String) (ticket : Ticket) (taken taken' : Seat → Prop) (old new : Seat) : Prop
    extends Moves taken taken' old new where
  before : ∀ seat, taken seat → seat.pass = some (id, ticket) → seat = old
  after : ∀ seat, taken' seat → seat.pass = some (id, ticket) → seat = new

end Seat

open Seat

/-! ## What a flight tells of the seats -/

namespace Flight

/-- What a flight tells of those aboard agrees with the seats that are taken. -/
structure Agrees (taken : Seat → Prop) (f : Flight) : Prop where
  listed : f.isListed = true
  aboard : ∀ ticket, ticket ∈ f.aboard ↔ ∃ seat, taken seat ∧ seat.pass = some (f.entityId, ticket)
  once : f.aboard.Nodup
  waiting : ∀ ticket ∈ f.waiting, taken (.waiting f.entityId ticket)
  inLine : f.waiting.Nodup
  holder : ∀ ticket, f.holder = some ticket → ticket ∉ f.waiting ∧
    (taken (.waiting f.entityId ticket) ∨ taken (.holding f.entityId ticket))
  holding : ∀ ticket, taken (.holding f.entityId ticket) → f.holder = some ticket
  waits : ∀ ticket, taken (.waiting f.entityId ticket) →
    ticket ∈ f.waiting ∨ f.holder = some ticket
  /-- Nobody waits for a flight that nobody holds. -/
  inTurn : f.holder = none → f.waiting = []

/-- Besides, a flight that nobody is aboard of is about to be struck off. -/
structure IsManned (taken : Seat → Prop) (f : Flight) : Prop extends Agrees taken f where
  last : f.aboard = [] → taken (.leaving f.entityId)

variable {taken taken' : Seat → Prop} {f : Flight} {old new : Seat}

/-- A flight is not concerned by what happens on another. -/
theorem IsManned.of_elsewhere (h : f.IsManned taken) (moves : Moves taken taken' old new)
    (from_ : old.entity ≠ some f.entityId) (to_ : new.entity ≠ some f.entityId) :
    f.IsManned taken' := by
  have same (seat : Seat) (here : seat.entity = some f.entityId) : taken' seat ↔ taken seat := by
    constructor
    · intro sits
      rcases moves.stayed seat sits with rfl | sits
      · exact absurd here to_
      · exact sits
    · intro sits
      rcases moves.stays seat sits with rfl | sits
      · exact absurd here from_
      · exact sits
  refine ⟨⟨h.listed, fun ticket => (h.aboard ticket).trans ?_, h.once, ?_, h.inLine, ?_, ?_, ?_,
    h.inTurn⟩, ?_⟩
  · refine exists_congr fun seat => and_congr_left fun passed => ?_
    exact (same seat (entity_of_pass passed)).symm
  · exact fun ticket waits => (same _ rfl).2 (h.waiting ticket waits)
  · intro ticket holds
    refine ⟨(h.holder ticket holds).1, ?_⟩
    exact (h.holder ticket holds).2.imp (same _ rfl).2 (same _ rfl).2
  · exact fun ticket sits => h.holding ticket ((same _ rfl).1 sits)
  · exact fun ticket sits => h.waits ticket ((same _ rfl).1 sits)
  · exact fun empty => (same _ rfl).2 (h.last empty)

/-! ### The steps of a call that is aboard -/

/-- A flight that nobody has boarded. -/
theorem agrees_new (nobody : ∀ seat, taken seat → ∀ ticket, seat.pass ≠ some (id, ticket)) :
    (Flight.new id).Agrees taken := by
  refine ⟨rfl, fun ticket => ?_, List.nodup_nil, by simp [Flight.new], List.nodup_nil,
    by simp [Flight.new], fun ticket sits => ?_, fun ticket sits => ?_, fun _ => rfl⟩
  · refine ⟨by simp [Flight.new], ?_⟩
    rintro ⟨seat, sits, passed⟩
    exact absurd passed (nobody seat sits ticket)
  · exact absurd rfl (nobody _ sits ticket)
  · exact absurd rfl (nobody _ sits ticket)

theorem Agrees.takeOn (h : f.Agrees taken)
    (steps : Steps f.entityId ticket taken taken' .outside (.aboard f.entityId ticket)) :
    (f.takeOn ticket).IsManned taken' := by
  obtain ⟨⟨stays, stayed, left, arrived⟩, before, after⟩ := steps
  obtain ⟨listed, aboard, once, waiting, inLine, holder, holding, waits, inTurn⟩ := h
  refine ⟨⟨?_, ?_, ?_, ?_, ?_, ?_, ?_, ?_, ?_⟩, by simp [Flight.takeOn]⟩ <;>
    dsimp only [Flight.takeOn]
  all_goals grind [Seat.pass]

theorem IsManned.hold (h : f.IsManned taken) (free : f.holder = none)
    (steps : Steps f.entityId ticket taken taken' (.aboard f.entityId ticket)
      (.holding f.entityId ticket)) : (f.hold ticket).IsManned taken' := by
  obtain ⟨⟨stays, stayed, left, arrived⟩, before, after⟩ := steps
  obtain ⟨⟨listed, aboard, once, waiting, inLine, holder, holding, waits, inTurn⟩, last⟩ := h
  refine ⟨⟨?_, ?_, ?_, ?_, ?_, ?_, ?_, ?_, ?_⟩, ?_⟩ <;> simp only [Flight.hold, free]
  all_goals grind [Seat.pass]

theorem IsManned.queue (h : f.IsManned taken)
    (steps : Steps f.entityId ticket taken taken' (.aboard f.entityId ticket)
      (.waiting f.entityId ticket)) : (f.queue ticket).IsManned taken' := by
  obtain ⟨⟨stays, stayed, left, arrived⟩, before, after⟩ := steps
  obtain ⟨⟨listed, aboard, once, waiting, inLine, holder, holding, waits, inTurn⟩, last⟩ := h
  cases held : f.holder with
  | none =>
    refine ⟨⟨?_, ?_, ?_, ?_, ?_, ?_, ?_, ?_, ?_⟩, ?_⟩ <;> simp only [Flight.queue, held]
    all_goals grind [Seat.pass]
  | some other =>
    refine ⟨⟨?_, ?_, ?_, ?_, ?_, ?_, ?_, ?_, ?_⟩, ?_⟩ <;> simp only [Flight.queue, held]
    all_goals grind [Seat.pass]

theorem IsManned.wake (h : f.IsManned taken) (held : f.holder = some ticket)
    (steps : Steps f.entityId ticket taken taken' (.waiting f.entityId ticket)
      (.holding f.entityId ticket)) : f.IsManned taken' := by
  obtain ⟨⟨stays, stayed, left, arrived⟩, before, after⟩ := steps
  obtain ⟨⟨listed, aboard, once, waiting, inLine, holder, holding, waits, inTurn⟩, last⟩ := h
  refine ⟨⟨?_, ?_, ?_, ?_, ?_, ?_, ?_, ?_, ?_⟩, ?_⟩
  all_goals grind [Seat.pass]

theorem IsManned.release (h : f.IsManned taken)
    (steps : Steps f.entityId ticket taken taken' (.holding f.entityId ticket)
      (.aboard f.entityId ticket)) : (f.release ticket).IsManned taken' := by
  obtain ⟨⟨stays, stayed, left, arrived⟩, before, after⟩ := steps
  obtain ⟨⟨listed, aboard, once, waiting, inLine, holder, holding, waits, inTurn⟩, last⟩ := h
  have held := holding ticket left
  cases line : f.waiting with
  | nil =>
    refine ⟨⟨?_, ?_, ?_, ?_, ?_, ?_, ?_, ?_, ?_⟩, ?_⟩ <;>
      simp only [Flight.release, held, if_true, line, List.head?_nil, List.tail_nil]
    all_goals grind [Seat.pass]
  | cons first rest =>
    refine ⟨⟨?_, ?_, ?_, ?_, ?_, ?_, ?_, ?_, ?_⟩, ?_⟩ <;>
      simp only [Flight.release, held, if_true, line, List.head?_cons, List.tail_cons]
    all_goals grind [Seat.pass]

theorem IsManned.letGo (h : f.IsManned taken)
    (steps : Steps f.entityId ticket taken taken' (.aboard f.entityId ticket)
      (.leaving f.entityId)) : (f.letGo ticket).IsManned taken' := by
  obtain ⟨⟨stays, stayed, left, arrived⟩, before, after⟩ := steps
  obtain ⟨⟨listed, aboard, once, waiting, inLine, holder, holding, waits, inTurn⟩, last⟩ := h
  refine ⟨⟨?_, ?_, ?_, ?_, ?_, ?_, ?_, ?_, ?_⟩, ?_⟩ <;> dsimp only [Flight.letGo]
  all_goals grind [Seat.pass, List.Nodup.mem_erase_iff]

/-- A call that has left goes on. -/
theorem IsManned.retire (h : f.IsManned taken) (some_aboard : f.aboard ≠ [])
    (moves : Moves taken taken' (.leaving f.entityId) .outside) : f.IsManned taken' := by
  obtain ⟨stays, stayed, left, arrived⟩ := moves
  obtain ⟨⟨listed, aboard, once, waiting, inLine, holder, holding, waits, inTurn⟩, last⟩ := h
  refine ⟨⟨?_, ?_, ?_, ?_, ?_, ?_, ?_, ?_, ?_⟩, ?_⟩
  all_goals grind [Seat.pass]

end Flight

/-! ## What all flights tell of the seats -/

/-- Some call has a seat. -/
def Taken (seats : Nat → Seat) (seat : Seat) : Prop := ∃ place, seats place = seat

namespace Flights

/-- All flights agree with the seats of the calls: there is one for every entity that a call flies
for, and every call aboard has its own ticket. -/
structure AreManned (seats : Nat → Seat) (fs : Flights) : Prop where
  flight : ∀ f ∈ fs.all, f.IsManned (Taken seats)
  single : (fs.all.map (·.entityId)).Nodup
  present : ∀ place id ticket, (seats place).pass = some (id, ticket) →
    ∃ f ∈ fs.all, f.entityId = id
  apart : ∀ place other id id' ticket, (seats place).pass = some (id, ticket) →
    (seats other).pass = some (id', ticket) → place = other
  issued : ∀ place id ticket, (seats place).pass = some (id, ticket) → ticket < fs.nextTicket

variable {seats : Nat → Seat} {place : Nat} {old new : Seat} {f f' : Flight}

/-- Nobody is aboard before the first call. -/
theorem areManned_of_idle (idle : fs.all = []) : AreManned (fun _ => .outside) fs := by
  constructor <;> simp [idle, Seat.pass]

theorem moves_update (own : seats place = old) :
    Moves (Taken seats) (Taken (Function.update seats place new)) old new where
  stays := by
    rintro seat ⟨other, rfl⟩
    by_cases same : other = place
    · exact .inl (same ▸ own)
    · exact .inr ⟨other, Function.update_of_ne same _ _⟩
  stayed := by
    rintro seat ⟨other, rfl⟩
    by_cases same : other = place
    · subst same
      exact .inl (Function.update_self _ _ _)
    · rw [Function.update_of_ne same]
      exact .inr ⟨other, rfl⟩
  left := ⟨place, own⟩
  arrived := ⟨place, Function.update_self _ _ _⟩

/-- After a call has changed its seat, a pass is that of its new seat, or was there before. -/
theorem pass_update {there : Nat} {pass : String × Ticket}
    (passed : (Function.update seats place new there).pass = some pass) :
    there = place ∧ new.pass = some pass ∨ (seats there).pass = some pass := by
  by_cases same : there = place
  · subst same
    rw [Function.update_self] at passed
    exact .inl ⟨rfl, passed⟩
  · rw [Function.update_of_ne same] at passed
    exact .inr passed

/-! ### The entities of all flights -/

theorem entityIds_alter {change : Flight → Flight} (keeps : ∀ f, (change f).entityId = f.entityId) :
    (fs.alter ticket change).all.map (·.entityId) = fs.all.map (·.entityId) := by
  rw [Flights.alter, List.map_map]
  refine List.map_congr_left fun f _ => ?_
  dsimp only [Function.comp]
  split
  · exact keeps f
  · rfl

theorem entityIds_board (fs : Flights) (id : String) :
    (fs.board id).2.all.map (·.entityId) = (fs.list id).all.map (·.entityId) := by
  rw [Flights.board, List.map_map]
  refine List.map_congr_left fun f _ => ?_
  dsimp only [Function.comp]
  split <;> rfl

theorem exists_of_entityIds {all all' : List Flight}
    (same : all'.map (·.entityId) = all.map (·.entityId)) (listed : f ∈ all) :
    ∃ f' ∈ all', f'.entityId = f.entityId := by
  have kept : f.entityId ∈ all'.map (·.entityId) := by
    rw [same]
    exact List.mem_map_of_mem listed
  exact List.mem_map.1 kept

namespace AreManned

variable (h : AreManned seats fs)

include h

/-- A call stays in its seat. -/
theorem stay (own : seats place = old) : AreManned (Function.update seats place old) fs := by
  rwa [← own, Function.update_eq_self]

/-- A seat is told by its ticket. -/
theorem seat_unique {seat : Seat} {id' : String} (passed : (seats place).pass = some (id, ticket))
    (sits : Taken seats seat) (other : seat.pass = some (id', ticket)) : seat = seats place := by
  obtain ⟨there, rfl⟩ := sits
  rw [h.apart _ _ _ _ _ passed other]

theorem flight_unique (listed : f ∈ fs.all) (listed' : f' ∈ fs.all)
    (same : f.entityId = f'.entityId) : f = f' :=
  List.inj_on_of_nodup_map h.single listed listed' same

/-- A call is aboard of the flight of its entity and of no other. -/
theorem mem_aboard_iff (passed : (seats place).pass = some (id, ticket)) (listed : f ∈ fs.all) :
    ticket ∈ f.aboard ↔ f.entityId = id := by
  rw [(h.flight f listed).aboard]
  constructor
  · rintro ⟨seat, sits, other⟩
    rw [h.seat_unique passed sits other, passed] at other
    exact (Prod.mk.inj (Option.some_inj.1 other)).1.symm
  · rintro rfl
    exact ⟨_, ⟨place, rfl⟩, passed⟩

/-- No two calls hold the flight of one entity. -/
theorem holding_unique {other : Nat} {ticket' : Ticket} (holds : seats place = .holding id ticket)
    (holds' : seats other = .holding id ticket') : place = other := by
  obtain ⟨f, listed, rfl⟩ := h.present place id ticket (by rw [holds]; rfl)
  have held := (h.flight f listed).holding ticket ⟨place, holds⟩
  have held' := (h.flight f listed).holding ticket' ⟨other, holds'⟩
  obtain rfl := Option.some_inj.1 (held.symm.trans held')
  exact h.apart place other _ _ _ (by rw [holds]; rfl) (by rw [holds']; rfl)

/-- Without calls there are no flights. -/
theorem all_eq_nil (left : ∀ place, seats place = .outside) : fs.all = [] := by
  refine List.eq_nil_iff_forall_not_mem.2 fun f listed => ?_
  have nobody (seat : Seat) (sits : Taken seats seat) : seat = .outside := by
    obtain ⟨place, rfl⟩ := sits
    exact left place
  have manned := h.flight f listed
  cases aboard : f.aboard with
  | nil => cases nobody _ (manned.last aboard)
  | cons ticket rest =>
    have first : ticket ∈ f.aboard := by simp [aboard]
    obtain ⟨seat, sits, passed⟩ := (manned.aboard ticket).1 first
    rw [nobody seat sits] at passed
    cases passed

/-! ### The steps of a call -/

theorem steps_update (own : seats place = old) (passed : old.pass = some (id, ticket)) :
    Steps id ticket (Taken seats) (Taken (Function.update seats place new)) old new where
  toMoves := moves_update own
  before seat sits other := by
    rw [← own]
    exact h.seat_unique (by rw [own, passed]) sits other
  after := by
    rintro seat ⟨there, rfl⟩ other
    by_cases same : there = place
    · subst same
      exact Function.update_self _ _ _
    · rw [Function.update_of_ne same] at other
      exact absurd (h.apart _ _ _ _ _ other (by rw [own, passed])) same

/-- A call that stays on its flight, or leaves it, changes what the flight tells of it. -/
theorem alter {change : Flight → Flight} (own : seats place = old)
    (passed : old.pass = some (id, ticket)) (stays : new.entity = some id)
    (narrower : ∀ pass, new.pass = some pass → old.pass = some pass)
    (keeps : ∀ f, (change f).entityId = f.entityId)
    (each : ∀ f ∈ fs.all, f.entityId = id →
      Steps id ticket (Taken seats) (Taken (Function.update seats place new)) old new →
      (change f).IsManned (Taken (Function.update seats place new))) :
    AreManned (Function.update seats place new) (fs.alter ticket change) := by
  have passed' : (seats place).pass = some (id, ticket) := by rw [own, passed]
  -- No call has a ticket after the step that it had not before.
  have before {there : Nat} {pass : String × Ticket}
      (other : (Function.update seats place new there).pass = some pass) :
      (seats there).pass = some pass := by
    rcases pass_update other with ⟨rfl, mine⟩ | other
    · rw [own]
      exact narrower pass mine
    · exact other
  have ids : (fs.alter ticket change).all.map (·.entityId) = fs.all.map (·.entityId) :=
    entityIds_alter keeps
  refine ⟨fun f' altered => ?_, by rw [ids]; exact h.single, fun there id' ticket' other => ?_, ?_,
    fun there id' ticket' other => h.issued there id' ticket' (before other)⟩
  · obtain ⟨f, listed, rfl⟩ := List.mem_map.1 altered
    split
    · -- The flight that the ticket is for, which is altered.
      rename_i aboard
      exact each f listed ((h.mem_aboard_iff passed' listed).1 aboard) (h.steps_update own passed)
    · -- Any other flight is as it was, and is not concerned by the step.
      rename_i not_aboard
      have elsewhere : f.entityId ≠ id := fun same =>
        not_aboard ((h.mem_aboard_iff passed' listed).2 same)
      refine (h.flight f listed).of_elsewhere (moves_update own) ?_ ?_
      · rw [entity_of_pass passed]
        exact fun same => elsewhere (Option.some_inj.1 same).symm
      · rw [stays]
        exact fun same => elsewhere (Option.some_inj.1 same).symm
  · obtain ⟨f, listed, rfl⟩ := h.present there id' ticket' (before other)
    exact exists_of_entityIds ids listed
  · exact fun there other id id' ticket passed passed' =>
      h.apart there other id id' ticket (before passed) (before passed')

theorem isOpenFor_iff (listed : f ∈ fs.all) : f.isOpenFor id = true ↔ f.entityId = id := by
  simp [Flight.isOpenFor, (h.flight f listed).listed]

/-- A flight is listed for an entity before a call boards it. -/
theorem list (id : String) :
    (∀ f ∈ (fs.list id).all, f.Agrees (Taken seats) ∧
      (f.entityId ≠ id → f.IsManned (Taken seats))) ∧
    ((fs.list id).all.map (·.entityId)).Nodup ∧
    (∃ f ∈ (fs.list id).all, f.entityId = id) ∧
    ∀ f ∈ fs.all, f ∈ (fs.list id).all := by
  rw [Flights.list]
  split
  · -- There is a flight already, and nothing is listed.
    rename_i found
    obtain ⟨f, listed, isOpen⟩ := List.any_eq_true.1 found
    exact ⟨fun f listed => ⟨(h.flight f listed).toAgrees, fun _ => h.flight f listed⟩, h.single,
      ⟨f, listed, (h.isOpenFor_iff listed).1 isOpen⟩, fun f listed => listed⟩
  · -- A flight without anybody aboard is listed, and nobody has a ticket for it.
    rename_i missing
    have absent (f : Flight) (listed : f ∈ fs.all) : f.entityId ≠ id := fun same =>
      missing (List.any_eq_true.2 ⟨f, listed, (h.isOpenFor_iff listed).2 same⟩)
    have nobody (seat : Seat) (sits : Taken seats seat) (ticket : Ticket) :
        seat.pass ≠ some (id, ticket) := by
      rintro passed
      obtain ⟨place, rfl⟩ := sits
      obtain ⟨f, listed, same⟩ := h.present place id ticket passed
      exact absent f listed same
    refine ⟨fun f listed => ?_, ?_, ⟨.new id, by simp, rfl⟩, fun f listed => by simp [listed]⟩
    · rcases List.mem_append.1 listed with listed | listed
      · exact ⟨(h.flight f listed).toAgrees, fun _ => h.flight f listed⟩
      · obtain rfl := List.mem_singleton.1 listed
        exact ⟨Flight.agrees_new nobody, fun other => absurd rfl other⟩
    · rw [List.map_append, List.nodup_append]
      refine ⟨h.single, by simp, fun x mem y mem' => ?_⟩
      obtain ⟨f, listed, rfl⟩ := List.mem_map.1 mem
      obtain rfl := List.mem_singleton.1 mem'
      exact absent f listed

/-- The ticket of the next call is on nobody's pass. -/
theorem not_issued (there : Nat) (id : String) :
    (seats there).pass ≠ some (id, fs.nextTicket) := fun passed =>
  Nat.lt_irrefl _ (h.issued there id _ passed)

/-- A call that boards does a step with a ticket of its own. -/
theorem steps_board (id : String) (own : seats place = .outside) :
    Steps id fs.nextTicket (Taken seats)
      (Taken (Function.update seats place (.aboard id fs.nextTicket))) .outside
      (.aboard id fs.nextTicket) where
  toMoves := moves_update own
  before := by
    rintro seat ⟨there, rfl⟩ passed
    exact absurd passed (h.not_issued there id)
  after := by
    rintro seat ⟨there, rfl⟩ passed
    by_cases same : there = place
    · subst same
      exact Function.update_self _ _ _
    · rw [Function.update_of_ne same] at passed
      exact absurd passed (h.not_issued there id)

omit h in
theorem pass_board {there : Nat} {id' : String}
    (passed : (Function.update seats place (.aboard id fs.nextTicket) there).pass
      = some (id', ticket)) :
    (there = place ∧ id' = id ∧ ticket = fs.nextTicket) ∨
      (seats there).pass = some (id', ticket) := by
  rcases pass_update passed with ⟨rfl, mine⟩ | passed
  · cases mine
    exact .inl ⟨rfl, rfl, rfl⟩
  · exact .inr passed

/-- The flight that a call boards, and every other, is manned when it has boarded. -/
theorem flight_board (own : seats place = .outside) (boarded : f' ∈ (fs.board id).2.all) :
    f'.IsManned (Taken (Function.update seats place (.aboard id fs.nextTicket))) := by
  obtain ⟨f, listed, rfl⟩ := List.mem_map.1 boarded
  obtain ⟨agrees, manned⟩ := (h.list id).1 f listed
  have isOpen : f.isOpenFor id = true ↔ f.entityId = id := by
    simp [Flight.isOpenFor, agrees.listed]
  have steps := h.steps_board id own
  split
  · rename_i found
    have here := isOpen.1 found
    subst here
    exact agrees.takeOn steps
  · rename_i other
    have elsewhere : f.entityId ≠ id := fun same => other (isOpen.2 same)
    exact (manned elsewhere).of_elsewhere steps.toMoves (by simp [Seat.entity])
      fun same => elsewhere (Option.some_inj.1 same).symm

/-- A call that finds the flight of its entity, or a new one, boards it. -/
theorem board (own : seats place = .outside) :
    AreManned (Function.update seats place (.aboard id (fs.board id).1)) (fs.board id).2 := by
  obtain ⟨-, single, ⟨f₀, listed₀, same₀⟩, more⟩ := h.list id
  have ids := entityIds_board fs id
  refine ⟨fun f' => h.flight_board own, by rw [ids]; exact single, ?_, ?_, ?_⟩
  · intro there id' ticket passed
    rcases pass_board passed with ⟨-, rfl, -⟩ | passed
    · obtain ⟨f, listed, same⟩ := exists_of_entityIds ids listed₀
      exact ⟨f, listed, same.trans same₀⟩
    · obtain ⟨f, listed, rfl⟩ := h.present there id' ticket passed
      exact exists_of_entityIds ids (more f listed)
  · intro there other id₁ id₂ ticket passed passed'
    rcases pass_board passed with ⟨rfl, -, issued⟩ | sat <;>
      rcases pass_board passed' with ⟨rfl, -, issued'⟩ | sat'
    · rfl
    · exact absurd (issued ▸ sat') (h.not_issued _ _)
    · exact absurd (issued' ▸ sat) (h.not_issued _ _)
    · exact h.apart _ _ _ _ _ sat sat'
  · intro there id' ticket passed
    rcases pass_board passed with ⟨-, -, rfl⟩ | passed
    · exact Nat.lt_succ_self _
    · exact Nat.lt_succ_of_lt (h.issued there id' ticket passed)

theorem isFree_iff (passed : (seats place).pass = some (id, ticket)) :
    fs.isFree ticket = true ↔ ∃ f ∈ fs.all, f.entityId = id ∧ f.holder = none := by
  rw [isFree, List.any_eq_true]
  refine exists_congr fun f => and_congr_right fun listed => ?_
  rw [Bool.and_eq_true, List.contains_iff_mem, h.mem_aboard_iff passed listed,
    Option.isNone_iff_eq_none]

/-- A call holds a flight that nobody holds. -/
theorem tryHold (own : seats place = .aboard id ticket) (free : (fs.tryHold ticket).1 = true) :
    AreManned (Function.update seats place (.holding id ticket)) (fs.tryHold ticket).2 := by
  obtain ⟨f', listed', same', nobody⟩ := (h.isFree_iff (by rw [own]; rfl)).1 free
  refine h.alter own rfl rfl (fun _ same => same) (fun f => ?_) fun f listed same steps => ?_
  · rw [Flight.hold]
    split <;> rfl
  · obtain rfl := h.flight_unique listed listed' (same.trans same'.symm)
    subst same
    exact (h.flight f listed).hold nobody steps

/-- A flight that some call holds is left as it is. -/
theorem tryHold_of_held (own : seats place = .aboard id ticket)
    (held : (fs.tryHold ticket).1 = false) : (fs.tryHold ticket).2 = fs := by
  have passed : (seats place).pass = some (id, ticket) := by rw [own]; rfl
  have same : (fs.tryHold ticket).2.all = fs.all := by
    refine (List.map_congr_left fun f listed => ?_).trans (List.map_id fs.all)
    split
    · rename_i aboard
      have here := (h.mem_aboard_iff passed listed).1 aboard
      cases holder : f.holder with
      | none =>
        have free := (h.isFree_iff passed).2 ⟨f, listed, here, holder⟩
        cases held.symm.trans free
      | some other =>
        show f.hold ticket = f
        rw [Flight.hold, holder]
    · rfl
  show ({ fs with all := (fs.tryHold ticket).2.all } : Flights) = fs
  rw [same]

/-- A call waits for a flight that another holds, or holds it after all. -/
theorem queue (own : seats place = .aboard id ticket) :
    AreManned (Function.update seats place (.waiting id ticket)) (fs.queue ticket) := by
  refine h.alter own rfl rfl (fun _ same => same) (fun f => ?_) fun f listed same steps => ?_
  · rw [Flight.queue]
    split <;> rfl
  · subst same
    exact (h.flight f listed).queue steps

/-- A call that waits for its flight finds that it holds it. -/
theorem wake (own : seats place = .waiting id ticket) (held : fs.holds ticket = true) :
    AreManned (Function.update seats place (.holding id ticket)) fs := by
  obtain ⟨f', listed', mine⟩ := List.any_eq_true.1 held
  have mine : f'.holder = some ticket := by simpa using mine
  have passed : (seats place).pass = some (id, ticket) := by rw [own]; rfl
  have here : f'.entityId = id := by
    refine (h.mem_aboard_iff passed listed').1 (((h.flight f' listed').aboard ticket).2 ?_)
    rcases ((h.flight f' listed').holder ticket mine).2 with sits | sits
    · exact ⟨_, sits, rfl⟩
    · exact ⟨_, sits, rfl⟩
  have woken : AreManned (Function.update seats place (.holding id ticket))
      (fs.alter ticket fun f => f) := by
    refine h.alter own rfl rfl (fun _ same => same) (fun _ => rfl) fun f listed same steps => ?_
    obtain rfl := h.flight_unique listed listed' (same.trans here.symm)
    subst same
    exact (h.flight f listed).wake mine steps
  rwa [show fs.alter ticket (fun f => f) = fs by simp [Flights.alter]] at woken

/-- The holder of a flight hands it over, and is aboard as before. -/
theorem release (own : seats place = .holding id ticket) :
    AreManned (Function.update seats place (.aboard id ticket)) (fs.release ticket) := by
  refine h.alter own rfl rfl (fun _ same => same) (fun f => ?_) fun f listed same steps => ?_
  · rw [Flight.release]
    split <;> rfl
  · subst same
    exact (h.flight f listed).release steps

/-- A call leaves its flight. -/
theorem leave (own : seats place = .aboard id ticket) :
    AreManned (Function.update seats place (.leaving id)) (fs.leave ticket) := by
  have left : AreManned (Function.update seats place (.leaving id))
      (fs.alter ticket (·.letGo ticket)) := by
    refine h.alter own rfl rfl (fun _ same => by cases same) (fun _ => rfl)
      fun f listed same steps => ?_
    subst same
    exact (h.flight f listed).letGo steps
  have all_listed : (fs.leave ticket).all = (fs.alter ticket (·.letGo ticket)).all := by
    refine List.filter_eq_self.2 fun f listed => ?_
    rw [(left.flight f listed).listed, Bool.true_or]
  have same : fs.leave ticket = fs.alter ticket (·.letGo ticket) := by
    show ({ fs.alter ticket (·.letGo ticket) with all := (fs.leave ticket).all } : Flights) = _
    rw [all_listed]
  rw [same]
  exact left

/-- A call that has left its flight strikes it off unless somebody is aboard. -/
theorem retire (own : seats place = .leaving id) :
    AreManned (Function.update seats place .outside) (fs.retire id) := by
  have moves : Moves (Taken seats) (Taken (Function.update seats place .outside)) (.leaving id)
      .outside := moves_update own
  have before {there : Nat} {pass : String × Ticket}
      (passed : (Function.update seats place .outside there).pass = some pass) :
      (seats there).pass = some pass := by
    rcases pass_update passed with ⟨-, none_left⟩ | passed
    · cases none_left
    · exact passed
  refine ⟨fun f kept => ?_, (List.filter_sublist.map _).nodup h.single, ?_,
    fun there other id id' ticket passed passed' =>
      h.apart there other id id' ticket (before passed) (before passed'),
    fun there id' ticket passed => h.issued there id' ticket (before passed)⟩
  · -- A flight for the entity stays on the list only if others are aboard of it.
    obtain ⟨listed, kept⟩ := List.mem_filter.1 kept
    by_cases here : f.entityId = id
    · subst here
      have some_aboard : f.aboard ≠ [] := by
        rw [(h.isOpenFor_iff listed).2 rfl] at kept
        simpa using kept
      exact (h.flight f listed).retire some_aboard moves
    · exact (h.flight f listed).of_elsewhere moves
        (fun same => here (Option.some_inj.1 same).symm) (by simp [Seat.entity])
  · -- A flight that a call has a ticket for is not struck off.
    intro there id' ticket passed
    obtain ⟨f, listed, same⟩ := h.present there id' ticket (before passed)
    have aboard : ticket ∈ f.aboard := (h.mem_aboard_iff (before passed) listed).2 same
    refine ⟨f, List.mem_filter.2 ⟨listed, ?_⟩, same⟩
    have some_aboard : f.aboard.isEmpty = false := by
      cases none_left : f.aboard with
      | nil => rw [none_left] at aboard; cases aboard
      | cons => rfl
    rw [some_aboard, Bool.and_false]
    rfl

end AreManned

end Flights

end Federation
