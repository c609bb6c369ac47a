/-
# Pulls stay coherent

A source that pulls a document asks whether the one at hand has changed, and tells for that what it
was told when it loaded it. If what it tells did not belong to the entities it serves, it might be
told for ever that nothing has changed. So whatever has happened to its pulls, all that it has at
hand comes from one exchange with the server, the last one whose document was loaded, filtered and
not empty.

A history lists visits to the server, the last one first. Between two visits anything may happen
that leaves alone what is at hand.

## Main definitions

- `Network.noting`: a network that notes what passes over it.
- `Visit`, `PullSource.visit`: what passed over the network in a pull, and what came of it.
- `PullSource.Ends`: how a pull may end, given what was answered.
- `PullSource.Follows`: a history of visits.
- `Brought`, `Visit.Loads`: what a visit brings, and how it comes of the answer.
- `atHand`: what a history should leave at hand.

## Main results

- `PullSource.run_refresh`: a pull is one exchange, and an end that its answer admits.
- `PullSource.Follows.pulled_eq`: what is at hand is what the history should leave at hand.
- `PullSource.pulls_stay_coherent`: what is told to the server, what is served, and what changes.
-/

import Federation.Origin.Pull
import Federation.Proofs.Metadata.Canonical
import Federation.Proofs.Task.Runs

namespace Federation

open Federation.Metadata Federation.Time

/-! ## Answers from a snapshot -/

/-- Flattening a group that states nothing but its entities gives them as they are. -/
theorem Metadata.Group.flatten_ofEntities (entities : List Entity) :
    (Group.ofEntities entities).flatten = entities := by
  rw [ofEntities, flatten, Group.flattenWithin, Group.flattenAll, List.append_nil]
  simp [tighterInstant, tighterSeconds, Entity.within_none]

/-- A query for an ID is answered with a document of the entities that have it, in their order and
with nothing added; if there are none it is not answered. -/
theorem Snapshot.flatten_answer {entities : List Entity} {query : Criteria} {id : String}
    (asked : query.entityId = some id) :
    ((ofEntities entities).answer query = none ↔ ∀ e ∈ entities, e.entityId ≠ id) ∧
      ∀ document, (ofEntities entities).answer query = some document →
        document.flatten = entities.filter (·.entityId = id) := by
  have none_has_it : entities.filter (·.entityId = id) = [] ↔ ∀ e ∈ entities, e.entityId ≠ id := by
    simp
  rw [answer, asked, Option.bind_some, get?_ofEntities, ← none_has_it]
  cases entities.filter (·.entityId = id) with
  | nil => exact ⟨by simp, nofun⟩
  | cons e rest =>
    cases rest with
    | nil =>
      refine ⟨by simp, ?_⟩
      rintro _ ⟨⟩
      rfl
    | cons e' others =>
      refine ⟨by simp, ?_⟩
      rintro _ ⟨⟩
      exact Group.flatten_ofEntities _

theorem Snapshot.answer_of_no_id {snapshot : Snapshot} {query : Criteria}
    (asked : query.entityId = none) : snapshot.answer query = none := by
  rw [answer, asked]
  rfl

/-- If anything is left of one document, the filters have left of it a document that consists of
that. -/
theorem exists_left_of_filterDocuments {filters : FilterChain} {context : Filter.Context}
    {document : Document} {entities : List Entity}
    (filtered : filterDocuments filters context [document] = .ok entities)
    (nonempty : entities ≠ []) :
    ∃ left, FilterChain.apply context filters document = .ok (some left) ∧
      left.flatten = entities := by
  rw [filterDocuments] at filtered
  cases applied : FilterChain.apply context filters document with
  | error failure =>
    rw [applied] at filtered
    cases filtered
  | ok answer =>
    simp only [applied, filterDocuments, List.append_nil, Except.ok.injEq] at filtered
    cases answer with
    | none => exact absurd filtered.symm nonempty
    | some left => exact ⟨left, rfl, filtered⟩

namespace Origin

variable {ν : Type}

/-! ## Networks that note what passes -/

/-- A request, and what was answered. -/
structure Exchange where
  request : Request
  answer : Except String Response

/-- A network that notes what passes over it. -/
def Network.noting (network : Network ν) : Network (List Exchange × ν) where
  exchange request s :=
    ((network.exchange request s.2).1,
      s.1 ++ [⟨request, (network.exchange request s.2).1⟩], (network.exchange request s.2).2)

/-- A pull, told by what passed over the network and what came of it. -/
structure Visit where
  filters : FilterChain
  context : Filter.Context
  exchanges : List Exchange
  outcome : Outcome RefreshOutcome

namespace PullSource

variable {source : PullSource} {network : Network ν} {filters : FilterChain}
  {context : Filter.Context} {s : OriginScope (PullState ν)}

/-- A pull from a state. What passes is noted on the side. -/
def visit (source : PullSource) (network : Network ν) (filters : FilterChain)
    (context : Filter.Context) (s : OriginScope (PullState ν)) : Visit where
  filters := filters
  context := context
  exchanges := ((source.refresh network.noting filters context).run
    ⟨s.metrics, s.state.pulled, [], s.state.network⟩).2.state.network.1
  outcome := ((source.refresh network filters context).run s).1

theorem outcome_visit (source : PullSource) (network : Network ν) (filters : FilterChain)
    (context : Filter.Context) (s : OriginScope (PullState ν)) :
    (source.visit network filters context s).outcome
      = ((source.refresh network filters context).run s).1 := rfl

/-! ## One pull -/

/-- What a source asks for, and what it tells of what is at hand. -/
def request (source : PullSource) (pulled : Pulled) : Request :=
  ⟨source.address, "*/*", pulled.tag, pulled.modified⟩

/-- What is accepted of an answer. -/
def accepted (source : PullSource) (r : Response) : Outcome (Option Delivery) :=
  if r.status = 304 then .ok none
  else if r.isSuccess then
    match r.body with
    | .ok body => .ok (some ⟨body, r.header? "etag", r.header? "last-modified"⟩)
    | .error reason => .failed (brokenOff source.address reason)
  else .failed (refused source.address r)

theorem run_accept (source : PullSource) (r : Response) (s : OriginScope (PullState ν)) :
    (source.accept r).run s = (source.accepted r, s) := by
  rw [accept, accepted]
  split
  · rfl
  · cases r.isSuccess with
    | false => rfl
    | true =>
      cases body : r.body with
      | ok bytes => simp [bodyOf, body]
      | error reason =>
        simp only [bodyOf, body]
        rfl

/-- The answer to a request, or the failure that there is none, with the network as it is then. -/
theorem run_send (network : Network ν) (request : Request) (s : OriginScope ν) :
    (send network request).run s
      = (match (network.exchange request s.state).1 with
          | .ok r => .ok r
          | .error reason => .failed (unreached request.address reason),
        { s with state := (network.exchange request s.state).2 }) := by
  rw [send, Task.run_then, Task.run_pauseIf, Task.proceed_ok, Task.run_then, Task.run_perform,
    Task.proceed_ok]
  dsimp only
  cases (network.exchange request s.state).1 <;> rfl

theorem run_pull (source : PullSource) (network : Network ν) (s : OriginScope (PullState ν)) :
    (source.pull network).run s
      = (match (network.exchange (source.request s.state.pulled) s.state.network).1 with
          | .ok r => source.accepted r
          | .error reason => .failed (unreached source.address reason),
        { s with state.network :=
          (network.exchange (source.request s.state.pulled) s.state.network).2 }) := by
  rw [pull, Task.run_then, Task.run_read, Task.proceed_ok, Task.run_then, Task.run_on, run_send]
  show Task.proceed source.accept
    (match (network.exchange (source.request s.state.pulled) s.state.network).1 with
      | .ok r => Outcome.ok r
      | .error reason => .failed (unreached source.address reason), _) = _
  cases (network.exchange (source.request s.state.pulled) s.state.network).1 with
  | error reason => rfl
  | ok r => exact run_accept source r _

/-- How a pull may end, with what is at hand then, if something was at hand before and something was
answered. A new document ends it if the filters leave entities of it. -/
inductive Ends (source : PullSource) (filters : FilterChain) (context : Filter.Context)
    (pulled : Pulled) (answer : Except String Response) : Outcome RefreshOutcome → Pulled → Prop
  | updated {r : Response} {bytes : List UInt8} {document : Document} {delay : Delay}
      {left : Document} (answered : answer = .ok r) (success : r.isSuccess = true)
      (whole : r.body = .ok bytes) (loaded : Document.loadBytes bytes = .ok document)
      (scheduled : source.schedule.nextDelay document.cacheSeconds document.validUntil context.now
        = some delay)
      (filtered : FilterChain.apply context filters document = .ok (some left))
      (nonempty : left.flatten ≠ []) :
      Ends source filters context pulled answer (.ok (.updated left.flatten (some delay)))
        ⟨.ofEntities left.flatten, r.header? "etag", r.header? "last-modified", some delay⟩
  | unchanged {r : Response} (answered : answer = .ok r) (same : r.status = 304) :
      Ends source filters context pulled answer
        (.ok (.unchanged (some (pulled.delay.getD source.schedule.longest)))) pulled
  | failed (failure : Failure) : Ends source filters context pulled answer (.failed failure) pulled
  | overflow : Ends source filters context pulled answer .overflow pulled

/-- A delivery is loaded, or leaves alone what is at hand. The network is not needed for that. -/
theorem run_load (source : PullSource) (filters : FilterChain) (context : Filter.Context)
    (s : OriginScope (PullState ν)) {r : Response} {bytes : List UInt8}
    (success : r.isSuccess = true) (whole : r.body = .ok bytes) :
    let ran := (source.load filters context
      ⟨bytes, r.header? "etag", r.header? "last-modified"⟩).run s
    source.Ends filters context s.state.pulled (.ok r) ran.1 ran.2.state.pulled ∧
      ran.2.state.network = s.state.network := by
  simp only [load]
  cases loaded : Document.loadBytes bytes with
  | error failure => exact ⟨.failed _, rfl⟩
  | ok document =>
    dsimp only
    cases scheduled : source.schedule.nextDelay document.cacheSeconds document.validUntil
      context.now with
    | none => exact ⟨.overflow, rfl⟩
    | some delay =>
      cases filtered : filterDocuments filters context [document] with
      | error failure => exact ⟨.failed _, rfl⟩
      | ok entities =>
        cases entities with
        | nil => exact ⟨.failed _, rfl⟩
        | cons e rest =>
          -- Only here, when nothing can fail any longer, is anything at hand replaced.
          have nonempty : e :: rest ≠ [] := List.cons_ne_nil e rest
          obtain ⟨left, applied, same⟩ := exists_left_of_filterDocuments filtered nonempty
          rw [← same] at nonempty
          have ends : source.Ends filters context s.state.pulled (.ok r) _ _ :=
            .updated rfl success whole loaded scheduled applied nonempty
          rw [same] at ends
          exact ⟨ends, rfl⟩

/-- **A pull is one exchange**, in which the source tells what it was told of what is at hand, and
ends as the answer admits. -/
theorem run_refresh (source : PullSource) (network : Network ν) (filters : FilterChain)
    (context : Filter.Context) (s : OriginScope (PullState ν)) :
    let passed := network.exchange (source.request s.state.pulled) s.state.network
    let ran := (source.refresh network filters context).run s
    source.Ends filters context s.state.pulled passed.1 ran.1 ran.2.state.pulled ∧
      ran.2.state.network = passed.2 := by
  dsimp only
  rw [refresh, Task.run_then, Task.run_attempt, run_pull]
  generalize network.exchange (source.request s.state.pulled) s.state.network = passed
  obtain ⟨answer, world⟩ := passed
  cases answer with
  | error reason => exact ⟨.failed _, rfl⟩
  | ok r =>
    dsimp only
    rw [accepted]
    by_cases same : r.status = 304
    · rw [if_pos same]
      exact ⟨.unchanged rfl same, rfl⟩
    · rw [if_neg same]
      cases success : r.isSuccess with
      | false => exact ⟨.failed _, rfl⟩
      | true =>
        cases whole : r.body with
        | error reason => exact ⟨.failed _, rfl⟩
        | ok bytes =>
          exact run_load source filters context ⟨s.metrics, s.state.pulled, world⟩ success whole

/-- A pull that is answered with a new document, of which entities are left, ends with these. -/
theorem run_refresh_of_loaded (source : PullSource) (network : Network ν) (filters : FilterChain)
    (context : Filter.Context) (s : OriginScope (PullState ν)) {r : Response} {bytes : List UInt8}
    {document : Document} {delay : Delay} {entities : List Entity}
    (answered : (network.exchange (source.request s.state.pulled) s.state.network).1 = .ok r)
    (fresh : r.status ≠ 304) (success : r.isSuccess = true) (whole : r.body = .ok bytes)
    (loaded : Document.loadBytes bytes = .ok document)
    (scheduled : source.schedule.nextDelay document.cacheSeconds document.validUntil context.now
      = some delay)
    (filtered : filterDocuments filters context [document] = .ok entities)
    (nonempty : entities ≠ []) :
    ((source.refresh network filters context).run s).1 = .ok (.updated entities (some delay)) ∧
      ((source.refresh network filters context).run s).2.state.pulled
        = ⟨.ofEntities entities, r.header? "etag", r.header? "last-modified", some delay⟩ := by
  rw [refresh, Task.run_then, Task.run_attempt, run_pull, answered]
  simp only [accepted, fresh, success, whole, if_false, if_true, Task.proceed_ok, load, loaded,
    scheduled, filtered]
  obtain ⟨e, rest, rfl⟩ := List.exists_cons_of_ne_nil nonempty
  exact ⟨rfl, rfl⟩

/-- A pull that is answered that nothing has changed leaves alone what is at hand. -/
theorem run_refresh_of_unchanged (source : PullSource) (network : Network ν)
    (filters : FilterChain) (context : Filter.Context) (s : OriginScope (PullState ν))
    {r : Response}
    (answered : (network.exchange (source.request s.state.pulled) s.state.network).1 = .ok r)
    (same : r.status = 304) :
    ((source.refresh network filters context).run s).1
        = .ok (.unchanged (some (s.state.pulled.delay.getD source.schedule.longest))) ∧
      ((source.refresh network filters context).run s).2.state.pulled = s.state.pulled := by
  rw [refresh, Task.run_then, Task.run_attempt, run_pull, answered]
  simp only [accepted, same, if_true, Task.proceed_ok]
  exact ⟨rfl, rfl⟩

/-- What passes over the network in a pull is one exchange. -/
theorem visit_exchanges (source : PullSource) (network : Network ν) (filters : FilterChain)
    (context : Filter.Context) (s : OriginScope (PullState ν)) :
    (source.visit network filters context s).exchanges
      = [⟨source.request s.state.pulled,
          (network.exchange (source.request s.state.pulled) s.state.network).1⟩] :=
  congrArg Prod.fst (source.run_refresh network.noting filters context
    ⟨s.metrics, s.state.pulled, [], s.state.network⟩).2

end PullSource

/-! ## Histories -/

/-- What a pull brings: entities, what was told of them with the answer, and the delay that the
document asks for. -/
structure Brought where
  entities : List Entity
  tag : Option String
  modified : Option String
  delay : Option Delay

namespace Brought

/-- Nothing was brought yet. -/
def nothing : Brought := ⟨[], none, none, none⟩

/-- What was brought, as it is kept. -/
def kept (brought : Brought) : Pulled :=
  ⟨.ofEntities brought.entities, brought.tag, brought.modified, brought.delay⟩

end Brought

namespace Visit

/-- A header of the answer with which a visit ended. -/
def header? (visit : Visit) (name : String) : Option String :=
  match visit.exchanges.getLast? with
  | some ⟨_, .ok r⟩ => r.header? name
  | _ => none

/-- What a pull brought, if it ended with something new: the entities and the delay that came of it,
and what was told of them with the answer. -/
def brought? (visit : Visit) : Option Brought :=
  match visit.outcome with
  | .ok (.updated entities next) =>
    some ⟨entities, visit.header? "etag", visit.header? "last-modified", next⟩
  | _ => none

theorem brought?_eq_none_iff {visit : Visit} :
    visit.brought? = none ↔ ∀ entities next, visit.outcome ≠ .ok (.updated entities next) := by
  rw [brought?]
  constructor
  · intro nothing entities next ended
    rw [ended] at nothing
    cases nothing
  · intro nothing
    split
    · rename_i entities next ended
      exact absurd ended (nothing entities next)
    · rfl

/-- What came of a visit came of the one answer in it: what is to be told to the server was told
with that answer, and the document in it gave the delay. The filters of the visit have left a
document of it, and the entities of that, of which there are some, are what was brought. -/
inductive Loads (visit : Visit) (source : PullSource) : Brought → Prop
  | intro {request : Request} {r : Response} {bytes : List UInt8} {document left : Document}
      {delay : Delay} (passed : visit.exchanges = [⟨request, .ok r⟩])
      (success : r.isSuccess = true) (whole : r.body = .ok bytes)
      (loaded : Document.loadBytes bytes = .ok document)
      (scheduled : source.schedule.nextDelay document.cacheSeconds document.validUntil
        visit.context.now = some delay)
      (filtered : FilterChain.apply visit.context visit.filters document = .ok (some left))
      (nonempty : left.flatten ≠ []) :
      Loads visit source ⟨left.flatten, r.header? "etag", r.header? "last-modified", some delay⟩

end Visit

/-- What should be at hand after some visits, the last one first: what was brought last. -/
def atHand (visits : List Visit) : Brought := (visits.findSome? Visit.brought?).getD .nothing

theorem atHand_cons (visit : Visit) (visits : List Visit) :
    atHand (visit :: visits) = visit.brought?.getD (atHand visits) := by
  rw [atHand, atHand, List.findSome?_cons]
  cases visit.brought? <;> rfl

namespace PullSource

variable {source : PullSource} {network : Network ν} {visits : List Visit} {visit : Visit}
  {s : OriginScope (PullState ν)}

/-- A source, with nothing at hand at first, has come to a state by some visits, the last one first.
Between them anything may have happened to the metrics and to the network. -/
inductive Follows (source : PullSource) (network : Network ν) :
    List Visit → OriginScope (PullState ν) → Prop
  | start (metrics : Metrics) (world : ν) : Follows source network [] ⟨metrics, .empty, world⟩
  | meanwhile {visits : List Visit} {s s' : OriginScope (PullState ν)}
      (earlier : Follows source network visits s) (same : s'.state.pulled = s.state.pulled) :
      Follows source network visits s'
  | visit {visits : List Visit} {s : OriginScope (PullState ν)}
      (earlier : Follows source network visits s) (filters : FilterChain)
      (context : Filter.Context) :
      Follows source network (source.visit network filters context s :: visits)
        ((source.refresh network filters context).run s).2

/-- **One pull.** What is at hand after a pull is what it brought, and otherwise what was at hand
before; and it brings only what it loads. -/
theorem pulled_refresh (source : PullSource) (network : Network ν) (filters : FilterChain)
    (context : Filter.Context) (s : OriginScope (PullState ν)) :
    ((source.refresh network filters context).run s).2.state.pulled
        = ((source.visit network filters context s).brought?.map Brought.kept).getD
          s.state.pulled ∧
      ∀ brought, (source.visit network filters context s).brought? = some brought →
        (source.visit network filters context s).Loads source brought := by
  have passed := source.visit_exchanges network filters context s
  have ends : source.Ends filters context s.state.pulled _
      (source.visit network filters context s).outcome _ :=
    (source.run_refresh network filters context s).1
  rw [Visit.brought?, Visit.header?, Visit.header?, passed]
  generalize (network.exchange (source.request s.state.pulled) s.state.network).1 = answer
    at passed ends ⊢
  generalize (source.visit network filters context s).outcome = outcome at ends ⊢
  generalize ((source.refresh network filters context).run s).2.state.pulled = later at ends ⊢
  cases ends with
  | updated answered success whole loaded scheduled filtered nonempty =>
    subst answered
    refine ⟨rfl, ?_⟩
    rintro _ ⟨⟩
    exact .intro passed success whole loaded scheduled filtered nonempty
  | unchanged answered same => exact ⟨rfl, nofun⟩
  | failed failure => exact ⟨rfl, nofun⟩
  | overflow => exact ⟨rfl, nofun⟩

namespace Follows

/-- **All pulls.** What is at hand is what was brought last. -/
theorem pulled_eq (history : source.Follows network visits s) :
    s.state.pulled = (atHand visits).kept := by
  induction history with
  | start metrics world => rfl
  | meanwhile earlier same ih => rw [same, ih]
  | visit earlier filters context ih =>
    rw [(source.pulled_refresh network filters context _).1, ih, atHand_cons]
    cases (source.visit network filters context _).brought? <;> rfl

/-- Whatever was brought came of the one answer in the visit. -/
theorem loads (history : source.Follows network visits s) {brought : Brought}
    (listed : visit ∈ visits) (brings : visit.brought? = some brought) :
    visit.Loads source brought := by
  induction history with
  | start metrics world => cases listed
  | meanwhile earlier same ih => exact ih listed
  | visit earlier filters context ih =>
    rcases List.mem_cons.1 listed with rfl | listed
    · exact (source.pulled_refresh network filters context _).2 brought brings
    · exact ih listed

end Follows

end PullSource

namespace PullSource

variable {source : PullSource} {network : Network ν} {visits : List Visit}
  {s : OriginScope (PullState ν)}

/-- **Pulls stay coherent.** After any visits, all that is at hand was brought by the last visit
that ended with something new, and all of it came of the one answer in that visit: the entities are
those that the filters left of its document. The next visit tells the server what was told with that
answer, and leaves everything at hand alone unless it ends with something new itself. A query for an
ID is answered with the entities of that visit that have the ID, in their order. -/
theorem pulls_stay_coherent (history : source.Follows network visits s) :
    s.state.pulled = (atHand visits).kept ∧
    (∀ visit ∈ visits, ∀ brought, visit.brought? = some brought → visit.Loads source brought) ∧
    (∀ (filters : FilterChain) (context : Filter.Context),
      let visit := source.visit network filters context s
      let later := ((source.refresh network filters context).run s).2.state.pulled
      (∃ answer, visit.exchanges =
        [⟨⟨source.address, "*/*", (atHand visits).tag, (atHand visits).modified⟩, answer⟩]) ∧
      later = (atHand (visit :: visits)).kept ∧
      ((∀ entities next, visit.outcome ≠ .ok (.updated entities next)) →
        later = s.state.pulled)) ∧
    ∀ query, ∃ found, ((source.origin network).fetch query).run s = (.ok found, s) ∧
      (query.entityId = none → found = none) ∧
      ∀ id, query.entityId = some id →
        (found = none ↔ ∀ e ∈ (atHand visits).entities, e.entityId ≠ id) ∧
        ∀ document, found = some document →
          document.flatten = (atHand visits).entities.filter (·.entityId = id) := by
  have same := history.pulled_eq
  refine ⟨same, fun visit listed brought => history.loads listed, fun filters context => ?_,
    fun query => ⟨s.state.pulled.snapshot.answer query, rfl, Snapshot.answer_of_no_id, ?_⟩⟩
  · -- A visit asks with the validators that the visits before have left, and brings something or
    -- changes nothing.
    intro visit later
    have brings : later = (visit.brought?.map Brought.kept).getD s.state.pulled :=
      (source.pulled_refresh network filters context s).1
    refine ⟨?_, (history.visit filters context).pulled_eq, fun nothing_new => ?_⟩
    · have passed := source.visit_exchanges network filters context s
      rw [same] at passed
      exact ⟨_, passed⟩
    · rw [brings, Visit.brought?_eq_none_iff.2 nothing_new]
      rfl
  · intro id asked
    rw [same]
    exact Snapshot.flatten_answer asked

/-- A network that gives prepared answers. -/
def replay : Network (List (Except String Response)) where
  exchange _ answers :=
    match answers with
    | [] => (.error "connection refused", [])
    | answer :: rest => (answer, rest)

/-- A source that is pulled at the standard times. -/
def federation : PullSource := ⟨"http", "https://federation.example.org/metadata", .standard⟩

/-- An entity with the ID of an identity provider, and the authority that has registered it. -/
def registeredBy (authority : String) : Entity :=
  { Entity.ofId "https://idp.example.org" with registrar := some authority }

/-- An entity that the filters will not let pass. -/
def unwanted : Entity := .ofId "https://unwanted.example.org"

/-- An entity of its own. -/
def provider : Entity := .ofId "https://sp.example.org"

/-- What the source describes. Two of the entities have the same ID. -/
def described : Group :=
  .ofEntities [registeredBy "https://a.example.org", unwanted, provider,
    registeredBy "https://b.example.org"]

/-- The document with the entities, as it will come. -/
def delivered : Delivery := ⟨Text.utf8 (Document.group described).canonical, some "v1", none⟩

/-- The answer with this document. -/
def description : Response := ⟨200, [("etag", "v1")], .ok delivered.body⟩

/-- Nothing is at hand. The source will describe its entities, and then say that nothing has
changed. -/
def prepared : OriginScope (PullState (List (Except String Response))) :=
  ⟨.empty, .empty, [.ok description, .ok ⟨304, [], .ok []⟩]⟩

/-- The context of all pulls. -/
def pulling : Filter.Context := ⟨⟨0, 0⟩, "http"⟩

/-- The filters of all pulls. -/
def choosing : FilterChain := [.entityIds .excluding ["https://unwanted.example.org"]]

/-- What is brought once the source has described its entities. -/
def chosen : Brought :=
  ⟨[registeredBy "https://a.example.org", provider, registeredBy "https://b.example.org"],
    some "v1", none, some (.ofSeconds 14400)⟩

theorem header_description :
    description.header? "etag" = some "v1" ∧ description.header? "last-modified" = none := by
  decide

theorem run_pull_prepared : ((federation.pull replay).run prepared).1 = .ok (some delivered) := by
  have fresh : description.status ≠ 304 := by decide
  have success : description.isSuccess = true := by decide
  have accepted : federation.accepted description = .ok (some delivered) := by
    have body : description.body = .ok delivered.body := by rw [description]
    simp only [accepted, fresh, success, body, header_description, if_false, if_true]
    rw [delivered]
  rw [run_pull]
  exact accepted

theorem described_inBounds : described.InBounds := by
  refine .intro nofun nofun (fun e among => ?_) nofun
  have stated : e.roles = [] ∧ e.validUntil = none ∧ e.cacheSeconds = none := by
    revert e
    decide
  obtain ⟨roles, validUntil, cacheSeconds⟩ := stated
  exact ⟨by simp [roles], by simp [validUntil], by simp [cacheSeconds]⟩

theorem loadBytes_delivered : Document.loadBytes delivered.body = .ok (.group described) := by
  have shallow : described.nesting ≤ 60 := by decide
  rw [delivered, Document.loadBytes, Document.parseBytes_utf8,
    Document.parse_group described_inBounds shallow]
  rfl

theorem filterDocuments_described :
    filterDocuments choosing pulling [.group described] = .ok chosen.entities := rfl

/-- The first visit. -/
theorem run_refresh_prepared :
    ((federation.refresh replay choosing pulling).run prepared).1
        = .ok (.updated chosen.entities chosen.delay) ∧
      ((federation.refresh replay choosing pulling).run prepared).2.state
        = ⟨chosen.kept, [.ok ⟨304, [], .ok []⟩]⟩ := by
  obtain ⟨outcome, pulled⟩ := run_refresh_of_loaded federation replay choosing pulling prepared
    (r := description) rfl (by decide) rfl rfl loadBytes_delivered rfl filterDocuments_described
    (List.cons_ne_nil _ _)
  have world := (run_refresh federation replay choosing pulling prepared).2
  refine ⟨outcome, ?_⟩
  generalize ((federation.refresh replay choosing pulling).run prepared).2.state = after
    at pulled world ⊢
  obtain ⟨_, _⟩ := after
  obtain rfl := pulled
  obtain rfl := world
  rfl

/-- The second visit leaves alone what the first has brought, and the third tells what was told in
the first. Of the entities that share an ID both are served, in their order, and the one that the
filters did not let pass is not. -/
theorem pulls_stay_coherent_prepared : ∃ visits s,
    federation.Follows replay visits s ∧ visits.length = 2 ∧ atHand visits = chosen ∧
      (∃ answer, (federation.visit replay choosing pulling s).exchanges
        = [⟨⟨federation.address, "*/*", some "v1", none⟩, answer⟩]) ∧
      (∃ document, ((federation.origin replay).fetch
          { entityId := some "https://idp.example.org" }).run s = (.ok (some document), s) ∧
        document.flatten
          = [registeredBy "https://a.example.org", registeredBy "https://b.example.org"]) ∧
      ((federation.origin replay).fetch
        { entityId := some "https://unwanted.example.org" }).run s = (.ok none, s) := by
  -- The first visit brings what the description says.
  have none_yet : federation.Follows replay [] prepared := .start .empty prepared.state.network
  have first := none_yet.visit choosing pulling
  have brought_first : (federation.visit replay choosing pulling prepared).brought?
      = some chosen := by
    have outcome : (federation.visit replay choosing pulling prepared).outcome
        = .ok (.updated chosen.entities chosen.delay) := by
      rw [outcome_visit]
      exact run_refresh_prepared.1
    have passed : (federation.visit replay choosing pulling prepared).exchanges
        = [⟨federation.request .empty, .ok description⟩] :=
      visit_exchanges federation replay choosing pulling prepared
    obtain ⟨tag, modified⟩ := header_description
    rw [Visit.brought?, Visit.header?, Visit.header?, passed, outcome]
    simp only [List.getLast?_singleton, tag, modified]
    rfl
  have came := run_refresh_prepared.2
  generalize ((federation.refresh replay choosing pulling).run prepared).2 = s₁ at first came
  -- In the second the server answers that nothing has changed.
  have answered : (replay.exchange (federation.request s₁.state.pulled) s₁.state.network).1
      = .ok ⟨304, [], .ok []⟩ := by
    rw [came]
    rfl
  have second := first.visit choosing pulling
  have brought_second : (federation.visit replay choosing pulling s₁).brought? = none := by
    have unchanged :=
      (run_refresh_of_unchanged federation replay choosing pulling s₁ answered rfl).1
    rw [← outcome_visit] at unchanged
    rw [Visit.brought?, unchanged]
  generalize ((federation.refresh replay choosing pulling).run s₁).2 = s₂ at second
  have brought : atHand [federation.visit replay choosing pulling s₁,
      federation.visit replay choosing pulling prepared] = chosen := by
    rw [atHand_cons, atHand_cons, brought_second, brought_first]
    rfl
  -- So what is told and served next is what the first visit brought.
  obtain ⟨-, -, next, answers⟩ := pulls_stay_coherent second
  obtain ⟨⟨answer, passed⟩, -⟩ := next choosing pulling
  obtain ⟨shared, fetched, -, found⟩ := answers { entityId := some "https://idp.example.org" }
  obtain ⟨no_unwanted, fetched', -, lost⟩ :=
    answers { entityId := some "https://unwanted.example.org" }
  rw [brought] at passed found lost
  have own : chosen.entities.filter (·.entityId = "https://idp.example.org")
      = [registeredBy "https://a.example.org", registeredBy "https://b.example.org"] := by
    simp [chosen, registeredBy, provider, Entity.ofId]
  have unserved : ∀ e ∈ chosen.entities, e.entityId ≠ "https://unwanted.example.org" := by
    simp [chosen, registeredBy, provider, Entity.ofId]
  obtain rfl : no_unwanted = none := (lost _ rfl).1.2 unserved
  obtain ⟨nothing_iff, flattened⟩ := found _ rfl
  rw [own] at flattened
  obtain ⟨document, rfl⟩ : ∃ document, shared = some document := by
    refine Option.ne_none_iff_exists'.1 fun nothing => ?_
    have listed : registeredBy "https://a.example.org" ∈ chosen.entities := List.mem_cons_self
    exact nothing_iff.1 nothing _ listed rfl
  exact ⟨_, s₂, second, rfl, brought, ⟨answer, passed⟩, ⟨document, fetched, flattened document rfl⟩,
    fetched'⟩

end PullSource

end Origin

end Federation
