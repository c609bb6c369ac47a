/-
# When pulls come next

A pull that ends well tells when the next one is due. With a new document that is reckoned from what
the document states and from the instant of the pull. When nothing has changed it is not reckoned
again: the delay is the one that was reckoned when the document at hand was loaded. The two agree
for a document that states no end of its validity, and as long as the time for which it may be
cached is the shorter bound. Otherwise the time that is left dwindles and the delay does not, and
the next pull may be due when the document at hand is no longer valid.

## Main definitions

- `Visit.loaded?`: the document that a visit has loaded, with the filters and the context in which
  it did.
- `served`: the document of which a history serves the entities.
- `PullSource.due`: the delay that a document asks for at an instant.

## Main results

- `PullSource.Follows.delay_eq`: the delay at hand is the one that the document asked for when it
  was loaded.
- `PullSource.reschedules_iff`: when the delay after a pull is the one that the document asks for at
  that instant.
- `PullSource.unchanged_outlasts_validity`: a pull that finds nothing changed and puts the next one
  after the end of the validity.
-/

import Federation.Proofs.Origin.Pulling

namespace Federation

open Federation.Metadata Federation.Time

namespace Origin

variable {ν : Type}

/-! ## The delay that a document asks for -/

/-- What is left of a document's validity. -/
def Schedule.remaining (validUntil now : Instant) : Delay :=
  (Delay.ofSpan? (validUntil.span now)).getD Delay.zero

/-- A document that states no end of its validity may be used as long at any instant. -/
theorem Schedule.lifetime_of_no_validUntil (cacheSeconds : Option Nat) (now now' : Instant) :
    Schedule.lifetime cacheSeconds none now = Schedule.lifetime cacheSeconds none now' := by
  cases cacheSeconds <;> rfl

/-- While a document is valid for longer than it may be cached, the latter alone counts. -/
theorem Schedule.lifetime_of_le_remaining {seconds : Nat} {validUntil now : Instant}
    (valid : Delay.ofSeconds seconds ≤ Schedule.remaining validUntil now) :
    Schedule.lifetime (some seconds) (some validUntil) now = some (.ofSeconds seconds) := by
  show some ((Delay.ofSeconds seconds).min (Schedule.remaining validUntil now)) = _
  exact congrArg some (if_neg (Nat.not_lt.2 valid))

/-- The delay that a document asks for at an instant. -/
def PullSource.due (source : PullSource) (document : Document) (now : Instant) : Option Delay :=
  source.schedule.nextDelay document.cacheSeconds document.validUntil now

theorem PullSource.due_congr (source : PullSource) {document : Document} {now now' : Instant}
    (same : Schedule.lifetime document.cacheSeconds document.validUntil now
      = Schedule.lifetime document.cacheSeconds document.validUntil now') :
    source.due document now = source.due document now' := by
  rw [due, due, Schedule.nextDelay, Schedule.nextDelay, same]

/-! ## The document that is served -/

/-- A document that was loaded, with the filters and the context in which it was. -/
structure Loaded where
  document : Document
  filters : FilterChain
  context : Filter.Context

/-- The document in an answer, if there is one. -/
def Exchange.document? (exchange : Exchange) : Option Document :=
  match exchange.answer with
  | .ok ⟨_, _, .ok bytes⟩ => (Document.loadBytes bytes).toOption
  | _ => none

/-- What a visit has loaded, if it ended with something new. -/
def Visit.loaded? (visit : Visit) : Option Loaded :=
  match visit.outcome with
  | .ok (.updated _ _) =>
    (visit.exchanges.getLast?.bind Exchange.document?).map (⟨·, visit.filters, visit.context⟩)
  | _ => none

/-- The document of which the entities are served after some visits, the last one first. -/
def served (visits : List Visit) : Option Loaded := visits.findSome? Visit.loaded?

theorem served_cons (visit : Visit) (visits : List Visit) :
    served (visit :: visits) = visit.loaded?.or (served visits) := by
  rw [served, served, List.findSome?_cons]
  cases visit.loaded? <;> rfl

namespace PullSource

variable {source : PullSource} {network : Network ν} {visits : List Visit}
  {s : OriginScope (PullState ν)}

/-- What is at hand belongs to the document that is served: the entities that the filters left of it
when it was loaded, and the delay that it asked for then. -/
inductive Serves (source : PullSource) : Option Loaded → Pulled → Prop
  | nothing : Serves source none .empty
  | loaded {l : Loaded} {left : Document} {tag modified : Option String} {delay : Delay}
      (scheduled : source.due l.document l.context.now = some delay)
      (filtered : FilterChain.apply l.context l.filters l.document = .ok (some left)) :
      Serves source (some l) ⟨.ofEntities left.flatten, tag, modified, some delay⟩

/-- **One pull.** If what is at hand belongs to the document that is served, then so it does after a
pull. One with a new document is scheduled by it for the instant of the pull. One that finds nothing
changed is scheduled by what is at hand. -/
theorem serves_refresh (source : PullSource) (network : Network ν) (filters : FilterChain)
    (context : Filter.Context) (s : OriginScope (PullState ν)) {before : Option Loaded}
    (serves : source.Serves before s.state.pulled) :
    let visit := source.visit network filters context s
    source.Serves (visit.loaded?.or before)
        ((source.refresh network filters context).run s).2.state.pulled ∧
      (∀ entities next, visit.outcome = .ok (.updated entities next) →
        ∃ document, visit.loaded? = some ⟨document, filters, context⟩ ∧
          next = source.due document context.now) ∧
      ∀ next, visit.outcome = .ok (.unchanged next) →
        visit.loaded? = none ∧
          next = some (s.state.pulled.delay.getD source.schedule.longest) := by
  intro visit
  have passed := source.visit_exchanges network filters context s
  have ends : source.Ends filters context s.state.pulled _ visit.outcome _ :=
    (source.run_refresh network filters context s).1
  generalize (network.exchange (source.request s.state.pulled) s.state.network).1 = answer
    at passed ends
  have loads : visit.loaded? = match visit.outcome with
      | .ok (.updated _ _) =>
        (Exchange.document? ⟨source.request s.state.pulled, answer⟩).map (⟨·, filters, context⟩)
      | _ => none := by
    rw [Visit.loaded?, passed]
    rfl
  rw [loads]
  generalize visit.outcome = outcome at ends ⊢
  generalize ((source.refresh network filters context).run s).2.state.pulled = after at ends ⊢
  cases ends with
  | @updated r bytes document delay left answered success whole loaded scheduled filtered _ =>
    -- A document that was loaded is the one in the body of the answer.
    have brought : Exchange.document? ⟨source.request s.state.pulled, answer⟩
        = some document := by
      obtain ⟨status, headers, body⟩ := r
      subst answered
      obtain rfl : body = .ok bytes := whole
      show (Document.loadBytes bytes).toOption = some document
      rw [loaded]
      rfl
    simp only [brought, Option.map_some, Option.some_or]
    refine ⟨.loaded scheduled filtered, ?_, nofun⟩
    rintro _ _ ⟨⟩
    exact ⟨document, rfl, scheduled.symm⟩
  | unchanged answered same =>
    -- Nothing was read, so that the delay of the document before is told once more.
    refine ⟨serves, nofun, ?_⟩
    rintro _ ⟨⟩
    exact ⟨rfl, rfl⟩
  | failed failure => exact ⟨serves, nofun, nofun⟩
  | overflow => exact ⟨serves, nofun, nofun⟩

namespace Follows

/-- **All pulls.** What is at hand belongs to the document that is served. -/
theorem serves (history : source.Follows network visits s) :
    source.Serves (served visits) s.state.pulled := by
  induction history with
  | start metrics world => exact .nothing
  | meanwhile earlier same ih =>
    rw [same]
    exact ih
  | visit earlier filters context ih =>
    rw [served_cons]
    exact (source.serves_refresh network filters context _ ih).1

/-- The delay at hand is the one that the document asked for when it was loaded. -/
theorem delay_eq (history : source.Follows network visits s) :
    s.state.pulled.delay
      = (served visits).bind fun l => source.due l.document l.context.now := by
  generalize served visits = before, s.state.pulled = pulled, history.serves = serves
  cases serves with
  | nothing => rfl
  | loaded scheduled filtered => exact scheduled.symm

end Follows

/-- **When pulls come next.** After any visits, the next one that ends with a new document is
followed by another after the delay that this document asks for at the instant of the visit. One
that finds nothing changed, with nothing at hand, is followed by another after the longest delay.
With entities of some document at hand it is followed by another after the delay that this document
asked for when it was loaded. So its delay is what the document asks for at the instant of the visit
just if the document asks for the same at both instants; it does if it may be used as long from
either, above all if it states no end of its validity, or is valid from both for longer than it may
be cached. -/
theorem reschedules_iff (history : source.Follows network visits s) (filters : FilterChain)
    (context : Filter.Context) :
    let visit := source.visit network filters context s
    (∀ entities next, visit.outcome = .ok (.updated entities next) →
      ∃ document, served (visit :: visits) = some ⟨document, filters, context⟩ ∧
        next = source.due document context.now) ∧
    ∀ next, visit.outcome = .ok (.unchanged next) →
      served (visit :: visits) = served visits ∧
      (served visits = none → next = some source.schedule.longest) ∧
      ∀ l, served visits = some l →
        (∃ left, FilterChain.apply l.context l.filters l.document = .ok (some left) ∧
          s.state.pulled.snapshot = .ofEntities left.flatten) ∧
        next = source.due l.document l.context.now ∧
        (next = source.due l.document context.now ↔
          source.due l.document l.context.now = source.due l.document context.now) ∧
        (Schedule.lifetime l.document.cacheSeconds l.document.validUntil l.context.now
            = Schedule.lifetime l.document.cacheSeconds l.document.validUntil context.now →
          next = source.due l.document context.now) ∧
        (l.document.validUntil = none → next = source.due l.document context.now) ∧
        ∀ seconds validUntil, l.document.cacheSeconds = some seconds →
          l.document.validUntil = some validUntil →
          Delay.ofSeconds seconds ≤ Schedule.remaining validUntil l.context.now →
          Delay.ofSeconds seconds ≤ Schedule.remaining validUntil context.now →
          next = source.due l.document context.now := by
  intro visit
  obtain ⟨-, updates, keeps⟩ := source.serves_refresh network filters context s history.serves
  rw [served_cons]
  refine ⟨fun entities next ended => ?_, fun next ended => ?_⟩
  · obtain ⟨document, loads, scheduled⟩ := updates entities next ended
    exact ⟨document, by rw [loads]; rfl, scheduled⟩
  -- The document has not changed: the delay is that of the visit at which it was loaded.
  obtain ⟨nothing_new, scheduled⟩ := keeps next ended
  refine ⟨by rw [nothing_new]; rfl, fun nothing => ?_, fun l serving => ?_⟩
  · rw [scheduled, history.delay_eq, nothing]
    rfl
  have serves : source.Serves (some l) s.state.pulled := serving ▸ history.serves
  have kept : next = source.due l.document l.context.now ∧
      ∃ left, FilterChain.apply l.context l.filters l.document = .ok (some left) ∧
        s.state.pulled.snapshot = .ofEntities left.flatten := by
    rw [scheduled]
    generalize s.state.pulled = pulled at serves ⊢
    cases serves with
    | loaded asked filtered => exact ⟨asked.symm, _, filtered, rfl⟩
  obtain ⟨kept, filtered⟩ := kept
  -- What is due depends on the instant by the lifetime of the document only.
  have of_lifetime
      (same : Schedule.lifetime l.document.cacheSeconds l.document.validUntil l.context.now
        = Schedule.lifetime l.document.cacheSeconds l.document.validUntil context.now) :
      next = source.due l.document context.now :=
    kept.trans (source.due_congr same)
  refine ⟨filtered, kept, by rw [kept], of_lifetime, fun unbounded => ?_,
    fun seconds validUntil cached bounded then_ now_ => ?_⟩
  · apply of_lifetime
    rw [unbounded]
    exact Schedule.lifetime_of_no_validUntil _ _ _
  · apply of_lifetime
    rw [cached, bounded, Schedule.lifetime_of_le_remaining then_,
      Schedule.lifetime_of_le_remaining now_]

/-! ### At work -/

/-- A pull that is answered with a new document, of which entities are left, loads it. -/
theorem visit_of_loaded (source : PullSource) (network : Network ν) (filters : FilterChain)
    (context : Filter.Context) (s : OriginScope (PullState ν)) {r : Response} {bytes : List UInt8}
    {document : Document} {delay : Delay} {entities : List Entity}
    (answered : (network.exchange (source.request s.state.pulled) s.state.network).1 = .ok r)
    (fresh : r.status ≠ 304) (success : r.isSuccess = true) (whole : r.body = .ok bytes)
    (loaded : Document.loadBytes bytes = .ok document)
    (scheduled : source.due document context.now = some delay)
    (filtered : filterDocuments filters context [document] = .ok entities)
    (nonempty : entities ≠ []) :
    (source.visit network filters context s).outcome = .ok (.updated entities (some delay)) ∧
      (source.visit network filters context s).loaded? = some ⟨document, filters, context⟩ := by
  have ended := (source.run_refresh_of_loaded network filters context s answered fresh success
    whole loaded scheduled filtered nonempty).1
  rw [← outcome_visit] at ended
  refine ⟨ended, ?_⟩
  -- The visit notes the one exchange that there was.
  have passed : (source.visit network filters context s).exchanges
      = [⟨source.request s.state.pulled, .ok r⟩] := by
    rw [← answered]
    exact source.visit_exchanges network filters context s
  have brought : Exchange.document? ⟨source.request s.state.pulled, .ok r⟩ = some document := by
    obtain ⟨status, headers, body⟩ := r
    obtain rfl : body = .ok bytes := whole
    show (Document.loadBytes bytes).toOption = some document
    rw [loaded]
    rfl
  rw [Visit.loaded?, ended, passed]
  show (Exchange.document? ⟨source.request s.state.pulled, .ok r⟩).map _ = _
  rw [brought]
  rfl

/-- An entity whose description is valid for two hours. -/
def passing : Entity := { Entity.ofId "https://idp.example.org" with validUntil := some ⟨7200, 0⟩ }

/-- The entity with the text from which it is read. -/
def readPassing : Entity := { passing with wireForm := some passing.canonical }

/-- The source will describe its entity, and then say that nothing has changed. -/
def answers : List (Except String Response) :=
  [.ok ⟨200, [("etag", "v1")], .ok (Text.utf8 passing.canonical)⟩, .ok ⟨304, [], .ok []⟩]

/-- Nothing is at hand before the first pull. -/
def awaiting : OriginScope (PullState (List (Except String Response))) := ⟨.empty, .empty, answers⟩

/-- An hour and a half after the first pull. -/
def afterwards : Filter.Context := ⟨⟨5400, 0⟩, "http"⟩

/-- The state after the first pull. -/
def acquainted : OriginScope (PullState (List (Except String Response))) :=
  ((federation.refresh replay [] pulling).run awaiting).2

/-- The first pull. -/
def acquaintance : Visit := federation.visit replay [] pulling awaiting

theorem follows_acquainted : federation.Follows replay [acquaintance] acquainted := by
  have none_yet : federation.Follows replay [] awaiting := .start .empty answers
  rw [acquaintance, acquainted]
  exact none_yet.visit [] pulling

theorem loadBytes_passing :
    Document.loadBytes (Text.utf8 passing.canonical) = .ok (.entity readPassing) := by
  have bounds : passing.InBounds := by
    refine ⟨nofun, ?_, nofun⟩
    rintro _ ⟨⟩
    exact ⟨by decide, by decide, by decide, nofun⟩
  rw [Document.loadBytes, Document.parseBytes_utf8, Document.parse_entity bounds]
  rfl

theorem due_pulling :
    federation.due (.entity readPassing) pulling.now = some (.ofSeconds 5400) := by
  decide +kernel

theorem due_afterwards :
    federation.due (.entity readPassing) afterwards.now = some (.ofSeconds 1350) := by
  decide +kernel

/-- The first pull ends with the new document, which asks for the next one after an hour and a
half. -/
theorem acquaintance_loads :
    acquaintance.outcome = .ok (.updated [readPassing] (some (.ofSeconds 5400))) ∧
      acquaintance.loaded? = some ⟨.entity readPassing, [], pulling⟩ := by
  rw [acquaintance]
  exact visit_of_loaded federation replay [] pulling awaiting rfl (by decide) rfl rfl
    loadBytes_passing due_pulling rfl (List.cons_ne_nil readPassing [])

theorem served_acquaintance :
    served [acquaintance] = some ⟨.entity readPassing, [], pulling⟩ := by
  rw [served_cons, acquaintance_loads.2]
  rfl

/-- Nothing has changed an hour and a half after the first pull. -/
theorem outcome_afterwards :
    (federation.visit replay [] afterwards acquainted).outcome
      = .ok (.unchanged (some (.ofSeconds 5400))) := by
  have delay : acquainted.state.pulled.delay = some (.ofSeconds 5400) := by
    rw [follows_acquainted.delay_eq, served_acquaintance, Option.bind_some, due_pulling]
  have network : acquainted.state.network = [.ok ⟨304, [], .ok []⟩] := by
    rw [acquainted, (run_refresh federation replay [] pulling awaiting).2]
    rfl
  have answered : (replay.exchange (federation.request acquainted.state.pulled)
      acquainted.state.network).1 = .ok ⟨304, [], .ok []⟩ := by
    rw [network]
    rfl
  rw [outcome_visit,
    (run_refresh_of_unchanged federation replay [] afterwards acquainted answered rfl).1, delay]
  rfl

/-- The second pull is followed by another after the delay that the document asked for when it was
loaded. -/
theorem reschedules_afterwards : ∃ visits s l, federation.Follows replay visits s ∧
    served visits = some l ∧
    (federation.visit replay [] afterwards s).outcome
      = .ok (.unchanged (federation.due l.document l.context.now)) := by
  obtain ⟨-, keeps⟩ := reschedules_iff follows_acquainted [] afterwards
  obtain ⟨-, -, scheduled⟩ := keeps _ outcome_afterwards
  obtain ⟨-, kept, -⟩ := scheduled _ served_acquaintance
  refine ⟨_, _, _, follows_acquainted, served_acquaintance, ?_⟩
  rw [← kept]
  exact outcome_afterwards

/-- A document is loaded two hours before its validity ends. A pull after an hour and a half finds
nothing changed. The half hour that is left asks for another pull within it, but the next one comes
only after one and a half hours more, and for the last of these the entities that are served are
no longer valid. -/
theorem unchanged_outlasts_validity : ∃ visits s l, federation.Follows replay visits s ∧
    served visits = some l ∧ l.document.cacheSeconds = none ∧
    l.document.validUntil = some ⟨7200, 0⟩ ∧ afterwards.now = ⟨5400, 0⟩ ∧
    (federation.visit replay [] afterwards s).outcome
      = .ok (.unchanged (some (.ofSeconds 5400))) ∧
    federation.due l.document afterwards.now = some (.ofSeconds 1350) :=
  ⟨_, _, _, follows_acquainted, served_acquaintance, rfl, rfl, rfl, outcome_afterwards,
    due_afterwards⟩

end PullSource

end Origin

end Federation
