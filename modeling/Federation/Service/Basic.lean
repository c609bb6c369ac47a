/-
# The service

The service is a resolver and an artifact map under one address. Both work on the same clock
and count in the same metrics.
-/

import Federation.Artifact.Map
import Federation.Resolver.Lifecycle
import Federation.Task.Round

namespace Federation

open Federation.Time

/-- What the service is made of. -/
structure Service (ε ν : Type) where
  /-- The address under which the service is reached. -/
  address : String
  resolver : Resolver ε
  artifacts : ArtifactMap ν

/-- What changes about the service: the resolver with clock and metrics, and the contents of
the artifact map. -/
structure ServiceState (ε ν : Type) where
  resolver : ResolverState ε
  artifacts : ν

namespace ServiceState

variable {ε ν : Type}

/-- What the resolver works on. -/
def resolverPart : Task.Place (ServiceState ε ν) (ResolverState ε) where
  get s := s.resolver
  put s resolver := { s with resolver }

/-- What the artifact map works on. -/
def artifactPart : Task.Place (ServiceState ε ν) (ArtifactScope ν) where
  get s := ⟨s.resolver.now, s.resolver.metrics, s.artifacts⟩
  put s part :=
    ⟨{ s.resolver with now := part.now, metrics := part.metrics }, part.contents⟩

/-- The present instant. -/
def now (s : ServiceState ε ν) : Instant := s.resolver.now

/-- Sets the clock. -/
def setClock (s : ServiceState ε ν) (t : Instant) : ServiceState ε ν :=
  { s with resolver := { s.resolver with now := t } }

end ServiceState

namespace Service

variable {ε ν α : Type}

/-- A task of the resolver. -/
def onResolver (t : Task (ResolverState ε) α) : Task (ServiceState ε ν) α :=
  t.on ServiceState.resolverPart

/-- A task of the artifact map. -/
def onArtifacts (t : Task (ArtifactScope ν) α) : Task (ServiceState ε ν) α :=
  t.on ServiceState.artifactPart

/-- The service in a state, with the warm start waiting in the background. -/
def stage (service : Service ε ν) (s : ServiceState ε ν) : Stage (ServiceState ε ν) :=
  ⟨s, [onResolver service.resolver.warmUpTask]⟩

end Service

end Federation
