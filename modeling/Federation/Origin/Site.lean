/-
# Any origin

Origins of all kinds that settings can name work on one state, so that a service need not
know which of them it has: what was loaded last, and the network.
-/

import Federation.Origin.Pull
import Federation.Origin.Query
import Federation.Origin.Static

namespace Federation.Origin

/-- What origins of any kind work on is what a pull works on. -/
abbrev Site (ν : Type) := PullState ν

namespace Site

variable {ν : Type}

/-- Nothing loaded yet. -/
def start (network : ν) : Site ν := ⟨.empty, network⟩

/-- The snapshot of a static origin. -/
def snapshot : Task.Place (Site ν) Snapshot where
  get s := s.pulled.snapshot
  put s snapshot := { s with pulled.snapshot := snapshot }

end Site

end Federation.Origin
