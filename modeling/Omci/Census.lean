import Omci.Catalog

/-!
# Census

How much a catalog holds.
-/

namespace Omci

structure Census where
  entities : Nat
  attributes : Nat
  actions : Nat
  optionalActions : Nat
  alarms : Nat
  alerts : Nat
  avcs : Nat
  hidden : Nat
  /-- The phases that occur, by name, and how often they do. -/
  byPhase : List (Phase × Nat)
deriving DecidableEq, Repr

/-- Phases in the ascending order of their names. -/
def Phase.byName : List Phase :=
  Phase.all.mergeSort fun p q => decide (p.name ≤ q.name)

def Catalog.census (catalog : Catalog) : Census :=
  let entities := catalog.entities.toList
  let total (count : Entity → Nat) : Nat := (entities.map count).foldr (· + ·) 0
  { entities := entities.length
    attributes := total (·.attributes.size)
    actions := total (·.actions.size)
    optionalActions := total (·.optionalActions.size)
    alarms := total fun entity => (entity.alarms.map (·.size)).getD 0
    alerts := total fun entity => (entity.alerts.map (·.size)).getD 0
    avcs := total fun entity => (entity.avcs.map (·.notified.length)).getD 0
    hidden := entities.countP (·.hidden)
    byPhase :=
      (Phase.byName.map fun phase => (phase, entities.countP (·.phase = phase))).filter
        (·.2 ≠ 0) }

end Omci
