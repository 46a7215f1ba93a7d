import DhcpLeasing.Interface.Admin

/-!
# Reaping

Expired leases are removed by passes over all interfaces, at regular intervals.
-/

namespace DhcpLeasing.Reaper

/-- The longest interval between two passes: a minute. -/
def longestInterval : Duration := .ofSeconds 60

/-- The shortest interval between two passes: a second. -/
def shortestInterval : Duration := .ofSeconds 1

/-- The durations of the leases of all interfaces, for each family that is on. -/
def leaseDurations (interfaces : List Interface) : List Duration :=
  interfaces.flatMap fun i => i.scopes.map (·.leaseDuration)

/-- The interval between two passes: the shortest lease duration, but no longer than a minute and no
shorter than a second. -/
def interval (interfaces : List Interface) : Duration :=
  let shortest := (leaseDurations interfaces).foldl (fun n d => min n d.nanos) longestInterval.nanos
  ⟨max shortestInterval.nanos shortest⟩

/-- An interval that was asked for, which is at least a second. -/
def chosenInterval (d : Duration) : Duration :=
  ⟨max shortestInterval.nanos d.nanos⟩

/-- One pass as of a time. Given is how many leases were removed. -/
def pass (now : Timestamp) (interfaces : List Interface) : Nat × List Interface :=
  ((interfaces.flatMap fun i => (i.reapExpired now).1).length,
    interfaces.map fun i => (i.reapExpired now).2)

end DhcpLeasing.Reaper
