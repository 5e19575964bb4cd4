import PoolOperator.Condition

/-!
# Verdicts on pools

The conditions of a pool that is part of the merged configuration, and of one that is not.
-/

namespace PoolOperator.Verdict

/-- The reasons for the two verdicts. -/
def merged : String := "Merged"

@[inherit_doc merged] def invalidSpec : String := "InvalidSpec"

/-- The conditions of a pool that is part of the configuration. -/
def mergedConditions (now : String) : List Condition :=
  [.observed now Condition.available .true merged
      "Address pool is part of the MetalLB configuration",
    .observed now Condition.degraded .false merged ""]

/-- The conditions of a pool that is left out for a fault. -/
def invalidSpecConditions (now fault : String) : List Condition :=
  [.observed now Condition.available .false invalidSpec fault,
    .observed now Condition.degraded .true invalidSpec fault]

end PoolOperator.Verdict
