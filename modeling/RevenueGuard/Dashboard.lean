import Mathlib.Data.List.Dedup
import RevenueGuard.Analyzer
import RevenueGuard.CaseQueries

/-!
`metrics` of `api/main.py`: the figures of the dashboard.  `revenue_recovered_paise` is the sum of a
column that nothing writes, and is left out.  Transactions may commit between the queries of one request, so
each query has its own state of the tables.
-/

namespace RevenueGuard

/-- The figures of an experiment arm. -/
structure ArmMetrics where
  total : ℤ
  recovered : ℤ
  recoveryRate : ℚ

structure DashboardMetrics where
  totalEvents : ℤ
  revenueAtRiskPaise : ℤ
  recoveryRate : ℚ
  byExperimentArm : List (String × ArmMetrics)

/-- `recovered / total if total else 0.0`. -/
def ratioOf (recovered total : ℤ) : ℚ := if total = 0 then 0 else recovered / total

/-- `arm or "unassigned"`. -/
def armLabel (arm : Option ExperimentArm) : String := (arm.map (·.value)).getD "unassigned"

/-- The group of an arm in the query of `metrics`. -/
def armMetrics (db : Database) (arm : Option ExperimentArm) : ArmMetrics :=
  let total := db.recoveryCases.countP fun r => r.experimentArm = arm
  let recovered := db.recoveryCases.countP fun r => r.experimentArm = arm && r.status = .recovered
  { total, recovered, recoveryRate := ratioOf recovered total }

/-- The tables as the queries of one request find them. -/
structure DashboardReads where
  events : Database
  atRisk : Database
  recovered : Database
  groups : Database

/-- `metrics`.  The database leaves the order of the groups open. -/
def dashboardMetrics (reads : DashboardReads) : DashboardMetrics where
  totalEvents := reads.events.recoveryCases.length
  revenueAtRiskPaise := (reads.atRisk.recoveryCases.map (·.amountPaise)).sum
  recoveryRate :=
    ratioOf (reads.recovered.recoveryCases.countP fun r => r.status = .recovered) reads.events.recoveryCases.length
  byExperimentArm :=
    (reads.groups.recoveryCases.map (·.experimentArm)).dedup.map fun arm =>
      (armLabel arm, armMetrics reads.groups arm)

end RevenueGuard
