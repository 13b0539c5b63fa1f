import RevenueGuard.EvaluationReport
import RevenueGuard.Generator

/-!
`BatchEvaluator.run`: a batch file, its rows and their metrics.  What is written and printed of the
report changes nothing in it and is left out.
-/

namespace RevenueGuard.BatchEvaluator

open Library ExperimentAnalyzer SyntheticDataGenerator

/-- `_load_batch`, for a file that is missing or has been decoded. -/
def loadBatch (file : Option (Except String Json)) : Except String (List Json) :=
  match file with
  | none => .error "Batch file not found"
  | some decoded => do
    match ← decoded with
    | .arr items => return items
    | _ => .error "Evaluation batch must be a JSON list"

structure Report (α : Type) where
  metrics : Metrics α
  rows : List EvaluationRow

/-- `run`. -/
def runBatch {α : Type} [Field α] [LinearOrder α] (md5 : String → ℕ)
    (score : Dict → HealthDict → Except String ℚ) (numerics : Numerics α) (file : Option (Except String Json)) :
    Except String (Report α) := do
  let events ← loadBatch file
  let rows ← events.mapM fun event => do evaluateEvent md5 score (← event.asDict)
  let metrics ← calculateMetrics numerics rows
  return { metrics, rows }

/-- The file that `save_batch` writes. -/
def savedBatch (events : List GeneratedEvent) : Option (Except String Json) :=
  some (.ok (.arr (events.map fun event => .obj event.toDict)))

end RevenueGuard.BatchEvaluator
