import RevenueGuard.Generator
import RevenueGuard.Library.Maximum
import RevenueGuard.Triage

/-!
`ml/train_model.py`: what `main` trains and tests the models on, and which of them it saves.  The
models, their metrics and the explainer are of other packages; the metrics and what becomes of
`shap.TreeExplainer` are parameters.
-/

namespace RevenueGuard.TrainModel

open Library FeatureEngineering SyntheticDataGenerator

/-- `d[key]`. -/
def item (d : Dict) (key : String) : Except String Json :=
  match d.lookup key with
  | some value => .ok value
  | none => .error ("'" ++ key ++ "'")

/-- `_feature_matrix`, its rows as `extract_features` returns them. -/
def featureMatrix (context : FeatureContext) (events : List Dict) : Except String (List Features) :=
  events.mapM fun event => extractFeatures context event (.json (event.get "timestamp"))

/-- `int(event["ground_truth"]["is_recoverable"])`. -/
def recoverableLabel (event : Dict) : Except String ℤ := do
  let truth ← (← item event "ground_truth").asDict
  (← item truth "is_recoverable").pyInt

/-- What `main` has before the training. -/
structure TrainingData where
  encoders : FeatureContext
  xTrain : List Features
  xTest : List Features
  yTrain : List ℤ
  yTest : List ℤ
  scalePosWeight : ℚ

/-- The training data of two lists of events. -/
def prepare (fit : List String → List String) (context : FeatureContext) (trainEvents testEvents : List Dict) :
    Except String TrainingData := do
  let encoders ← fitLabelEncoders fit trainEvents context
  let xTrain ← featureMatrix encoders trainEvents
  let xTest ← featureMatrix encoders testEvents
  let yTrain ← trainEvents.mapM recoverableLabel
  let yTest ← testEvents.mapM recoverableLabel
  let positives := yTrain.sum
  let negatives := (yTrain.length : ℤ) - positives
  return {
    encoders, xTrain, xTest, yTrain, yTest
    scalePosWeight := if positives = 0 then 1 else negatives / positives }

/-- The data that `main` trains on. -/
def trainingData (fit : List String → List String) (context : FeatureContext) (draws : BatchDraws) :
    Except String TrainingData :=
  prepare fit context ((generateForTraining draws).1.map (·.toDict)) ((generateForTraining draws).2.map (·.toDict))

/-! ## The champion -/

end RevenueGuard.TrainModel
