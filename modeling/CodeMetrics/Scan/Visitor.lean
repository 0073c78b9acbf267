import CodeMetrics.Language
import CodeMetrics.Model
import CodeMetrics.Source.Basic

/-!
Visitors: what is done with each file of a scan. A visitor works on the code model and on whatever
state its host keeps; it can fail, and then keeps what it had already changed.
-/

namespace CodeMetrics

structure VisitResult (σ : Type) where
  model : Model
  host : σ
  notes : List String := []
  failure? : Option ModelError := none

structure FileContext where
  file : EntityId
  path : Path
  deriving DecidableEq, Repr

/-- What is done before the first file, with every file, and after the last one. `α` is what files
are parsed into and `σ` is the state of the host. -/
structure Visitor (σ α : Type) where
  init : Model → σ → VisitResult σ := fun model host => { model, host }
  visit : FileContext → α → Model → σ → VisitResult σ
  leave : FileContext → α → Model → σ → VisitResult σ := fun _ _ model host => { model, host }
  destroy : σ → σ × List String := fun host => (host, [])

def defaultThreshold : Float := 0.9

/-- Sets values of one entity in turn, up to the first failure. -/
def Model.setMeasures (model : Model) (id : EntityId) :
    List (Metric × Float) → Model × Option ModelError
  | [] => (model, none)
  | (metric, value) :: others =>
    match model.setMeasure id metric value with
    | .ok model => model.setMeasures id others
    | .error failure => (model, some failure)

def Visitor.lineMetrics (σ : Type) (threshold : Float) : Visitor σ SourceFile where
  visit context file model host :=
    let source := file.language.source (file.language.recognizer threshold) file.text
    let values := source.totals.measures.map fun (standard, count) =>
      (standard.metric, count.toFloat)
    let (model, failure?) := model.setMeasures context.file values
    { model, host, failure? }

def Visitor.complexity (σ : Type) : Visitor σ SourceFile where
  visit context file model host :=
    let recognizer := file.language.recognizer defaultThreshold
    let value := (file.language.complexity recognizer file.text).toFloat
    let (model, failure?) :=
      model.setMeasures context.file [(StandardMetric.complexity.metric, value)]
    { model, host, failure? }

end CodeMetrics
