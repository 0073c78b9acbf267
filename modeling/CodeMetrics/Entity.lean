import CodeMetrics.Metric

/-! Source entities: projects, packages, files and what they contain. -/

namespace CodeMetrics

/-- Identifiers without a bound. Those that are kept in 32 bits are given a second time after
`2 ^ 32` entities. -/
abbrev EntityId := Nat

def EntityId.display (id : EntityId) : String :=
  "#" ++ toString (show Nat from id)

inductive EntityKind where
  | project
  | package
  | file
  | type
  | method
  | unit
  | other (name : String)
  deriving DecidableEq, Repr

def EntityKind.name : EntityKind → String
  | .project => "project"
  | .package => "package"
  | .file => "file"
  | .type => "type"
  | .method => "method"
  | .unit => "unit"
  | .other name => name

structure Remark where
  rule : String
  text : String
  line? : Option Nat := none
  deriving DecidableEq, Repr

/-- A node of the source tree. The index gives it its identifier, parent and children. -/
structure Entity where
  kind : EntityKind
  key : String
  name : String := key
  id? : Option EntityId := none
  parent? : Option EntityId := none
  children : List EntityId := []
  firstLine? : Option Nat := none
  lastLine? : Option Nat := none
  raw : Measures := .empty
  /-- The values of the whole subtree, as the last decoration left them. -/
  decorated? : Option Measures := none
  remarks : List Remark := []
  deriving Repr

namespace Entity

/-- Whether a decoration has reached the entity since its values last changed. -/
def isDecorated (entity : Entity) : Bool :=
  entity.decorated?.isSome

/-- The values in view: the decorated ones if there are any, otherwise those that were set. -/
def view (entity : Entity) : Measures :=
  entity.decorated?.getD entity.raw

/-- Sets a value. The entity then shows the values that were set, until it is decorated again. -/
def setMeasure (entity : Entity) (metric : Metric) (value : Float) : Entity :=
  { entity with raw := entity.raw.set metric.name value, decorated? := none }

def addMeasure (entity : Entity) (metric : Metric) (delta : Float) : Entity :=
  { entity with raw := entity.raw.add metric.name delta, decorated? := none }

def addRemark (entity : Entity) (remark : Remark) : Entity :=
  { entity with remarks := entity.remarks ++ [remark] }

/-- The value of a metric in view. A formula metric without an entry is computed from the view. -/
def measure (entity : Entity) (metric : Metric) : Float :=
  match entity.view.get? metric.name with
  | some value => value
  | none => match metric.formula? with
    | some formula => formula entity.view
    | none => 0.0

def wholeMeasure (entity : Entity) (metric : Metric) : Int :=
  wholeNumber (entity.measure metric)

def hasChildren (entity : Entity) : Bool :=
  !entity.children.isEmpty

end Entity

end CodeMetrics
