import CodeMetrics.Entity

/-!
Usage graphs: which entities use which others, and how. Two entities may be linked by several edges,
as long as their usages differ.
-/

namespace CodeMetrics

inductive Usage where
  | extends
  | implements
  /-- The source returns, takes, throws or catches the target. -/
  | uses
  | callsField
  | callsMethod
  /-- The source declares a field of the target's type. -/
  | contains
  /-- A relation that was seen but not classified. -/
  | noLink
  deriving DecidableEq, Repr

def Usage.name : Usage → String
  | .extends => "EXTENDS"
  | .implements => "IMPLEMENTS"
  | .uses => "USES"
  | .callsField => "CALLS_FIELD"
  | .callsMethod => "CALLS_METHOD"
  | .contains => "CONTAINS"
  | .noLink => "NO_LINK"

def Usage.all : List Usage :=
  [.extends, .implements, .uses, .callsField, .callsMethod, .contains, .noLink]

def Usage.ofName? (name : String) : Option Usage :=
  all.find? fun usage => usage.name = name

structure Edge where
  source : EntityId
  target : EntityId
  usage : Usage
  deriving DecidableEq, Repr

def Edge.touches (edge : Edge) (id : EntityId) : Bool :=
  edge.source = id || edge.target = id

/-- Entities and the edges between them, both in the order in which they came. An entity stays known
when its last edge goes because the other end is removed. -/
structure UsageGraph where
  vertices : List EntityId := []
  edges : List Edge := []
  deriving DecidableEq, Repr

namespace UsageGraph

def empty : UsageGraph := {}

def containsVertex (graph : UsageGraph) (id : EntityId) : Bool :=
  graph.vertices.contains id

def addVertex (graph : UsageGraph) (id : EntityId) : UsageGraph :=
  if graph.containsVertex id then graph
  else { graph with vertices := graph.vertices ++ [id] }

/-- Adds an edge, and says whether it is new. -/
def addEdge (graph : UsageGraph) (edge : Edge) : Bool × UsageGraph :=
  let known := (graph.addVertex edge.source).addVertex edge.target
  if graph.edges.contains edge then (false, known)
  else (true, { known with edges := graph.edges ++ [edge] })

def edgesBetween (graph : UsageGraph) (source target : EntityId) : List Edge :=
  graph.edges.filter fun edge => edge.source = source && edge.target = target

/-- The edge from one entity to another, if there is exactly one. -/
def edge? (graph : UsageGraph) (source target : EntityId) : Option Edge :=
  match graph.edgesBetween source target with
  | [edge] => some edge
  | _ => none

def containsEdge (graph : UsageGraph) (source target : EntityId) : Bool :=
  graph.edges.any fun edge => edge.source = source && edge.target = target

def incoming (graph : UsageGraph) (id : EntityId) : List Edge :=
  (graph.edges.filter fun edge => edge.target = id).reverse

def outgoing (graph : UsageGraph) (id : EntityId) : List Edge :=
  (graph.edges.filter fun edge => edge.source = id).reverse

/-- The edges from an entity and then those to it, each newest first. An edge from the entity to
itself is listed once. -/
def incident (graph : UsageGraph) (id : EntityId) : List Edge :=
  graph.outgoing id ++ (graph.incoming id).filter fun edge => edge.source ≠ edge.target

def edgesWithUsage (graph : UsageGraph) (usage : Usage) : List Edge :=
  graph.edges.filter fun edge => edge.usage = usage

def edgeCount (graph : UsageGraph) : Nat :=
  graph.edges.length

def vertexCount (graph : UsageGraph) : Nat :=
  graph.vertices.length

def sortedVertices (graph : UsageGraph) : List EntityId :=
  graph.vertices.mergeSort

def removeVertex (graph : UsageGraph) (id : EntityId) : Bool × UsageGraph :=
  if graph.containsVertex id then
    (true, { vertices := graph.vertices.filter (· ≠ id),
             edges := graph.edges.filter fun edge => !edge.touches id })
  else (false, graph)

end UsageGraph

end CodeMetrics
