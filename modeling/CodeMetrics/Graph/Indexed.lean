import CodeMetrics.Graph.Basic

/-!
Usage graphs in the form in which they are kept. Entities stand at nodes, which are known by their
index, and edges run between indices. A node keeps its index until it is removed; then another
entity may get the index. A table leads from each entity to its node.
-/

namespace CodeMetrics

structure Link where
  source : Nat
  target : Nat
  usage : Usage
  deriving DecidableEq, Repr

structure IndexedGraph where
  /-- What stands at each index; nothing does when the index is free. -/
  nodes : List (Option EntityId) := []
  /-- Oldest first. -/
  links : List Link := []
  table : List (EntityId × Nat) := []
  deriving DecidableEq, Repr

namespace IndexedGraph

def empty : IndexedGraph := {}

def index? (graph : IndexedGraph) (id : EntityId) : Option Nat :=
  (graph.table.find? fun entry => entry.1 = id).map Prod.snd

def entityAt? (graph : IndexedGraph) (index : Nat) : Option EntityId :=
  graph.nodes[index]?.join

/-- The edge that a link stands for; there is none if one of its ends is free. -/
def edgeOf? (graph : IndexedGraph) (link : Link) : Option Edge :=
  match graph.entityAt? link.source, graph.entityAt? link.target with
  | some source, some target => some ⟨source, target, link.usage⟩
  | _, _ => none

/-- Puts an entity at the first free index, which is a new one if none is free. -/
def addNode (graph : IndexedGraph) (id : EntityId) : Nat × IndexedGraph :=
  let index := graph.nodes.findIdx Option.isNone
  let nodes :=
    if index < graph.nodes.length then graph.nodes.set index (some id)
    else graph.nodes ++ [some id]
  (index, { graph with nodes })

/-- The index of an entity, which gets one if it has none yet. -/
def vertex (graph : IndexedGraph) (id : EntityId) : Nat × IndexedGraph :=
  match graph.index? id with
  | some index => (index, graph)
  | none =>
    let (index, graph) := graph.addNode id
    (index, { graph with table := graph.table ++ [(id, index)] })

/-- The edges of some links, newest first. -/
def edgesWhere (graph : IndexedGraph) (wanted : Link → Bool) : List Edge :=
  (graph.links.filter wanted).reverse.filterMap graph.edgeOf?

def edgesAt (graph : IndexedGraph) (source target : Nat) : List Edge :=
  graph.edgesWhere fun link => link.source = source && link.target = target

def addEdge (graph : IndexedGraph) (edge : Edge) : Bool × IndexedGraph :=
  let (source, graph) := graph.vertex edge.source
  let (target, graph) := graph.vertex edge.target
  if (graph.edgesAt source target).any fun other => other.usage = edge.usage then (false, graph)
  else (true, { graph with links := graph.links ++ [⟨source, target, edge.usage⟩] })

def edgesBetween (graph : IndexedGraph) (source target : EntityId) : List Edge :=
  match graph.index? source, graph.index? target with
  | some first, some second => (graph.edgesAt first second).reverse
  | _, _ => []

def edge? (graph : IndexedGraph) (source target : EntityId) : Option Edge :=
  let edges := graph.edgesBetween source target
  if edges.length = 1 then edges.head? else none

def containsEdge (graph : IndexedGraph) (source target : EntityId) : Bool :=
  match graph.index? source, graph.index? target with
  | some first, some second => !(graph.edgesAt first second).isEmpty
  | _, _ => false

def directed (graph : IndexedGraph) (side : Link → Nat) (id : EntityId) : List Edge :=
  match graph.index? id with
  | some index => graph.edgesWhere fun link => side link = index
  | none => []

def incoming (graph : IndexedGraph) (id : EntityId) : List Edge :=
  graph.directed Link.target id

def outgoing (graph : IndexedGraph) (id : EntityId) : List Edge :=
  graph.directed Link.source id

def incident (graph : IndexedGraph) (id : EntityId) : List Edge :=
  graph.outgoing id ++ (graph.incoming id).filter fun edge => edge.source ≠ edge.target

def edgesWithUsage (graph : IndexedGraph) (usage : Usage) : List Edge :=
  (graph.links.filter fun link => link.usage = usage).filterMap graph.edgeOf?

def containsVertex (graph : IndexedGraph) (id : EntityId) : Bool :=
  (graph.index? id).isSome

def edgeCount (graph : IndexedGraph) : Nat :=
  graph.links.length

def vertexCount (graph : IndexedGraph) : Nat :=
  graph.table.length

def sortedVertices (graph : IndexedGraph) : List EntityId :=
  (graph.table.map Prod.fst).mergeSort

/-- Frees the index at which an entity stands, with every link there, and forgets the entity. -/
def freed (graph : IndexedGraph) (index : Nat) (id : EntityId) : IndexedGraph where
  nodes := graph.nodes.set index none
  links := graph.links.filter fun link => link.source ≠ index && link.target ≠ index
  table := graph.table.filter fun entry => entry.1 ≠ id

def removeVertex (graph : IndexedGraph) (id : EntityId) : Bool × IndexedGraph :=
  match graph.index? id with
  | some index => (true, graph.freed index id)
  | none => (false, graph)

/-- The graph without its indices. -/
def toUsageGraph (graph : IndexedGraph) : UsageGraph where
  vertices := graph.table.map Prod.fst
  edges := graph.links.filterMap graph.edgeOf?

end IndexedGraph

end CodeMetrics
