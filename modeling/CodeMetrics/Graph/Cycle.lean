import CodeMetrics.Graph.Basic

/-! Cycles of usage: groups of entities that reach each other along the edges of some usages. -/

namespace CodeMetrics

def successors (edges : List Edge) (ids : List EntityId) : List EntityId :=
  (edges.filter fun edge => ids.contains edge.source).map Edge.target

/-- Adds to a set of entities what is reached from it in up to `steps` steps. -/
def reachIn (edges : List Edge) : Nat → List EntityId → List EntityId
  | 0, reached => reached
  | steps + 1, reached =>
    let found := ((successors edges reached).filter fun id => !reached.contains id).eraseDups
    if found.isEmpty then reached else reachIn edges steps (reached ++ found)

def reachable (edges : List Edge) (id : EntityId) : List EntityId :=
  reachIn edges (edges.length + 1) [id]

def endpoints (edges : List Edge) : List EntityId :=
  (edges.flatMap fun edge => [edge.source, edge.target]).eraseDups.mergeSort

def component (edges : List Edge) (id : EntityId) : List EntityId :=
  (endpoints edges).filter fun other =>
    (reachable edges id).contains other && (reachable edges other).contains id

/-- The edges with one of the given usages; all edges when no usage is given. -/
def UsageGraph.edgesAmong (graph : UsageGraph) (usages : List Usage) : List Edge :=
  graph.edges.filter fun edge => usages.isEmpty || usages.contains edge.usage

/-- The groups of at least two entities that reach each other along edges of the given usages (of
all usages when none is given). Each group is in increasing order; larger groups come first, and
groups of one size by their entities. -/
def UsageGraph.cycles (graph : UsageGraph) (usages : List Usage) : List (List EntityId) :=
  let edges := graph.edgesAmong usages
  let groups := (endpoints edges).filterMap fun id =>
    let group := component edges id
    if group.head? = some id && group.length > 1 then some group else none
  groups.mergeSort fun first second => second.length ≤ first.length

end CodeMetrics
