import CodeMetrics.Graph.Indexed
import CodeMetrics.Proofs.Graph.History

/-!
Graphs with indices and graphs without them. Removing an entity frees its index only after the links
there are gone, so an entity that gets the index later inherits no edge. Forgetting the indices
therefore turns every call into the same call, and all answers agree.
-/

namespace CodeMetrics.IndexedGraph

/-- The table and the nodes tell the same, and every link has both of its ends. -/
structure Sound (graph : IndexedGraph) : Prop where
  table_nodup : (graph.table.map Prod.fst).Nodup
  mem_table_iff : ∀ {id index}, (id, index) ∈ graph.table ↔ graph.entityAt? index = some id
  linked : ∀ link ∈ graph.links, ∃ edge, graph.edgeOf? link = some edge

theorem sound_empty : empty.Sound where
  table_nodup := List.nodup_nil
  mem_table_iff := ⟨nofun, nofun⟩
  linked := nofun

variable {graph : IndexedGraph}

theorem edgeOf?_eq_some_iff {link : Link} {edge : Edge} :
    graph.edgeOf? link = some edge ↔
      graph.entityAt? link.source = some edge.source ∧
        graph.entityAt? link.target = some edge.target ∧ link.usage = edge.usage := by
  obtain ⟨source, target, usage⟩ := edge
  unfold edgeOf?
  split
  next first second => simp [first, second]
  next missing =>
    refine iff_of_false nofun ?_
    rintro ⟨first, second, -⟩
    exact missing _ _ first second

theorem mem_edges_toUsageGraph {edge : Edge} :
    edge ∈ graph.toUsageGraph.edges ↔ ∃ link ∈ graph.links, graph.edgeOf? link = some edge :=
  List.mem_filterMap

/-! What the table says. -/

theorem Sound.index?_eq_some_iff (sound : graph.Sound) {id : EntityId} {index : Nat} :
    graph.index? id = some index ↔ graph.entityAt? index = some id := by
  rw [← sound.mem_table_iff, index?]
  constructor
  · intro found
    obtain ⟨⟨key, place⟩, first, rfl⟩ := Option.map_eq_some_iff.mp found
    obtain rfl : key = id := by simpa using List.find?_some first
    exact List.mem_of_find?_eq_some first
  · intro member
    cases found : graph.table.find? fun entry => entry.1 = id with
    | none => exact absurd (List.find?_eq_none.mp found _ member) (by simp)
    | some entry =>
      have isKey : entry.1 = id := by simpa using List.find?_some found
      have same : entry = (id, index) :=
        List.inj_on_of_nodup_map sound.table_nodup (List.mem_of_find?_eq_some found) member isKey
      rw [same]
      rfl

theorem index?_eq_none_iff {id : EntityId} :
    graph.index? id = none ↔ id ∉ graph.toUsageGraph.vertices := by
  simp only [index?, Option.map_eq_none_iff, List.find?_eq_none, decide_eq_true_eq, toUsageGraph,
    List.mem_map, not_exists, not_and]

theorem mem_vertices_of_index? {id : EntityId} {index : Nat}
    (found : graph.index? id = some index) : id ∈ graph.toUsageGraph.vertices := by
  by_contra unknown
  cases (index?_eq_none_iff.mpr unknown).symm.trans found

/-- An entity stands at one index only. -/
theorem Sound.index_unique (sound : graph.Sound) {id : EntityId} {first second : Nat}
    (here : graph.entityAt? first = some id) (there : graph.entityAt? second = some id) :
    first = second := by
  rw [← sound.index?_eq_some_iff] at here there
  exact Option.some.inj (here.symm.trans there)

/-- The ends of links and those of their edges can be compared alike. -/
theorem Sound.index_eq_iff (sound : graph.Sound) {index place : Nat} {id other : EntityId}
    (here : graph.entityAt? index = some id) (there : graph.entityAt? place = some other) :
    place = index ↔ other = id := by
  constructor
  · rintro rfl
    exact Option.some.inj (there.symm.trans here)
  · rintro rfl
    exact sound.index_unique there here

/-! One more entity. -/

/-- What stands at the nodes of one graph stands there in another one too, which has the same
links. -/
structure Extends (before after : IndexedGraph) : Prop where
  links_eq : after.links = before.links
  kept : ∀ {index id}, before.entityAt? index = some id → after.entityAt? index = some id

theorem Extends.trans {middle after : IndexedGraph} (first : Extends graph middle)
    (second : Extends middle after) : Extends graph after :=
  ⟨second.links_eq.trans first.links_eq, fun here => second.kept (first.kept here)⟩

theorem Extends.edgeOf? {after : IndexedGraph} (grows : Extends graph after) {link : Link}
    {edge : Edge} (stands : graph.edgeOf? link = some edge) : after.edgeOf? link = some edge := by
  rw [edgeOf?_eq_some_iff] at stands ⊢
  exact ⟨grows.kept stands.1, grows.kept stands.2.1, stands.2.2⟩

theorem Extends.edges_eq {after : IndexedGraph} (grows : Extends graph after)
    (sound : graph.Sound) : after.toUsageGraph.edges = graph.toUsageGraph.edges := by
  rw [toUsageGraph, toUsageGraph, grows.links_eq]
  apply List.filterMap_congr
  intro link member
  obtain ⟨edge, stands⟩ := sound.linked link member
  rw [stands, grows.edgeOf? stands]

theorem entityAt?_firstFree (graph : IndexedGraph) :
    graph.entityAt? (graph.nodes.findIdx Option.isNone) = none := by
  unfold entityAt?
  by_cases inside : graph.nodes.findIdx Option.isNone < graph.nodes.length
  · have free := List.findIdx_getElem (w := inside)
    rw [List.getElem?_eq_getElem inside, Option.isNone_iff_eq_none.mp free]
    rfl
  · rw [List.getElem?_eq_none (Nat.le_of_not_lt inside)]
    rfl

theorem entityAt?_addNode (graph : IndexedGraph) (id : EntityId) (index : Nat) :
    (graph.addNode id).2.entityAt? index =
      if index = (graph.addNode id).1 then some id else graph.entityAt? index := by
  unfold addNode entityAt?
  dsimp only
  split
  next inside =>
    rw [List.getElem?_set]
    grind
  next outside =>
    have atEnd : graph.nodes.findIdx Option.isNone = graph.nodes.length :=
      Nat.le_antisymm List.findIdx_le_length (Nat.le_of_not_lt outside)
    rw [atEnd]
    grind

/-- An entity that is not known yet gets an index at which nothing stands. -/
theorem Sound.vertex_unknown (sound : graph.Sound) {id : EntityId}
    (unknown : id ∉ graph.toUsageGraph.vertices) :
    let index := (graph.addNode id).1
    let after := { (graph.addNode id).2 with table := graph.table ++ [(id, index)] }
    after.Sound ∧ Extends graph after ∧ after.entityAt? index = some id := by
  intro index after
  have free : graph.entityAt? index = none := graph.entityAt?_firstFree
  have stands : ∀ place, after.entityAt? place =
      if place = index then some id else graph.entityAt? place := graph.entityAt?_addNode id
  have grows : Extends graph after := by
    refine ⟨rfl, fun {place other} here => ?_⟩
    have elsewhere : place ≠ index := by
      rintro rfl
      cases free.symm.trans here
    rw [stands, if_neg elsewhere, here]
  refine ⟨⟨?_, ?_, ?_⟩, grows, by rw [stands, if_pos rfl]⟩
  · rw [List.map_append]
    refine List.nodup_append.mpr ⟨sound.table_nodup, List.nodup_singleton id, ?_⟩
    rintro old known _ isNew rfl
    obtain rfl := List.mem_singleton.mp isNew
    exact unknown known
  · intro other place
    rw [stands, List.mem_append, sound.mem_table_iff, List.mem_singleton, Prod.mk.injEq]
    by_cases here : place = index
    · rw [here, free, if_pos rfl]
      simp [eq_comm]
    · rw [if_neg here]
      simp [here]
  · intro link member
    obtain ⟨edge, linked⟩ := sound.linked link member
    exact ⟨edge, grows.edgeOf? linked⟩

theorem Sound.vertex (sound : graph.Sound) (id : EntityId) :
    let placed := graph.vertex id
    placed.2.Sound ∧ Extends graph placed.2 ∧ placed.2.entityAt? placed.1 = some id ∧
      placed.2.toUsageGraph = graph.toUsageGraph.addVertex id := by
  unfold IndexedGraph.vertex
  cases found : graph.index? id with
  | some index =>
    rw [UsageGraph.addVertex_known (mem_vertices_of_index? found)]
    exact ⟨sound, ⟨rfl, fun here => here⟩, sound.index?_eq_some_iff.mp found, rfl⟩
  | none =>
    have unknown := index?_eq_none_iff.mp found
    obtain ⟨after, grows, stands⟩ := sound.vertex_unknown unknown
    refine ⟨after, grows, stands, ?_⟩
    rw [UsageGraph.addVertex, UsageGraph.containsVertex, if_neg (by simpa using unknown)]
    exact (UsageGraph.mk.injEq ..).mpr ⟨List.map_append, grows.edges_eq sound⟩

/-! Edges. -/

/-- Links that are chosen by their ends and usage are the edges that are chosen so. -/
theorem edgesWhere_eq {wanted : Link → Bool} {test : Edge → Bool}
    (alike : ∀ link edge, graph.edgeOf? link = some edge → wanted link = test edge) :
    graph.edgesWhere wanted = (graph.toUsageGraph.edges.filter test).reverse := by
  rw [edgesWhere, List.filterMap_reverse, List.filterMap_filter, toUsageGraph,
    List.filter_filterMap]
  congr 1
  apply List.filterMap_congr
  intro link _
  cases stands : graph.edgeOf? link with
  | none => simp
  | some edge => simp [alike link edge stands, Option.filter]

theorem Sound.edgesAt_eq (sound : graph.Sound) {source target : EntityId} {first second : Nat}
    (here : graph.entityAt? first = some source) (there : graph.entityAt? second = some target) :
    graph.edgesAt first second = (graph.toUsageGraph.edgesBetween source target).reverse := by
  apply edgesWhere_eq
  intro link edge stands
  obtain ⟨atSource, atTarget, -⟩ := edgeOf?_eq_some_iff.mp stands
  simp only [sound.index_eq_iff here atSource, sound.index_eq_iff there atTarget]

theorem Sound.isStored_iff (sound : graph.Sound) {edge : Edge} {source target : Nat}
    (here : graph.entityAt? source = some edge.source)
    (there : graph.entityAt? target = some edge.target) :
    ((graph.edgesAt source target).any fun other => other.usage = edge.usage) = true ↔
      edge ∈ graph.toUsageGraph.edges := by
  rw [sound.edgesAt_eq here there, List.any_reverse, UsageGraph.edgesBetween, List.any_filter,
    List.any_eq_true]
  constructor
  · rintro ⟨⟨_, _, _⟩, member, same⟩
    obtain ⟨⟨rfl, rfl⟩, rfl⟩ : (_ ∧ _) ∧ _ := by simpa using same
    exact member
  · intro member
    exact ⟨edge, member, by simp⟩

theorem Sound.addLink (sound : graph.Sound) {link : Link} {edge : Edge}
    (stands : graph.edgeOf? link = some edge) :
    let after := { graph with links := graph.links ++ [link] }
    after.Sound ∧
      after.toUsageGraph =
        { graph.toUsageGraph with edges := graph.toUsageGraph.edges ++ [edge] } := by
  intro after
  refine ⟨⟨sound.table_nodup, sound.mem_table_iff, ?_⟩, ?_⟩
  · intro other member
    rcases List.mem_append.mp member with old | new
    · exact sound.linked other old
    · rw [List.mem_singleton.mp new]
      exact ⟨edge, stands⟩
  · refine (UsageGraph.mk.injEq ..).mpr ⟨rfl, ?_⟩
    rw [List.filterMap_append]
    exact congrArg _ (List.filterMap_cons_some stands)

/-- Adding an edge between nodes adds it between their entities. -/
theorem Sound.addEdge (sound : graph.Sound) (edge : Edge) :
    (graph.addEdge edge).2.Sound ∧
      ((graph.addEdge edge).1, (graph.addEdge edge).2.toUsageGraph) =
        graph.toUsageGraph.addEdge edge := by
  -- Placing the target may add a node, but the source keeps the one that it got before.
  have one := sound.vertex edge.source
  have two := one.1.vertex edge.target
  unfold IndexedGraph.addEdge UsageGraph.addEdge
  generalize graph.vertex edge.source = placed at one two ⊢
  obtain ⟨source, middle⟩ := placed
  dsimp only at one two ⊢
  generalize middle.vertex edge.target = placed at two ⊢
  obtain ⟨target, after⟩ := placed
  obtain ⟨-, grows, here, known⟩ := one
  obtain ⟨sound', growsMore, there, knownToo⟩ := two
  dsimp only at growsMore there knownToo ⊢
  have edges := (grows.trans growsMore).edges_eq sound
  have stored := sound'.isStored_iff (growsMore.kept here) there
  rw [known] at knownToo
  rw [edges] at stored
  by_cases member : edge ∈ graph.toUsageGraph.edges
  · rw [if_pos (stored.mpr member), if_pos (List.contains_iff_mem.mpr member), ← knownToo]
    exact ⟨sound', rfl⟩
  · have stands : after.edgeOf? ⟨source, target, edge.usage⟩ = some edge :=
      edgeOf?_eq_some_iff.mpr ⟨growsMore.kept here, there, rfl⟩
    obtain ⟨added, view⟩ := sound'.addLink stands
    rw [if_neg (member ∘ stored.mp), if_neg (member ∘ List.contains_iff_mem.mp), ← knownToo]
    refine ⟨added, ?_⟩
    rw [view, edges]

/-! Removing an entity. -/

theorem entityAt?_freed (graph : IndexedGraph) (index : Nat) (id : EntityId) (place : Nat) :
    (graph.freed index id).entityAt? place =
      if place = index then none else graph.entityAt? place := by
  rw [entityAt?, freed, List.getElem?_set, entityAt?]
  grind

theorem edgeOf?_freed {index : Nat} {link : Link} (id : EntityId) (source : link.source ≠ index)
    (target : link.target ≠ index) : (graph.freed index id).edgeOf? link = graph.edgeOf? link := by
  simp only [edgeOf?, entityAt?_freed, if_neg source, if_neg target]

theorem mem_links_freed {index : Nat} {id : EntityId} {link : Link} :
    link ∈ (graph.freed index id).links ↔
      link ∈ graph.links ∧ link.source ≠ index ∧ link.target ≠ index := by
  simp [freed]

section Freed

variable {index : Nat} {id : EntityId}

theorem Sound.freed (sound : graph.Sound) (here : graph.entityAt? index = some id) :
    (graph.freed index id).Sound where
  table_nodup := sound.table_nodup.sublist (List.filter_sublist.map Prod.fst)
  mem_table_iff {other place} := by
    rw [entityAt?_freed, IndexedGraph.freed, List.mem_filter, sound.mem_table_iff,
      decide_eq_true_eq]
    by_cases same : place = index
    · rw [if_pos same, same, here]
      refine iff_of_false ?_ nofun
      rintro ⟨isId, isOther⟩
      exact isOther (Option.some.inj isId).symm
    · -- No other entry of the table is dropped, as the entity stands at no second index.
      rw [if_neg same, and_iff_left_iff_imp]
      rintro there rfl
      exact same (sound.index_unique there here)
  linked link member := by
    obtain ⟨old, source, target⟩ := mem_links_freed.mp member
    rw [edgeOf?_freed id source target]
    exact sound.linked link old

/-- The links that go are those of the edges that touch the entity. -/
theorem Sound.edges_freed (sound : graph.Sound) (here : graph.entityAt? index = some id) :
    (graph.freed index id).toUsageGraph.edges =
      graph.toUsageGraph.edges.filter fun edge => !edge.touches id := by
  rw [toUsageGraph, toUsageGraph, List.filter_filterMap, IndexedGraph.freed,
    List.filterMap_filter]
  apply List.filterMap_congr
  intro link member
  obtain ⟨edge, stands⟩ := sound.linked link member
  obtain ⟨atSource, atTarget, -⟩ := edgeOf?_eq_some_iff.mp stands
  have source := sound.index_eq_iff here atSource
  have target := sound.index_eq_iff here atTarget
  by_cases touches : edge.touches id = true
  · have gone : link.source = index ∨ link.target = index := by
      rw [source, target]
      simpa [Edge.touches] using touches
    rw [stands, Option.filter_some_neg (by simp [touches]), if_neg (by grind)]
  · have stays : link.source ≠ index ∧ link.target ≠ index := by
      rw [Ne, Ne, source, target]
      simpa [Edge.touches] using touches
    rw [stands, Option.filter_some_pos (by simp [touches]), if_pos (by simp [stays])]
    exact (edgeOf?_freed id stays.1 stays.2).trans stands

end Freed

/-- Removing a node removes its entity. -/
theorem Sound.removeVertex (sound : graph.Sound) (id : EntityId) :
    (graph.removeVertex id).2.Sound ∧
      ((graph.removeVertex id).1, (graph.removeVertex id).2.toUsageGraph) =
        graph.toUsageGraph.removeVertex id := by
  unfold IndexedGraph.removeVertex UsageGraph.removeVertex UsageGraph.containsVertex
  cases found : graph.index? id with
  | none =>
    have unknown := index?_eq_none_iff.mp found
    rw [if_neg (by simpa using unknown)]
    exact ⟨sound, rfl⟩
  | some index =>
    have here := sound.index?_eq_some_iff.mp found
    have names : (graph.freed index id).toUsageGraph.vertices =
        graph.toUsageGraph.vertices.filter (· ≠ id) := by
      rw [toUsageGraph, toUsageGraph, List.filter_map]
      rfl
    rw [if_pos (by simpa using mem_vertices_of_index? found)]
    refine ⟨sound.freed here, (Prod.mk.injEq ..).mpr ⟨rfl, ?_⟩⟩
    exact (UsageGraph.mk.injEq ..).mpr ⟨names, sound.edges_freed here⟩

/-! Calls in turn. -/

def apply (graph : IndexedGraph) : GraphCall → IndexedGraph
  | .addEdge edge => (graph.addEdge edge).2
  | .removeVertex id => (graph.removeVertex id).2
  | .clear => empty

def run (calls : List GraphCall) : IndexedGraph :=
  calls.foldl apply empty

theorem Sound.apply (sound : graph.Sound) (call : GraphCall) :
    (graph.apply call).Sound ∧
      (graph.apply call).toUsageGraph = graph.toUsageGraph.apply call := by
  cases call with
  | addEdge edge =>
    obtain ⟨after, same⟩ := sound.addEdge edge
    exact ⟨after, congrArg Prod.snd same⟩
  | removeVertex id =>
    obtain ⟨after, same⟩ := sound.removeVertex id
    exact ⟨after, congrArg Prod.snd same⟩
  | clear => exact ⟨sound_empty, rfl⟩

theorem run_refines (calls : List GraphCall) :
    (run calls).Sound ∧ (run calls).toUsageGraph = UsageGraph.run calls := by
  induction calls using List.reverseRecOn with
  | nil => exact ⟨sound_empty, rfl⟩
  | append_singleton calls call ih =>
    obtain ⟨sound, same⟩ := ih
    have step := sound.apply call
    rw [same, ← UsageGraph.run_concat] at step
    rw [run, List.foldl_append]
    exact step

/-! What is asked of a graph. -/

theorem Sound.vertices_of_mem_edges (sound : graph.Sound) {edge : Edge}
    (member : edge ∈ graph.toUsageGraph.edges) :
    graph.index? edge.source ≠ none ∧ graph.index? edge.target ≠ none := by
  obtain ⟨link, -, stands⟩ := mem_edges_toUsageGraph.mp member
  obtain ⟨source, target, -⟩ := edgeOf?_eq_some_iff.mp stands
  rw [sound.index?_eq_some_iff.mpr source, sound.index?_eq_some_iff.mpr target]
  exact ⟨nofun, nofun⟩

theorem Sound.edgesBetween_eq (sound : graph.Sound) (source target : EntityId) :
    graph.edgesBetween source target = graph.toUsageGraph.edgesBetween source target := by
  unfold IndexedGraph.edgesBetween
  split
  next first second here there =>
    rw [sound.index?_eq_some_iff] at here there
    rw [sound.edgesAt_eq here there, List.reverse_reverse]
  next missing =>
    -- An edge between the two would have links, and links have both of their ends.
    refine (List.filter_eq_nil_iff.mpr fun edge member => ?_).symm
    obtain ⟨known, knownToo⟩ := sound.vertices_of_mem_edges member
    simp only [Bool.and_eq_true, decide_eq_true_eq, not_and]
    rintro rfl rfl
    obtain ⟨first, here⟩ := Option.ne_none_iff_exists'.mp known
    obtain ⟨second, there⟩ := Option.ne_none_iff_exists'.mp knownToo
    exact missing first second here there

theorem Sound.directed_eq (sound : graph.Sound) {side : Link → Nat} {part : Edge → EntityId}
    (stands : ∀ link edge, graph.edgeOf? link = some edge →
      graph.entityAt? (side link) = some (part edge)) (id : EntityId) :
    graph.directed side id =
      (graph.toUsageGraph.edges.filter fun edge => part edge = id).reverse := by
  unfold directed
  split
  next index here =>
    rw [sound.index?_eq_some_iff] at here
    apply edgesWhere_eq
    intro link edge isEdge
    simp only [sound.index_eq_iff here (stands link edge isEdge)]
  next unknown =>
    rw [eq_comm, List.reverse_eq_nil_iff, List.filter_eq_nil_iff]
    intro edge member
    obtain ⟨link, -, isEdge⟩ := mem_edges_toUsageGraph.mp member
    have known := sound.index?_eq_some_iff.mpr (stands link edge isEdge)
    rw [decide_eq_true_eq]
    rintro rfl
    cases unknown.symm.trans known

theorem Sound.edgeCount_eq (sound : graph.Sound) :
    graph.edgeCount = graph.toUsageGraph.edgeCount := by
  rw [edgeCount, UsageGraph.edgeCount, toUsageGraph, List.length_filterMap_eq_countP, eq_comm,
    List.countP_eq_length]
  intro link member
  obtain ⟨edge, stands⟩ := sound.linked link member
  rw [stands]
  rfl

theorem containsEdge_eq (graph : IndexedGraph) (source target : EntityId) :
    graph.containsEdge source target = !(graph.edgesBetween source target).isEmpty := by
  unfold containsEdge edgesBetween
  split
  next => rw [List.isEmpty_reverse]
  next => rfl

theorem edgesWithUsage_eq (graph : IndexedGraph) (usage : Usage) :
    graph.edgesWithUsage usage = graph.toUsageGraph.edgesWithUsage usage := by
  have newest := @edgesWhere_eq graph (fun link => link.usage = usage)
    (fun edge => edge.usage = usage) fun link edge stands => by
      rw [(edgeOf?_eq_some_iff.mp stands).2.2]
  rwa [edgesWhere, List.filterMap_reverse, List.reverse_inj] at newest

/-- Whatever was called, the graph with indices gives the answers of the one without them, and adds
and removes alike. -/
theorem run_answers_alike (calls : List GraphCall) :
    let graph := run calls
    let plain := UsageGraph.run calls
    (∀ edge, (graph.addEdge edge).1 = (plain.addEdge edge).1) ∧
    (∀ id, (graph.removeVertex id).1 = (plain.removeVertex id).1) ∧
    (∀ source target,
      graph.edgesBetween source target = plain.edgesBetween source target ∧
      graph.edge? source target = plain.edge? source target ∧
      graph.containsEdge source target = plain.containsEdge source target) ∧
    (∀ id,
      graph.incoming id = plain.incoming id ∧ graph.outgoing id = plain.outgoing id ∧
      graph.incident id = plain.incident id ∧
      graph.containsVertex id = plain.containsVertex id) ∧
    (∀ usage, graph.edgesWithUsage usage = plain.edgesWithUsage usage) ∧
    graph.edgeCount = plain.edgeCount ∧ graph.vertexCount = plain.vertexCount ∧
    graph.sortedVertices = plain.sortedVertices := by
  intro graph plain
  obtain ⟨sound, same⟩ : graph.Sound ∧ graph.toUsageGraph = plain := run_refines calls
  rw [← same]
  have incoming (id : EntityId) : graph.incoming id = graph.toUsageGraph.incoming id :=
    sound.directed_eq (fun _ _ stands => (edgeOf?_eq_some_iff.mp stands).2.1) id
  have outgoing (id : EntityId) : graph.outgoing id = graph.toUsageGraph.outgoing id :=
    sound.directed_eq (fun _ _ stands => (edgeOf?_eq_some_iff.mp stands).1) id
  refine ⟨?_, ?_, ?_, ?_, graph.edgesWithUsage_eq, sound.edgeCount_eq, ?_, rfl⟩
  · intro edge
    exact congrArg Prod.fst (sound.addEdge edge).2
  · intro id
    exact congrArg Prod.fst (sound.removeVertex id).2
  · intro source target
    have between := sound.edgesBetween_eq source target
    refine ⟨between, ?_, ?_⟩
    · rw [edge?, between, UsageGraph.edge?]
      rcases graph.toUsageGraph.edgesBetween source target with _ | ⟨edge, _ | ⟨_, _⟩⟩ <;> simp
    · rw [containsEdge_eq, between, UsageGraph.edgesBetween, UsageGraph.containsEdge,
        Bool.eq_iff_iff]
      simp
  · intro id
    refine ⟨incoming id, outgoing id, ?_, ?_⟩
    · rw [incident, incoming, outgoing, UsageGraph.incident]
    · rw [containsVertex, UsageGraph.containsVertex, Bool.eq_iff_iff, List.contains_iff_mem,
        Option.isSome_iff_ne_none, Ne, index?_eq_none_iff, not_not]
  · exact (List.length_map Prod.fst).symm

end CodeMetrics.IndexedGraph
