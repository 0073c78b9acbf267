import CodeMetrics.Proofs.Index.Walks
import CodeMetrics.Proofs.Model.Integrity

/-!
The removal of an entity takes its whole subtree out of the index and every edge at the subtree out
of the graph, and nothing else. What goes is given back as it stood; what stays does so as it was,
except that the parent of the entity no longer lists it.
-/

namespace CodeMetrics

namespace UsageGraph

/-- A graph without some entities: every listing is the old one without the edges at them. -/
structure Loses (graph : UsageGraph) (ids : List EntityId) (after : UsageGraph) : Prop where
  edges : after.edges = graph.edges.filter fun edge => edge.source ∉ ids ∧ edge.target ∉ ids
  edgesBetween : ∀ source target, after.edgesBetween source target =
    (graph.edgesBetween source target).filter fun edge => edge.source ∉ ids ∧ edge.target ∉ ids
  outgoing : ∀ id, after.outgoing id =
    (graph.outgoing id).filter fun edge => edge.source ∉ ids ∧ edge.target ∉ ids
  incoming : ∀ id, after.incoming id =
    (graph.incoming id).filter fun edge => edge.source ∉ ids ∧ edge.target ∉ ids
  incident : ∀ id, after.incident id =
    (graph.incident id).filter fun edge => edge.source ∉ ids ∧ edge.target ∉ ids
  edgesWithUsage : ∀ usage, after.edgesWithUsage usage =
    (graph.edgesWithUsage usage).filter fun edge => edge.source ∉ ids ∧ edge.target ∉ ids
  edge? : ∀ source target, after.edge? source target =
    if source ∉ ids ∧ target ∉ ids then graph.edge? source target else none
  containsEdge : ∀ source target, after.containsEdge source target = true ↔
    graph.containsEdge source target = true ∧ source ∉ ids ∧ target ∉ ids
  containsVertex : ∀ id, after.containsVertex id = true ↔
    graph.containsVertex id = true ∧ id ∉ ids

/-- All edges between two entities stay or go together. -/
theorem edgesBetween_filter (graph : UsageGraph) (ids : List EntityId) (source target : EntityId) :
    ((graph.edgesBetween source target).filter fun edge =>
        edge.source ∉ ids ∧ edge.target ∉ ids) =
      if source ∉ ids ∧ target ∉ ids then graph.edgesBetween source target else [] := by
  have ends : ∀ edge ∈ graph.edgesBetween source target,
      edge.source = source ∧ edge.target = target := by
    intro edge member
    simpa using (List.mem_filter.mp member).2
  split
  next stay =>
    rw [List.filter_eq_self]
    intro edge member
    obtain ⟨rfl, rfl⟩ := ends edge member
    exact decide_eq_true stay
  next go =>
    rw [List.filter_eq_nil_iff]
    intro edge member
    obtain ⟨rfl, rfl⟩ := ends edge member
    exact mt of_decide_eq_true go

theorem edge?_eq_of_edgesBetween {graph after : UsageGraph} {source target : EntityId}
    (same : after.edgesBetween source target = graph.edgesBetween source target) :
    after.edge? source target = graph.edge? source target := by
  rw [edge?, same, edge?]

theorem containsEdge_iff_edgesBetween {graph : UsageGraph} {source target : EntityId} :
    graph.containsEdge source target = true ↔ graph.edgesBetween source target ≠ [] := by
  rw [containsEdge, edgesBetween, Ne, List.filter_eq_nil_iff, List.any_eq_true]
  simp

theorem Anchored.loses {graph : UsageGraph} (anchored : graph.Anchored) (ids : List EntityId) :
    graph.Loses ids (graph.removeVertices ids) := by
  have edges := anchored.edges_removeVertices ids
  have between : ∀ source target, (graph.removeVertices ids).edgesBetween source target =
      (graph.edgesBetween source target).filter fun edge =>
        edge.source ∉ ids ∧ edge.target ∉ ids := by
    intro source target
    rw [edgesBetween, edges, List.filter_comm, edgesBetween]
  have outgoing : ∀ id, (graph.removeVertices ids).outgoing id =
      (graph.outgoing id).filter fun edge => edge.source ∉ ids ∧ edge.target ∉ ids := by
    intro id
    rw [UsageGraph.outgoing, edges, List.filter_comm, UsageGraph.outgoing, List.filter_reverse]
  have incoming : ∀ id, (graph.removeVertices ids).incoming id =
      (graph.incoming id).filter fun edge => edge.source ∉ ids ∧ edge.target ∉ ids := by
    intro id
    rw [UsageGraph.incoming, edges, List.filter_comm, UsageGraph.incoming, List.filter_reverse]
  refine ⟨edges, between, outgoing, incoming, ?_, ?_, ?_, ?_, ?_⟩
  · intro id
    rw [incident, outgoing, incoming, List.filter_comm, incident, List.filter_append]
  · intro usage
    rw [edgesWithUsage, edges, List.filter_comm, edgesWithUsage]
  · intro source target
    have same := (between source target).trans (graph.edgesBetween_filter ids source target)
    split
    next stay => exact edge?_eq_of_edgesBetween (same.trans (if_pos stay))
    next go => rw [edge?, same, if_neg go]
  · intro source target
    have same := (between source target).trans (graph.edgesBetween_filter ids source target)
    rw [containsEdge_iff_edgesBetween, containsEdge_iff_edgesBetween, same]
    split
    next stay => simp [stay]
    next go => simp [go]
  · intro id
    simp only [UsageGraph.containsVertex, List.contains_iff_mem, mem_vertices_removeVertices]

end UsageGraph

namespace EntityIndex.Removed

variable {index after : EntityIndex} {id other : EntityId} {entity : Entity}
  {removed : List Entity}

theorem map_removed (gone : index.Removed id entity removed after) (wf : index.WellFormed) :
    removed.map some = (index.subtree id).map index.get? := by
  rw [gone.returned, List.map_filterMap_some_eq_filter_map_isSome, List.filter_eq_self]
  intro found member
  obtain ⟨other, inside, rfl⟩ := List.mem_map.mp member
  exact Option.isSome_iff_exists.mpr (((mem_subtree_iff wf).mp inside).live wf)

theorem contains_iff (gone : index.Removed id entity removed after) (wf : index.WellFormed) :
    after.contains other = true ↔ index.contains other = true ∧ other ∉ index.subtree id := by
  have lost := gone.liveIds_eq wf
  rw [← mem_liveIds, lost, Finset.mem_sdiff, mem_liveIds, List.mem_toFinset]

theorem size_add_length (gone : index.Removed id entity removed after) (wf : index.WellFormed) :
    after.size + removed.length = index.size := by
  have fewer : removed.length ≤ index.size := by
    rw [gone.length_removed wf, wf.size_eq,
      ← List.toFinset_card_of_nodup (subtree_nodup wf id)]
    apply Finset.card_le_card
    intro other member
    rw [List.mem_toFinset, mem_subtree_iff wf] at member
    exact mem_liveIds.mpr (EntityIndex.contains_iff.mpr (member.live wf))
  rw [gone.size, Nat.sub_add_cancel fewer]

theorem key_free (gone : index.Removed id entity removed after) {lost : Entity}
    (member : lost ∈ removed) : after.idOf? lost.key = none := by
  rw [gone.keys, if_pos ⟨lost, member, rfl⟩]

theorem key_kept (gone : index.Removed id entity removed after) {key : String}
    (unused : ∀ lost ∈ removed, lost.key ≠ key) : after.idOf? key = index.idOf? key := by
  rw [gone.keys, if_neg]
  rintro ⟨lost, member, same⟩
  exact unused lost member same

/-- The parent stays, without the entity among its children; all others stay as they were. -/
theorem frame (gone : index.Removed id entity removed after) (wf : index.WellFormed) :
    ∃ parent above, index.parentOf? id = some parent ∧ index.get? parent = some above ∧
      after.get? parent =
        some { above with children := above.children.filter (· ≠ id) } ∧
      ∀ other, other ∉ index.subtree id → other ≠ parent → after.get? other = index.get? other := by
  obtain ⟨parent, above, isParent, older, foundAbove, listed⟩ := wf.listed gone.found gone.notRoot
  have outside : ¬index.Within id parent := fun inside =>
    absurd (inside.le wf) (Nat.not_le_of_lt older)
  refine ⟨parent, above, ?_, foundAbove, gone.keeps wf foundAbove outside, ?_⟩
  · rw [parentOf?, gone.found, Option.bind_some, isParent]
  · intro other apart notParent
    have unlinked : ¬entity.parent? = some other := fun isOther =>
      notParent (Option.some.inj (isOther.symm.trans isParent))
    rw [gone.lookup, if_neg apart, if_neg unlinked]

end EntityIndex.Removed

namespace Model

theorem exists_remove {model : Model} {id : EntityId} (notRoot : id ≠ EntityIndex.root)
    (live : model.index.contains id = true) :
    ∃ removed after, model.remove id = .ok (removed, after) := by
  obtain ⟨entity, found⟩ := EntityIndex.contains_iff.mp live
  rw [Model.remove, EntityIndex.remove_found notRoot found]
  exact ⟨_, _, rfl⟩

theorem exists_insert {model : Model} {parent : EntityId} {entity : Entity}
    (free : model.index.idOf? entity.key = none) (live : model.index.contains parent = true) :
    ∃ id after, model.insert parent entity = .ok (id, after) := by
  rw [Model.insert, EntityIndex.insert, free, if_pos live]
  exact ⟨_, _, rfl⟩

/-- After any calls every live entity but the project can be removed. The answer is its subtree in
pre-order, with all entities as they stood. In the index these entities are gone, their keys are free
again and the parent no longer lists the entity, and all else is as it was. The graph answers as
before, less the edges at the subtree. -/
theorem remove_exact_cascade (project : Entity) (calls : List ModelCall) (id : EntityId)
    (notRoot : id ≠ EntityIndex.root)
    (live : ((ofProject project).run calls).index.contains id = true) :
    let model := (ofProject project).run calls
    ∃ ids removed after, model.remove id = .ok (removed, after) ∧
      model.index.InPreOrder id ids ∧ removed.map some = ids.map model.index.get? ∧
      (∀ other, after.index.contains other = true ↔
        model.index.contains other = true ∧ other ∉ ids) ∧
      (∃ parent above, model.index.parentOf? id = some parent ∧
        model.index.get? parent = some above ∧
        after.index.get? parent =
          some { above with children := above.children.filter (· ≠ id) } ∧
        ∀ other, other ∉ ids → other ≠ parent →
          after.index.get? other = model.index.get? other) ∧
      (∀ lost ∈ removed, ∀ parent entity, after.index.contains parent = true →
        entity.key = lost.key → ∃ fresh grown, after.insert parent entity = .ok (fresh, grown)) ∧
      (∀ key, (∀ lost ∈ removed, lost.key ≠ key) →
        after.index.idOf? key = model.index.idOf? key) ∧
      after.index.size + removed.length = model.index.size ∧
      model.graph.Loses ids after.graph := by
  intro model
  have consistent : model.Consistent := (consistent_ofProject project).run calls
  have wf := consistent.wellFormed
  obtain ⟨removed, after, done⟩ := exists_remove notRoot live
  obtain ⟨⟨entity, gone⟩, sameGraph⟩ := remove_eq_ok wf done
  refine ⟨model.index.subtree id, removed, after, done, EntityIndex.inPreOrder_subtree wf id,
    gone.map_removed wf, fun other => gone.contains_iff wf, gone.frame wf, ?_,
    fun key => gone.key_kept, gone.size_add_length wf, ?_⟩
  · intro lost member parent entity parentLive sameKey
    exact exists_insert (sameKey ▸ gone.key_free member) parentLive
  · rw [sameGraph]
    exact consistent.anchored.loses _

/-- A package with two files goes, beside a file that uses one of them and itself: the three entities
are given back, and of the three edges the file's own one is left. -/
theorem remove_exact_cascade_of_package :
    let model := (ofKey "p").run
      [.insert EntityIndex.root { kind := .package, key := "src" },
        .insert 1 { kind := .file, key := "a" }, .insert 1 { kind := .file, key := "b" },
        .insert EntityIndex.root { kind := .file, key := "c" },
        .addEdge ⟨2, 3, .uses⟩, .addEdge ⟨4, 2, .extends⟩, .addEdge ⟨4, 4, .uses⟩]
    1 ≠ EntityIndex.root ∧ model.index.contains 1 = true ∧
      ∃ ids removed after, model.remove 1 = .ok (removed, after) ∧
        model.index.InPreOrder 1 ids ∧ removed.map some = ids.map model.index.get? ∧
        removed.map Entity.key = ["src", "a", "b"] ∧
        after.index.size + removed.length = model.index.size ∧
        after.graph.edges = [⟨4, 4, .uses⟩] := by
  intro model
  have live : model.index.contains 1 = true := by decide +kernel
  have evaluated : ((model.remove 1).toOption.any fun answer =>
      answer.1.map Entity.key = ["src", "a", "b"] ∧
        answer.2.graph.edges = [⟨4, 4, .uses⟩]) = true := by decide +kernel
  obtain ⟨ids, removed, after, done, walks, stood, _, _, _, _, size, _⟩ :=
    remove_exact_cascade { kind := .project, key := "p" } _ 1 (by decide) live
  change model.remove 1 = .ok (removed, after) at done
  rw [done] at evaluated
  obtain ⟨keys, edges⟩ := of_decide_eq_true evaluated
  exact ⟨by decide, live, ids, removed, after, done, walks, stood, keys, size, edges⟩

end Model

end CodeMetrics
