import Mathlib.Algebra.GroupWithZero.Nat
import Mathlib.Logic.Relation
import Meshwork.Proofs.Simulation.Sending
import Meshwork.Simulation.Topology

/-!
# Connected meshes

A search takes nodes off a stack, and for each one that it has not visited yet it puts the
unvisited nodes that this one leads to on the stack. It comes to an end whatever the edges
are, since every edge puts a node on the stack once at most. By then it has visited the
nodes that the first one leads to, and no others.
-/

namespace Meshwork.Simulation
set_option autoImplicit false

/-- One node leads straight to another. -/
def Edge (edges : List (List Nat)) (a b : Nat) : Prop := b ∈ edges.getD a []

/-- One turn of a search. The order in which nodes are put on the stack may be any. -/
inductive SearchTurn (edges : List (List Nat)) : List Bool × List Nat → List Bool × List Nat → Prop
  | skip {visited : List Bool} {node : Nat} {stack : List Nat} :
      visited[node]? ≠ some false → SearchTurn edges (visited, node :: stack) (visited, stack)
  | visit {visited : List Bool} {node : Nat} {stack pushed : List Nat} :
      visited[node]? = some false → pushed.Perm (unvisited edges (visited.set node true) node) →
        SearchTurn edges (visited, node :: stack) (visited.set node true, pushed ++ stack)

/-- How many edges lead from nodes that have not been visited. -/
def ahead (edges : List (List Nat)) (visited : List Bool) : Nat :=
  (visited.zipWith (fun seen next => if seen then 0 else next.length) edges).sum

/-- Where a search has come to that started from this node: all that it has found can be
reached, and what leads on from a visited node has been found. -/
structure Explores (edges : List (List Nat)) (start : Nat) (visited : List Bool)
    (stack : List Nat) : Prop where
  within : ∀ node ∈ stack, node < visited.length
  begun : visited[start]? = some true ∨ start ∈ stack
  reached : ∀ i, visited[i]? = some true ∨ i ∈ stack → Relation.ReflTransGen (Edge edges) start i
  onward : ∀ i j, visited[i]? = some true → Edge edges i j → visited[j]? = some true ∨ j ∈ stack

variable {edges : List (List Nat)} {visited visited' : List Bool} {stack stack' : List Nat}
variable {start node i j count : Nat} {s : Simulation}

/-! ## Searches end -/

theorem ahead_set (edges : List (List Nat)) (h : visited[node]? = some false) :
    ahead edges (visited.set node true) + (edges.getD node []).length = ahead edges visited := by
  unfold ahead
  induction visited generalizing edges node with
  | nil => cases h
  | cons seen visited ih =>
    cases edges with
    | nil =>
      rw [List.zipWith_nil_right, List.zipWith_nil_right, List.getD_nil]
      rfl
    | cons next edges =>
      cases node with
      | zero =>
        cases h
        simp only [List.set_cons_zero, List.zipWith_cons_cons, List.sum_cons, List.getD_cons_zero]
        exact (Nat.add_comm ..).trans (congrArg (next.length + ·) (Nat.zero_add _))
      | succ node =>
        have hrest := ih edges h
        simp only [List.set_cons_succ, List.zipWith_cons_cons, List.sum_cons,
          List.getD_cons_succ]
        omega

theorem ahead_replicate (edges : List (List Nat)) :
    ahead edges (List.replicate edges.length false) = (edges.map List.length).sum := by
  unfold ahead
  induction edges with
  | nil => rfl
  | cons next edges ih =>
    rw [List.length_cons, List.replicate_succ, List.zipWith_cons_cons, List.sum_cons, ih]
    rfl

/-- Every turn uses up an edge or takes a node off the stack for good. -/
theorem SearchTurn.ahead_lt (h : SearchTurn edges (visited, stack) (visited', stack')) :
    ahead edges visited' + stack'.length < ahead edges visited + stack.length := by
  cases h with
  | skip _ => exact Nat.lt_succ_self _
  | visit hnew hpushed =>
    have hedges := ahead_set edges hnew
    have hfound : _ ≤ (edges.getD _ []).length :=
      Nat.le_trans (Nat.le_of_eq hpushed.length_eq) (List.length_filter_le ..)
    rw [List.length_append, List.length_cons]
    omega

/-- A search goes on as long as there is something on the stack. -/
theorem exists_turn (hstack : stack ≠ []) : ∃ next, SearchTurn edges (visited, stack) next := by
  cases stack with
  | nil => exact absurd rfl hstack
  | cons node stack =>
    by_cases hnew : visited[node]? = some false
    · exact ⟨_, .visit hnew (List.Perm.refl _)⟩
    · exact ⟨_, .skip hnew⟩

theorem walk_ahead {a b : List Bool × List Nat} (h : Walk (SearchTurn edges) count a b) :
    count + (ahead edges b.1 + b.2.length) ≤ ahead edges a.1 + a.2.length := by
  induction h with
  | stay a => exact Nat.le_of_eq (Nat.zero_add _)
  | step _ hturn ih =>
    have hlast := hturn.ahead_lt
    omega

/-! ## Searches are right -/

theorem getElem?_visit (h : visited[node]? = some false) :
    (visited.set node true)[i]? = some true ↔ i = node ∨ visited[i]? = some true := by
  obtain ⟨hlt, _⟩ := List.getElem?_eq_some_iff.mp h
  by_cases hi : i = node
  · subst hi
    exact iff_of_true (List.getElem?_set_self hlt) (.inl rfl)
  · rw [List.getElem?_set_ne (Ne.symm hi)]
    exact (or_iff_right hi).symm

theorem mem_unvisited : j ∈ unvisited edges visited node ↔ Edge edges node j ∧
    visited[j]? = some false := by
  unfold unvisited Edge
  rw [List.mem_filter, beq_iff_eq]

theorem explores_start (edges : List (List Nat)) (hstart : start < count) :
    Explores edges start (List.replicate count false) [start] := by
  have hnone : ∀ i : Nat, (List.replicate count false)[i]? ≠ some true := by
    intro i hi
    cases List.eq_of_mem_replicate (List.mem_of_getElem? hi)
  refine ⟨?_, .inr List.mem_cons_self, ?_, fun i j hi => absurd hi (hnone i)⟩
  · intro node hnode
    rw [List.mem_singleton.mp hnode, List.length_replicate]
    exact hstart
  · intro i hi
    rw [List.mem_singleton.mp (hi.resolve_left (hnone i))]

theorem SearchTurn.length_eq (h : SearchTurn edges (visited, stack) (visited', stack')) :
    visited'.length = visited.length := by
  cases h with
  | skip _ => rfl
  | visit _ _ => exact List.length_set

theorem Explores.turn (h : Explores edges start visited stack)
    (hedges : ∀ i j, Edge edges i j → j < visited.length)
    (hturn : SearchTurn edges (visited, stack) (visited', stack')) :
    Explores edges start visited' stack' := by
  cases hturn with
  | @skip _ node _ hseen =>
    -- what is on the stack and no longer new has been visited
    have hvisited : visited[node]? = some true := by
      have hlt := h.within node List.mem_cons_self
      rw [List.getElem?_eq_getElem hlt] at hseen ⊢
      exact congrArg some (Bool.of_not_eq_false fun hfalse => hseen (congrArg some hfalse))
    have hfound : ∀ i, visited[i]? = some true ∨ i ∈ node :: stack' →
        visited[i]? = some true ∨ i ∈ stack' := by
      intro i hi
      rcases hi with hi | hi
      · exact .inl hi
      · rcases List.mem_cons.mp hi with rfl | hi
        · exact .inl hvisited
        · exact .inr hi
    exact ⟨fun n hn => h.within n (List.mem_cons_of_mem node hn), hfound start h.begun,
      fun i hi => h.reached i (hi.imp_right (List.mem_cons_of_mem node)),
      fun i j hi hedge => hfound j (h.onward i j hi hedge)⟩
  | @visit _ node left pushed hnew hpushed =>
    have hfound : ∀ i, visited[i]? = some true ∨ i ∈ node :: left →
        (visited.set node true)[i]? = some true ∨ i ∈ pushed ++ left := by
      intro i hi
      rw [getElem?_visit hnew, List.mem_append]
      rcases hi with hi | hi
      · exact .inl (.inr hi)
      · exact (List.mem_cons.mp hi).imp .inl .inr
    have hnode := h.reached node (.inr List.mem_cons_self)
    refine ⟨?_, hfound start h.begun, ?_, ?_⟩
    · intro n hn
      rw [List.length_set]
      rcases List.mem_append.mp hn with hn | hn
      · exact hedges node n (mem_unvisited.mp (hpushed.mem_iff.mp hn)).1
      · exact h.within n (List.mem_cons_of_mem node hn)
    · intro i hi
      rw [getElem?_visit hnew, List.mem_append] at hi
      rcases hi with (rfl | hi) | hi | hi
      · exact hnode
      · exact h.reached i (.inl hi)
      · exact hnode.tail (mem_unvisited.mp (hpushed.mem_iff.mp hi)).1
      · exact h.reached i (.inr (List.mem_cons_of_mem node hi))
    · intro i j hi hedge
      rcases (getElem?_visit hnew).mp hi with rfl | hi
      · -- the node that has just been visited: what it leads to was visited or is pushed
        have hlt : j < (visited.set i true).length := by
          rw [List.length_set]
          exact hedges i j hedge
        cases hj : (visited.set i true)[j] with
        | true => exact .inl (List.getElem?_eq_some_iff.mpr ⟨hlt, hj⟩)
        | false =>
          refine .inr (List.mem_append_left left (hpushed.mem_iff.mpr (mem_unvisited.mpr ?_)))
          exact ⟨hedge, List.getElem?_eq_some_iff.mpr ⟨hlt, hj⟩⟩
      · exact hfound j (h.onward i j hi hedge)

theorem Explores.walk {a b : List Bool × List Nat} (hwalk : Walk (SearchTurn edges) count a b)
    (h : Explores edges start a.1 a.2) (hedges : ∀ i j, Edge edges i j → j < a.1.length) :
    Explores edges start b.1 b.2 ∧ b.1.length = a.1.length := by
  induction hwalk with
  | stay a => exact ⟨h, rfl⟩
  | step _ hturn ih =>
    obtain ⟨hbefore, hlength⟩ := ih h hedges
    exact ⟨hbefore.turn (hlength ▸ hedges) hturn, hturn.length_eq.trans hlength⟩

/-- A search that has come to its end has visited what can be reached. -/
theorem Explores.visited_iff (h : Explores edges start visited []) :
    visited[i]? = some true ↔ Relation.ReflTransGen (Edge edges) start i := by
  constructor
  · exact fun hi => h.reached i (.inl hi)
  · intro hreach
    induction hreach with
    | refl => exact h.begun.resolve_right List.not_mem_nil
    | tail _ hedge ih => exact (h.onward _ _ ih hedge).resolve_right List.not_mem_nil

theorem Explores.all_iff (h : Explores edges start visited []) :
    visited.all id = true ↔
      ∀ i < visited.length, Relation.ReflTransGen (Edge edges) start i := by
  rw [List.all_eq_true, List.forall_mem_iff_forall_getElem]
  refine forall₂_congr fun i hi => ?_
  rw [← h.visited_iff, List.getElem?_eq_getElem hi, Option.some_inj]
  rfl

/-- A search that starts anew, along edges that lead to nodes. -/
theorem explores_walk {nodes : Nat} (hedges : ∀ i j, Edge edges i j → j < nodes)
    (hstart : start < nodes)
    (hwalk : Walk (SearchTurn edges) count (List.replicate nodes false, [start]) (visited, stack)) :
    Explores edges start visited stack ∧ visited.length = nodes := by
  have hlength : (List.replicate nodes false).length = nodes := List.length_replicate
  have hwalked := (explores_start edges hstart).walk hwalk (hlength.symm ▸ hedges)
  rw [hlength] at hwalked
  exact hwalked

/-- What is computed is a search from beginning to end. -/
theorem walk_visit (edges : List (List Nat)) (visited : List Bool) (stack : List Nat) :
    ∃ count, Walk (SearchTurn edges) count (visited, stack) (visit edges visited stack, []) := by
  induction visited, stack using visit.induct edges with
  | case1 visited =>
    rw [visit]
    exact ⟨0, .stay _⟩
  | case2 visited node stack hnew ih =>
    obtain ⟨count, hrest⟩ := ih
    rw [visit, if_pos hnew]
    exact ⟨count + 1, .head (.visit hnew (List.Perm.refl _)) hrest⟩
  | case3 visited node stack hseen ih =>
    obtain ⟨count, hrest⟩ := ih
    rw [visit, if_neg hseen]
    exact ⟨count + 1, .head (.skip hseen) hrest⟩

theorem all_visit_iff {nodes : Nat} (hedges : ∀ i j, Edge edges i j → j < nodes)
    (hstart : start < nodes) : (visit edges (List.replicate nodes false) [start]).all id = true ↔
      ∀ i < nodes, Relation.ReflTransGen (Edge edges) start i := by
  obtain ⟨count, hvisit⟩ := walk_visit edges (List.replicate nodes false) [start]
  obtain ⟨hend, hlength⟩ := explores_walk hedges hstart hvisit
  have hall := hend.all_iff
  rw [hlength] at hall
  exact hall

-- the last node leads to the first one, but edges are not taken backwards
example : visit [[1], [2], [], [0]] (List.replicate 4 false) [0] = [true, true, true, false] := by
  cbv

/-! ## The search of the mesh -/

theorem length_topology (s : Simulation) : s.topology.length = s.nodes.length := by
  unfold topology
  rw [List.length_map, List.length_zipIdx]

/-- All edges lead to nodes. -/
theorem lt_of_edge (h : Edge s.topology i j) : j < s.nodes.length := by
  unfold Edge at h
  rw [List.getD_eq_getElem?_getD] at h
  cases hrow : s.topology[i]? with
  | none =>
    rw [hrow] at h
    cases h
  | some row =>
    rw [hrow, Option.getD_some] at h
    unfold topology at hrow
    obtain ⟨_, _, rfl⟩ := List.mem_map.mp (List.mem_of_getElem? hrow)
    obtain ⟨⟨b, k⟩, hmem, rfl⟩ := List.mem_map.mp h
    obtain ⟨hlt, _⟩ := List.mem_zipIdx' (List.mem_filter.mp hmem).1
    exact hlt

/-- A mesh is found to be connected if and only if it has no nodes or the first one leads to
all of them. In whatever order a search takes the edges, it looks nodes up that there are,
and goes on while there is something on the stack; it takes one turn more than there are
edges at most, and whenever it ends it has found the same. -/
theorem isConnected_iff_reachable (s : Simulation) :
    (s.isConnected = true ↔ s.nodes = [] ∨
      ∀ i < s.nodes.length, Relation.ReflTransGen (Edge s.topology) 0 i) ∧
    (s.nodes ≠ [] → ∀ count visited stack,
      Walk (SearchTurn s.topology) count (List.replicate s.nodes.length false, [0])
        (visited, stack) →
        count ≤ (s.topology.map List.length).sum + 1 ∧
        (∀ node ∈ stack, node < visited.length) ∧
        (stack ≠ [] → ∃ next, SearchTurn s.topology (visited, stack) next) ∧
        (stack = [] → (visited.all id = true ↔ s.isConnected = true))) := by
  have hedges : ∀ i j, Edge s.topology i j → j < s.nodes.length := fun _ _ => lt_of_edge
  have hconnected : s.nodes ≠ [] → (s.isConnected = true ↔
      ∀ i < s.nodes.length, Relation.ReflTransGen (Edge s.topology) 0 i) := by
    intro hnodes
    rw [← all_visit_iff hedges (List.length_pos_iff.mpr hnodes)]
    unfold isConnected
    split
    · contradiction
    · exact Iff.rfl
  refine ⟨?_, ?_⟩
  · by_cases hnodes : s.nodes = []
    · refine iff_of_true ?_ (.inl hnodes)
      unfold isConnected
      rw [hnodes]
    · rw [hconnected hnodes]
      exact (or_iff_right hnodes).symm
  · intro hnodes count visited stack hwalk
    obtain ⟨hexplores, hlength⟩ := explores_walk hedges (List.length_pos_iff.mpr hnodes) hwalk
    refine ⟨?_, hexplores.within, exists_turn, ?_⟩
    · have hturns := walk_ahead hwalk
      rw [← length_topology, ahead_replicate, List.length_singleton] at hturns
      omega
    · rintro rfl
      rw [hexplores.all_iff, hlength, hconnected hnodes]

theorem not_le_of_notANumber (x : Float) : ¬(0.0 / 0.0 : Float) ≤ x := by
  have hbound : (0.0 / 0.0 : Float).toModel.unpack = .notANumber := rfl
  intro hle
  change decide ((0.0 / 0.0 : Float).toModel.unpack.le x.toModel.unpack = true) = true at hle
  rw [hbound, decide_eq_true_iff] at hle
  cases hle

/-- Two devices that no signal is strong enough for. -/
def deafMesh : Simulation :=
  { sampleMesh with setup := { medium := { sensitivity := 0.0 / 0.0 } } }

theorem topology_deafMesh : deafMesh.topology = [[], []] := by
  have hnone : ∀ a b : Position, decide (deafMesh.setup.medium.sensitivity ≤
      deafMesh.setup.medium.rssi a b) = false :=
    fun a b => decide_eq_false (not_le_of_notANumber _)
  unfold topology
  simp only [hnone, Bool.and_false, List.filter_false, List.map_nil]
  rfl

/-- The first of the two leads nowhere, so one turn ends the search and the other is missed. -/
theorem isConnected_iff_reachable_deaf :
    deafMesh.nodes ≠ [] ∧
    Walk (SearchTurn deafMesh.topology) 1 ([false, false], [0]) ([true, false], []) ∧
    deafMesh.isConnected = false ∧ 1 ≤ (deafMesh.topology.map List.length).sum + 1 := by
  have hnodes : deafMesh.nodes ≠ [] := List.cons_ne_nil _ _
  have hwalk : Walk (SearchTurn deafMesh.topology) 1 ([false, false], [0]) ([true, false], []) := by
    rw [topology_deafMesh]
    have hturn :
        SearchTurn [[], []] ([false, false], 0 :: []) ([false, false].set 0 true, [] ++ []) :=
      .visit rfl (List.Perm.refl _)
    exact .step (.stay _) hturn
  obtain ⟨hturns, _, _, hend⟩ := (isConnected_iff_reachable deafMesh).2 hnodes 1 _ _ hwalk
  have hmissed : deafMesh.isConnected ≠ true := by
    intro hconnected
    cases (hend rfl).mpr hconnected
  exact ⟨hnodes, hwalk, Bool.eq_false_iff.mpr hmissed, hturns⟩

end Meshwork.Simulation
