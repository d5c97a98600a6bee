import Meshwork.Simulation.Step

/-! # Who hears whom

The neighbours of each node by their places, and a search along them from the
first node on. -/

namespace Meshwork.Simulation
set_option autoImplicit false

/-- The nodes that hear each node, by index. -/
def topology (s : Simulation) : List (List Nat) :=
  s.nodes.zipIdx.map fun (a, i) =>
    (s.nodes.zipIdx.filter fun (b, j) =>
      i != j && s.setup.medium.sensitivity ≤ s.setup.medium.rssi a.position b.position).map (·.2)

/-- The nodes not visited that a node leads to. -/
def unvisited (edges : List (List Nat)) (visited : List Bool) (node : Nat) : List Nat :=
  (edges.getD node []).filter fun next => visited[next]? == some false

theorem count_set_lt {visited : List Bool} {node : Nat} (h : visited[node]? = some false) :
    (visited.set node true).count false < visited.count false := by
  obtain ⟨hlt, hval⟩ := List.getElem?_eq_some_iff.mp h
  have hpos : 0 < visited.count false := List.count_pos_iff.mpr (hval ▸ List.getElem_mem hlt)
  rw [List.count_set hlt, hval]
  exact Nat.sub_lt hpos Nat.one_pos

/-- Visits whatever the nodes on the stack lead to. -/
def visit (edges : List (List Nat)) (visited : List Bool) : List Nat → List Bool
  | [] => visited
  | node :: stack =>
    if visited[node]? = some false then
      visit edges (visited.set node true)
        (unvisited edges (visited.set node true) node ++ stack)
    else visit edges visited stack
termination_by stack => (visited.count false, stack.length)
decreasing_by
  · rename_i h
    exact Prod.Lex.left _ _ (count_set_lt h)
  · exact Prod.Lex.right _ (Nat.lt_succ_self stack.length)

/-- Whether the first node leads to all others; so it does if there is none. -/
def isConnected (s : Simulation) : Bool :=
  match s.nodes with
  | [] => true
  | _ :: _ => (visit s.topology (List.replicate s.nodes.length false) [0]).all id

end Meshwork.Simulation
