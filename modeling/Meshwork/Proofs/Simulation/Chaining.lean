import Meshwork.Simulation.Step

/-!
# What holds turn by turn

A relation of a state to a later one that can be chained holds of a whole loop if it holds of
every turn. Polls and provisioning give up at the first error and keep what was done until
then, so it holds of them whether they come through or not.
-/

namespace Meshwork.Simulation
set_option autoImplicit false

theorem chain_drainInbox {R : Device → Device → Prop} (hrefl : ∀ d, R d d)
    (htrans : ∀ {d m m'}, R d m → R m m' → R d m') {now : UInt64}
    (hpoll : ∀ (d : Device) (draws : Draws), R d (d.poll now draws).2.1)
    (fuel : Nat) (d : Device) (draws : Draws) : R d (drainInbox fuel d now draws).2.1 := by
  induction fuel generalizing d draws with
  | zero => exact hrefl d
  | succ fuel ih =>
    have hfirst := hpoll d draws
    unfold drainInbox
    generalize d.poll now draws = polled at hfirst ⊢
    rcases polled with ⟨result, m, draws⟩
    rcases result with e | none | outcome
    · exact hfirst
    · exact hfirst
    · exact htrans hfirst (ih m draws)

section

variable {R : Simulation → Simulation → Prop} (hrefl : ∀ s, R s s)
  (htrans : ∀ {s s' s''}, R s s' → R s' s'' → R s s'')
include hrefl htrans

theorem chain_pollAll
    (hdrain : ∀ (s : Simulation) (index : Nat),
      R s (s.onDevice index fun d draws => drainDevice d s.now draws).2)
    (s : Simulation) (indices : List Nat) : R s (s.pollAll indices).2 := by
  induction indices generalizing s with
  | nil => exact hrefl s
  | cons index rest ih =>
    have hfirst := hdrain s index
    unfold pollAll
    generalize s.onDevice index _ = drained at hfirst ⊢
    rcases drained with ⟨result, left⟩
    rcases result with none | e | _
    · exact htrans hfirst (ih left)
    · exact hfirst
    · exact htrans hfirst (ih left)

section

variable (hprovision : ∀ (s : Simulation) (index : Nat) (n : SimNode) (key : MeshKey),
  s.nodes[index]? = some n → R s (s.setDevice index (n.device.provision key).2))
include hprovision

theorem chain_provisionFrom (s : Simulation) (key : MeshKey) (indices : List Nat) :
    R s (s.provisionFrom key indices).2 := by
  induction indices generalizing s with
  | nil => exact hrefl s
  | cons index rest ih =>
    unfold provisionFrom device?
    cases hn : s.nodes[index]? with
    | none => exact ih s
    | some n =>
      simp only [Option.map_some]
      split
      · exact ih s
      · have hfirst := hprovision s index n key hn
        generalize n.device.provision key = provisioned at hfirst ⊢
        rcases provisioned with ⟨result, d⟩
        cases result with
        | error e => exact hfirst
        | ok done => exact htrans hfirst (ih _)

theorem chain_provisionAll
    (henable : ∀ s : Simulation, R s (s.onDevice 0 fun d draws => d.enableInclusion draws).2)
    (hdisable : ∀ (s : Simulation) (n : SimNode), s.nodes[0]? = some n →
      R s (s.setDevice 0 n.device.disableInclusion))
    (s : Simulation) : R s s.provisionAll.2 := by
  have hfirst := henable s
  unfold provisionAll
  generalize s.onDevice 0 _ = enabled at hfirst ⊢
  rcases enabled with ⟨result, left⟩
  rcases result with none | e | _
  · exact hfirst
  · exact hfirst
  · simp only
    unfold device?
    cases hn : left.nodes[0]? with
    | none => exact hfirst
    | some n =>
      have hhub := htrans hfirst (hdisable left n hn)
      simp only [Option.map_some]
      split
      · exact hhub
      · exact htrans hhub (chain_provisionFrom hrefl htrans hprovision _ _ _)

end
end
end Meshwork.Simulation
