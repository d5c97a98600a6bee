import Mathlib.Data.Nat.Find

/-!
# Walks and distances

A walk takes single steps of a relation, and the distance between two ends is the
length of a shortest walk from one to the other. Whoever is at some distance has a
neighbour before it that is one step nearer.
-/

namespace Meshwork
set_option autoImplicit false

variable {α : Type*} {R S : α → α → Prop} {a b c : α} {m n d e : Nat}

/-- A walk of so many steps. -/
inductive Walk (R : α → α → Prop) : Nat → α → α → Prop
  | stay (a : α) : Walk R 0 a a
  | step {n : Nat} {a b c : α} (h : Walk R n a b) (hstep : R b c) : Walk R (n + 1) a c

namespace Walk

theorem mono (h : Walk R n a b) (hRS : ∀ a b, R a b → S a b) : Walk S n a b := by
  induction h with
  | stay a => exact .stay a
  | step _ hstep ih => exact .step ih (hRS _ _ hstep)

theorem eq_of_zero (h : Walk R 0 a b) : a = b := by
  cases h
  rfl

theorem head (hstep : R a b) (h : Walk R n b c) : Walk R (n + 1) a c := by
  induction h with
  | stay b => exact .step (.stay a) hstep
  | step _ hlast ih => exact .step (ih hstep) hlast

end Walk

/-- The shortest walks from one to the other have this length. -/
structure AtDistance (R : α → α → Prop) (a : α) (d : Nat) (b : α) : Prop where
  walk : Walk R d a b
  shortest : ∀ m, Walk R m a b → d ≤ m

namespace AtDistance

theorem self (a : α) : AtDistance R a 0 a := ⟨.stay a, fun _ _ => Nat.zero_le _⟩

theorem unique (h : AtDistance R a d b) (h' : AtDistance R a e b) : d = e :=
  Nat.le_antisymm (h.shortest e h'.walk) (h'.shortest d h.walk)

theorem eq_of_zero (h : AtDistance R a 0 b) : a = b := h.walk.eq_of_zero

theorem exists_of_walk (h : Walk R m a b) : ∃ d, d ≤ m ∧ AtDistance R a d b := by
  classical
  have hsome : ∃ d, Walk R d a b := ⟨m, h⟩
  exact ⟨Nat.find hsome, Nat.find_min' hsome h, Nat.find_spec hsome,
    fun _ hshort => Nat.find_min' hsome hshort⟩

/-- One step further is no more than one further away. -/
theorem exists_of_step (h : AtDistance R a d b) (hstep : R b c) :
    ∃ e, e ≤ d + 1 ∧ AtDistance R a e c :=
  exists_of_walk (h.walk.step hstep)

theorem exists_previous (h : AtDistance R a (d + 1) c) : ∃ b, AtDistance R a d b ∧ R b c := by
  cases h.walk with
  | @step _ _ b _ hwalk hstep =>
    refine ⟨b, ⟨hwalk, ?_⟩, hstep⟩
    intro m hm
    have hlonger := h.shortest (m + 1) (hm.step hstep)
    omega

end AtDistance
end Meshwork
