import Meshwork.Proofs.Network.Runs

/-!
# The moves of a network

A move is a step of a handshake, a request, or takes something away. Keys
are lost only by leaving, and hubs have no handshake of their own.
-/

namespace Meshwork
set_option autoImplicit false

namespace Party

theorem ne_append_singleton {α : Type} {l : List α} {a : α} : l ≠ l ++ [a] := by
  intro h
  have hlength := congrArg List.length h
  rw [List.length_append, List.length_singleton] at hlength
  omega

/-- What the remaining actions leave behind: handshakes only end, nobody is
taken in, and only leaving takes the key away. -/
structure Fades (a : Action) (s s' : Party) : Prop where
  setup : s'.inclusion.setup = s.inclusion.setup
  provider : s'.keys.provider = s.keys.provider
  own : s'.inclusion.own = s.inclusion.own ∨ s'.inclusion.own = none
  session : ∀ peer session, s'.inclusion.session? peer = some session →
    s.inclusion.session? peer = some session
  key : a ≠ .leave → s.keys.hasKey = true → s'.keys = s.keys
  events : ∀ peer, s'.inclusion.events ≠ s.inclusion.events ++ [.included peer]

theorem Fades.refl (a : Action) (s : Party) : Fades a s s where
  setup := rfl
  provider := rfl
  own := Or.inl rfl
  session _ _ h := h
  key _ _ := rfl
  events _ := ne_append_singleton

theorem fades_expire (s : Party) (now : UInt64) :
    Fades (.expire now) s { s with inclusion := s.inclusion.checkTimeouts now } := by
  obtain ⟨rest, _, hown, _, hsession, hcheck⟩ := s.inclusion.checkTimeouts_cases now
  refine ⟨s.inclusion.checkTimeouts_setup now, rfl, ?_, ?_, fun _ _ => rfl, ?_⟩
  · rcases hcheck with hcheck | ⟨session, hsome, _, hcheck⟩
    · exact Or.inl ((congrArg Inclusion.own hcheck).trans hown)
    · refine Or.inr ((congrArg Inclusion.own hcheck).trans ?_)
      rw [Inclusion.failOwn_eq .timeout (hown.trans hsome)]
      rfl
  · intro peer session h
    refine hsession peer session ?_
    change (s.inclusion.checkTimeouts now).session? peer = some session at h
    rcases hcheck with hcheck | ⟨_, hsome, _, hcheck⟩
    · rw [hcheck] at h
      exact h
    · rw [hcheck, Inclusion.failOwn_eq .timeout (hown.trans hsome)] at h
      exact h
  · intro peer h
    obtain ⟨more, hmore, hnone⟩ := s.inclusion.takesNobody_checkTimeouts now
    have heq := List.append_cancel_left (hmore.symm.trans h)
    exact hnone peer (heq ▸ List.mem_singleton.mpr rfl)

theorem fades_leave (s : Party) : Fades .leave s s.leave := by
  unfold leave
  split
  · exact ⟨rfl, rfl, Or.inr rfl, fun _ _ h => h, fun h => absurd rfl h,
      fun _ => ne_append_singleton⟩
  · exact Fades.refl .leave s

theorem fades_enable (s : Party) : Fades .enable s s.enable.2 := by
  unfold enable
  split
  · exact Fades.refl .enable s
  · simp only
    cases hkey : s.keys.key with
    | some key =>
      exact ⟨rfl, rfl, Or.inl rfl, fun _ _ h => h, fun _ _ => rfl,
        fun _ => ne_append_singleton⟩
    | none =>
      simp only
      rcases s.keys.install_cases (CryptoProvider.freshKey s.draws).1 with
        ⟨e, hsome, _⟩ | ⟨_, hinstall⟩
      · rw [hkey] at hsome
        cases hsome
      · rw [hinstall]
        refine ⟨rfl, rfl, Or.inl rfl, fun _ _ h => h, ?_, fun _ => ne_append_singleton⟩
        intro _ hhas
        rw [KeyRing.hasKey, hkey] at hhas
        cases hhas

theorem act_cases (s : Party) (heard : Option Packet) (a : Action) :
    (∃ frame now p result, a = .deliver frame now ∧ heard = some p ∧
        Handled s p now result (s.act heard a).2 ∧
        (s.act heard a).1 = result.toOption.join) ∨
      (∃ now result, a = .request now ∧ Requested s now result (s.act heard a).2 ∧
        (s.act heard a).1 = result.toOption) ∨
      ((s.act heard a).1 = none ∧ Fades a s (s.act heard a).2) := by
  cases a with
  | deliver frame now =>
    cases heard with
    | none => exact Or.inr (Or.inr ⟨rfl, Fades.refl _ s⟩)
    | some p =>
      have hhandled := s.handled p now
      refine Or.inl ⟨frame, now, p, (s.handle p now).1, rfl, rfl, ?_⟩
      unfold act
      simp only
      rcases hresult : s.handle p now with ⟨result, after⟩
      rw [hresult] at hhandled
      cases result with
      | error e => exact ⟨hhandled, rfl⟩
      | ok reply => exact ⟨hhandled, rfl⟩
  | request now =>
    have hrequested := s.requested now
    refine Or.inr (Or.inl ⟨now, (s.request now).1, rfl, ?_⟩)
    unfold act
    simp only
    rcases hresult : s.request now with ⟨result, after⟩
    rw [hresult] at hrequested
    cases result with
    | error e => exact ⟨hrequested, rfl⟩
    | ok p => exact ⟨hrequested, rfl⟩
  | expire now => exact Or.inr (Or.inr ⟨rfl, s.fades_expire now⟩)
  | leave => exact Or.inr (Or.inr ⟨rfl, s.fades_leave⟩)
  | enable => exact Or.inr (Or.inr ⟨rfl, s.fades_enable⟩)
  | disable =>
    exact Or.inr (Or.inr ⟨rfl, rfl, rfl, Or.inl rfl, fun _ _ h => h, fun _ _ => rfl,
      fun _ => ne_append_singleton⟩)
  | drain =>
    exact Or.inr (Or.inr ⟨rfl, rfl, rfl, Or.inl rfl, fun _ _ h => h, fun _ _ => rfl,
      fun _ h => List.append_ne_nil_of_right_ne_nil _ (List.cons_ne_nil _ _) h.symm⟩)

end Party

namespace Run

variable {r : Run} {provider : CryptoProvider} {i : Nat} {n : NodeId}

/-- Whoever makes a move takes a step of a handshake, asks for inclusion, or fades. -/
theorem step_cases (hstart : r.Starts provider) (h : r.node? i = some n) :
    (∃ k now p result, r.heard? i = some k ∧ k < i ∧ r.said? k = some p ∧
        Party.Handled (r.party i n) p now result (r.party (i + 1) n) ∧
        r.said? i = result.toOption.join) ∨
      (∃ now result, Party.Requested (r.party i n) now result (r.party (i + 1) n) ∧
        r.said? i = result.toOption) ∨
      ∃ a, r.moves[i]? = some ⟨n, a⟩ ∧ r.said? i = none ∧
        Party.Fades a (r.party i n) (r.party (i + 1) n) := by
  unfold node? at h
  cases hm : r.moves[i]? with
  | none =>
    rw [hm] at h
    cases h
  | some m =>
    rw [hm] at h
    obtain rfl := Option.some.inj h
    have hsaid : r.said? i = ((r.state i).result m).1 := by
      unfold said?
      rw [hm]
    have hcases := (r.party i m.node).act_cases ((r.state i).heard m.action) m.action
    rw [party_mover hm, hsaid]
    rcases hcases with ⟨k, now, p, result, haction, hheard, hhandled, hresult⟩ |
      ⟨now, result, _, hrequested, hresult⟩ | ⟨hnone, hfades⟩
    · left
      rw [haction] at hheard
      obtain ⟨hlt, hframe⟩ := said_of_frame hstart.air i hheard
      refine ⟨k, now, p, result, ?_, hlt, hframe, hhandled, hresult⟩
      unfold heard?
      rw [hm]
      rcases m with ⟨node, action⟩
      obtain rfl : action = .deliver k now := haction
      rfl
    · right; left
      exact ⟨now, result, hrequested, hresult⟩
    · right; right
      exact ⟨m.action, rfl, hnone, hfades⟩

/-! ## What never changes -/

theorem party_induct {P : Party → Prop} (hzero : P (r.party 0 n))
    (hstep : ∀ i, r.node? i = some n → P (r.party i n) → P (r.party (i + 1) n)) (i : Nat) :
    P (r.party i n) := by
  induction i with
  | zero => exact hzero
  | succ i ih =>
    by_cases hn : r.node? i = some n
    · exact hstep i hn ih
    · rw [party_other hn]
      exact ih

theorem setup_party (hstart : r.Starts provider) (i : Nat) (n : NodeId) :
    (r.party i n).inclusion.setup = (r.party 0 n).inclusion.setup := by
  refine party_induct (P := fun s => s.inclusion.setup = (r.party 0 n).inclusion.setup) rfl ?_ i
  intro i hn ih
  rcases step_cases hstart hn with ⟨_, _, _, _, _, _, _, hhandled, _⟩ | ⟨_, _, hrequested, _⟩ |
    ⟨_, _, _, hfades⟩
  · exact hhandled.setup.trans ih
  · exact hrequested.setup.trans ih
  · exact hfades.setup.trans ih

theorem nodeId_party (hstart : r.Starts provider) (i : Nat) (n : NodeId) :
    (r.party i n).inclusion.nodeId = n :=
  (congrArg Inclusion.Setup.nodeId (setup_party hstart i n)).trans (hstart.setup n)

theorem provider_party (hstart : r.Starts provider) (i : Nat) (n : NodeId) :
    (r.party i n).keys.provider = provider := by
  refine party_induct (P := fun s => s.keys.provider = provider) (hstart.provider n) ?_ i
  intro i hn ih
  rcases step_cases hstart hn with ⟨_, _, _, _, _, _, _, hhandled, _⟩ | ⟨_, _, hrequested, _⟩ |
    ⟨_, _, _, hfades⟩
  · exact hhandled.provider.trans ih
  · rw [hrequested.keys]
    exact ih
  · exact hfades.provider.trans ih

/-- A hub never starts a handshake of its own. -/
theorem own_hub (hstart : r.Starts provider)
    (hrole : (r.party 0 n).inclusion.role = .hub) (i : Nat) : r.own i n = none := by
  refine party_induct (P := fun s => s.inclusion.own = none) (hstart.own n) ?_ i
  intro i hn ih
  have hhub : (r.party i n).inclusion.role = .hub :=
    (congrArg Inclusion.Setup.role (setup_party hstart i n)).trans hrole
  rcases step_cases hstart hn with ⟨_, _, _, _, _, _, _, hhandled, _⟩ | ⟨_, _, hrequested, _⟩ |
    ⟨_, _, _, hfades⟩
  · exact hhandled.own_none ih
  · exact hrequested.own_none ih (by rw [hhub]; decide)
  · rcases hfades.own with hsame | hnone
    · exact hsame.trans ih
    · exact hnone

/-- A key is kept by every move but leaving. -/
theorem key_succ (hstart : r.Starts provider) {key : MeshKey} (hkey : r.key? i n = some key)
    (hstay : r.moves[i]? ≠ some ⟨n, .leave⟩) : r.key? (i + 1) n = some key := by
  have hhas : (r.party i n).keys.hasKey = true := by
    rw [KeyRing.hasKey, show (r.party i n).keys.key = some key from hkey]
    rfl
  unfold key?
  by_cases hn : r.node? i = some n
  · rcases step_cases hstart hn with ⟨_, _, _, _, _, _, _, hhandled, _⟩ |
      ⟨_, _, hrequested, _⟩ | ⟨a, hmove, _, hfades⟩
    · rw [hhandled.keys hhas]
      exact hkey
    · rw [hrequested.keys]
      exact hkey
    · rw [hfades.key (fun ha => hstay (ha ▸ hmove)) hhas]
      exact hkey
  · rw [party_other hn]
    exact hkey

/-- A key is lost only by leaving. -/
theorem left_of_key (hstart : r.Starts provider) {key : MeshKey} {j : Nat}
    (hkey : r.key? i n = some key) (hnone : r.key? j n = none) (hij : i ≤ j) :
    ∃ t, i ≤ t ∧ t < j ∧ r.moves[t]? = some ⟨n, .leave⟩ := by
  obtain ⟨d, rfl⟩ := Nat.exists_eq_add_of_le hij
  induction d generalizing i key with
  | zero =>
    rw [Nat.add_zero, hkey] at hnone
    cases hnone
  | succ d ih =>
    by_cases hleave : r.moves[i]? = some ⟨n, .leave⟩
    · exact ⟨i, Nat.le_refl i, by omega, hleave⟩
    · rw [Nat.add_comm d 1, ← Nat.add_assoc] at hnone ⊢
      obtain ⟨t, hit, htj, ht⟩ := ih (key_succ hstart hkey hleave) hnone (by omega)
      exact ⟨t, by omega, htj, ht⟩

end Run
end Meshwork
