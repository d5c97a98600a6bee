import Meshwork.Proofs.Network.Sessions

/-!
# Where a session comes from

A session that is found at some time was made by the last move that changed it.
Going back from change to change leads to the move that opened the session, and
since then the session was never away.
-/

namespace Meshwork
set_option autoImplicit false

namespace Run

variable {r : Run} {provider : CryptoProvider} {j : Nat} {n hub peer : NodeId}
variable {session : Session}

/-! ## The handshake of a device -/

theorem own_zero (hstart : r.Starts provider) : r.own 0 n ≠ some session := by
  intro h
  rw [show r.own 0 n = none from hstart.own n] at h
  cases h

/-- A handshake that waits for a response was started by a request. -/
theorem asked_since (hstart : r.Starts provider) (h : r.own j n = some session)
    (hstep : session.step = .awaitingResponse) :
    ∃ q, q < j ∧ r.Asks q n session ∧ ∀ t, q < t → t ≤ j → r.own t n = some session := by
  obtain ⟨q, hqj, hold, hsince⟩ := exists_last_change (x := fun t => r.own t n) (own_zero hstart) h
  refine ⟨q, hqj, ?_, hsince⟩
  rcases own_change hstart (hsince (q + 1) (Nat.lt_succ_self q) hqj) hold with
    hasks | ⟨_, _, _, hanswers⟩
  · exact hasks
  · have hconfirm := hanswers.step
    rw [hstep] at hconfirm
    cases hconfirm

/-- A handshake that waits for a confirmation has answered a response. -/
theorem answered_since (hstart : r.Starts provider) (h : r.own j n = some session)
    (hstep : session.step = .awaitingConfirm) :
    ∃ a k old key, a < j ∧ r.Answers a k n old session key ∧
      ∀ t, a < t → t ≤ j → r.own t n = some session := by
  obtain ⟨a, haj, hold, hsince⟩ := exists_last_change (x := fun t => r.own t n) (own_zero hstart) h
  rcases own_change hstart (hsince (a + 1) (Nat.lt_succ_self a) haj) hold with
    hasks | ⟨k, old, key, hanswers⟩
  · have hresponse := hasks.step
    rw [hstep] at hresponse
    cases hresponse
  · exact ⟨a, k, old, key, haj, hanswers, hsince⟩

/-! ## The sessions of a hub -/

theorem session?_zero (hstart : r.Starts provider) : r.session? 0 hub peer ≠ some session := by
  intro h
  have hnone : r.session? 0 hub peer = none := by
    unfold session? party Inclusion.session?
    rw [show (r.state 0).party hub = r.start.party hub from rfl, hstart.sessions hub]
    rfl
  rw [hnone] at h
  cases h

/-- A session that waits for an opening was opened by a request. -/
theorem opened_since (hstart : r.Starts provider) (h : r.session? j hub peer = some session)
    (hstep : session.step = .awaitingOpen) :
    ∃ s k key, s < j ∧ r.Opens s k hub peer session key ∧
      ∀ t, s < t → t ≤ j → r.session? t hub peer = some session := by
  obtain ⟨s, hsj, hold, hsince⟩ :=
    exists_last_change (x := fun t => r.session? t hub peer) (session?_zero hstart) h
  rcases session_change hstart (hsince (s + 1) (Nat.lt_succ_self s) hsj) hold with
    ⟨k, key, hopens⟩ | ⟨_, _, _, hconfirms⟩
  · exact ⟨s, k, key, hsj, hopens, hsince⟩
  · have hsuccess := hconfirms.step
    rw [hstep] at hsuccess
    cases hsuccess

/-- A session that waits for a success has confirmed an opening. -/
theorem confirmed_since (hstart : r.Starts provider)
    (h : r.session? j hub peer = some session) (hstep : session.step = .awaitingSuccess) :
    ∃ i k old key, i < j ∧ r.Confirms i k hub peer old session key ∧
      ∀ t, i < t → t ≤ j → r.session? t hub peer = some session := by
  obtain ⟨i, hij, hold, hsince⟩ :=
    exists_last_change (x := fun t => r.session? t hub peer) (session?_zero hstart) h
  rcases session_change hstart (hsince (i + 1) (Nat.lt_succ_self i) hij) hold with
    ⟨_, _, hopens⟩ | ⟨k, old, key, hconfirms⟩
  · have hopen := hopens.step
    rw [hstep] at hopen
    cases hopen
  · exact ⟨i, k, old, key, hij, hconfirms, hsince⟩

end Run
end Meshwork
