import Meshwork.Proofs.Association
import Meshwork.Proofs.KeyRing

/-!
# What a storage holds

A write that succeeds puts a value under one name and leaves what is under the others;
so does a removal, which puts none there. The key of a ring is flushed and loaded by
one name.
-/

namespace Meshwork
set_option autoImplicit false

namespace Storage

variable {s s' : Storage} {name : String} {value : Option Bytes}

/-- No write is rejected. -/
def Accepts (s : Storage) : Prop := ∀ n, s.rejectsWrite n = false

/-- Neither writes nor reads are rejected. -/
structure Reliable (s : Storage) : Prop where
  accepts : s.Accepts
  reads : s.rejectedRead = none

/-- Under one name there is now this value, if any; everything else is as it was. -/
structure Sets (s : Storage) (name : String) (value : Option Bytes) (s' : Storage) : Prop where
  self : s'.get? name = value
  other : ∀ other, other ≠ name → s'.get? other = s.get? other
  reads : s'.rejectedRead = s.rejectedRead
  rejects : s'.rejectsWrite = s.rejectsWrite

theorem sets_remove (s : Storage) (name : String) : s.Sets name none (s.remove name) where
  self := Association.lookup_filter_self name s.entries
  other _ hother := Association.lookup_filter_ne hother s.entries
  reads := rfl
  rejects := rfl

theorem sets_of_write {bs : Bytes} (h : s.write name bs = (.ok (), s')) :
    s.Sets name (some bs) s' := by
  unfold write at h
  simp only at h
  split at h
  · cases h
  · cases h
    refine ⟨List.lookup_cons_self, fun other hother => ?_, rfl, rfl⟩
    change List.lookup other ((name, bs) :: erase name s.entries) = _
    rw [List.lookup_cons, beq_false_of_ne hother]
    exact Association.lookup_filter_ne hother s.entries

theorem write_of_accepts (h : s.Accepts) (name : String) (bs : Bytes) :
    ∃ s', s.write name bs = (.ok (), s') := by
  unfold write
  simp only [h s.writes, Bool.false_eq_true, if_false]
  exact ⟨_, rfl⟩

theorem Sets.accepts (h : s.Sets name value s') (haccepts : s.Accepts) : s'.Accepts := by
  unfold Accepts
  rw [h.rejects]
  exact haccepts

theorem Sets.reliable (h : s.Sets name value s') (hreliable : s.Reliable) : s'.Reliable :=
  ⟨h.accepts hreliable.accepts, h.reads.trans hreliable.reads⟩

theorem readOptional_eq (h : s.rejectedRead ≠ some name) :
    s.readOptional name = .ok (s.get? name) := by
  unfold readOptional read
  rw [if_neg h]
  cases s.get? name with
  | none => rfl
  | some bs => rfl

theorem get_of_readOptional (h : s.readOptional name = .ok value) : s.get? name = value := by
  by_cases hreads : s.rejectedRead = some name
  · unfold readOptional read at h
    rw [if_pos hreads] at h
    cases h
  · rw [readOptional_eq hreads] at h
    exact Except.ok.inj h

/-- Reading gives, under every name, what stands in the other storage. -/
def Returns (s left : Storage) : Prop := ∀ name, s.readOptional name = .ok (left.get? name)

theorem returns_self (h : s.rejectedRead = none) : s.Returns s :=
  fun _ => readOptional_eq (by rw [h]; exact nofun)

theorem Returns.get (h : s.Returns s') (name : String) : s.get? name = s'.get? name :=
  get_of_readOptional (h name)

theorem Returns.reads (h : s.Returns s') : s.rejectedRead = none := by
  cases hrejected : s.rejectedRead with
  | none => rfl
  | some name =>
    have hread := h name
    unfold readOptional read at hread
    rw [if_pos hrejected] at hread
    cases hread

end Storage

namespace KeyRing

variable {k : KeyRing} {s s' : Storage}

theorem sets_of_flush (h : k.flush s = (.ok (), s')) :
    s.Sets Storage.meshKey (k.key.map MeshKey.toBytes) s' := by
  unfold flush at h
  cases hkey : k.key with
  | none =>
    rw [hkey] at h
    cases h
    exact s.sets_remove Storage.meshKey
  | some key =>
    rw [hkey] at h
    simp only at h
    rcases hwrite : s.write Storage.meshKey key.toBytes with ⟨result, after⟩
    rw [hwrite] at h
    cases result with
    | error e => cases h
    | ok done =>
      cases h
      exact Storage.sets_of_write hwrite

theorem flush_of_accepts (h : s.Accepts) (k : KeyRing) : ∃ s', k.flush s = (.ok (), s') := by
  unfold flush
  cases k.key with
  | none => exact ⟨_, rfl⟩
  | some key =>
    obtain ⟨after, hwrite⟩ := Storage.write_of_accepts h Storage.meshKey key.toBytes
    simp only
    rw [hwrite]
    exact ⟨after, rfl⟩

/-- What has been flushed is loaded by a ring that holds no key, or that key. -/
theorem load_of_get {key : Option MeshKey} (hheld : k.key = none ∨ k.key = key)
    (hreads : s.rejectedRead ≠ some Storage.meshKey)
    (hstored : s.get? Storage.meshKey = key.map MeshKey.toBytes) :
    k.load s = .ok (key.isSome, { k with key := key }) := by
  unfold load
  rw [Storage.readOptional_eq hreads, hstored]
  cases key with
  | none =>
    rcases k with ⟨provider, held, installs⟩
    rw [show held = none from hheld.elim id id]
    rfl
  | some key =>
    simp only [Option.map_some, MeshKey.ofBytes_toBytes]
    rfl

/-- A ring that held no key holds what is stored once it has loaded. -/
theorem get_of_load {keys : KeyRing} {found : Bool} (hnone : k.key = none)
    (h : k.load s = .ok (found, keys)) :
    s.get? Storage.meshKey = keys.key.map MeshKey.toBytes := by
  unfold load at h
  cases hread : s.readOptional Storage.meshKey with
  | error e =>
    rw [hread] at h
    cases h
  | ok stored =>
    rw [hread] at h
    rw [Storage.get_of_readOptional hread]
    cases stored with
    | none =>
      cases h
      rw [hnone]
      rfl
    | some bs =>
      simp only at h
      cases hkey : MeshKey.ofBytes bs with
      | error e =>
        rw [hkey] at h
        cases h
      | ok key =>
        rw [hkey] at h
        cases h
        exact congrArg some (MeshKey.toBytes_of_ofBytes hkey).symm

end KeyRing
end Meshwork
