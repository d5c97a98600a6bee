import Mathlib.Data.List.Nodup
import Mathlib.Data.List.Perm.Subperm
import Meshwork.Config.Text
import Meshwork.Proofs.Json.Printing
import Meshwork.Proofs.Json.Records

/-!
# Configurations read from text

A configuration is read as it was written. Whichever of its fields are given, in whatever
order, these are read as they were written and all others are those of the initial
configuration.
-/

namespace Meshwork
set_option autoImplicit false

/-! ## Fields -/

theorem NodeId.ofJson?_toJson (id : NodeId) : NodeId.ofJson? id.toJson = some id := by
  have hblock := Json.block?_ofBytes ⟨id.toBytes, id.length_toBytes⟩
  unfold NodeId.ofJson? NodeId.toJson
  rw [hblock, Option.map_some]
  exact congrArg some id.ofBytes_toBytes

theorem Role.ofJson?_toJson (r : Role) : Role.ofJson? r.toJson = some r := by
  cases r <;> decide +kernel

theorem Role.isAscii_label (r : Role) : Bytes.IsAscii (Bytes.ofText r.label) := by
  cases r <;> decide +kernel

namespace Config

open Association (keys)

variable {c : Config} {members : List (Bytes × Json)}

/-- No secret is null, and a secret is an array. -/
theorem secret?_secretJson (secret : Option (Bytes.Block 32)) :
    secret? (secretJson secret) = some secret := by
  cases secret with
  | none => rfl
  | some secret =>
    change ((Json.ofBytes secret.val).block? 32).map some = some (some secret)
    rw [Json.block?_ofBytes, Option.map_some]

theorem fieldNames_nodup : fieldNames.Nodup := by decide +kernel

theorem fieldNames_text : ∀ name ∈ fieldNames, name.text?.isSome = true := by decide +kernel

theorem fieldNames_ascii : ∀ name ∈ fieldNames, Bytes.IsAscii name := by decide +kernel

theorem fields_printable (c : Config) : ∀ v ∈ c.fields, v.IsWhole ∧ v.IsPlain := by
  have hsecret : (secretJson c.inclusionSecret).IsWhole ∧
      (secretJson c.inclusionSecret).IsPlain := by
    cases c.inclusionSecret with
    | none => exact ⟨trivial, trivial⟩
    | some secret => exact ⟨Json.isWhole_ofBytes _, Json.isPlain_ofBytes _⟩
  have hid : c.nodeId.toJson.IsWhole ∧ c.nodeId.toJson.IsPlain :=
    ⟨Json.isWhole_ofBytes _, Json.isPlain_ofBytes _⟩
  have hrole : c.role.toJson.IsWhole ∧ c.role.toJson.IsPlain := ⟨trivial, c.role.isAscii_label⟩
  have hnumber : ∀ n : Int, (Json.integer n).IsWhole ∧ (Json.integer n).IsPlain :=
    fun _ => ⟨trivial, trivial⟩
  have hflag : (Json.bool c.relayEnabled).IsWhole ∧ (Json.bool c.relayEnabled).IsPlain :=
    ⟨trivial, trivial⟩
  unfold fields word
  simp only [List.forall_mem_cons, List.not_mem_nil, false_implies, implies_true, and_true]
  exact ⟨hid, hrole, hnumber _, hnumber _, hnumber _, hnumber _, hnumber _, hnumber _, hnumber _,
    hflag, hnumber _, hsecret⟩

/-! ## Some of the fields -/

/-- A field if it is among those named, and its initial value if not. -/
def pick {α : Type} (given : List Bytes) (c : Config) (name : String) (field : Config → α) : α :=
  if Bytes.ofText name ∈ given then field c else field initial

/-- The fields that are named, and the initial values of all others. -/
def keeping (given : List Bytes) (c : Config) : Config where
  nodeId := pick given c "node_id" nodeId
  role := pick given c "role" role
  maxHops := pick given c "max_hops" maxHops
  dedupWindow := pick given c "dedup_window_ms" dedupWindow
  dedupCapacity := pick given c "dedup_capacity" dedupCapacity
  routeTimeout := pick given c "route_timeout_ms" routeTimeout
  maxRoutes := pick given c "max_routes" maxRoutes
  inclusionTimeout := pick given c "inclusion_timeout_ms" inclusionTimeout
  maxInclusionSessions := pick given c "max_inclusion_sessions" maxInclusionSessions
  relayEnabled := pick given c "relay_enabled" relayEnabled
  receiveTimeout := pick given c "receive_timeout_ms" receiveTimeout
  inclusionSecret := pick given c "inclusion_secret" inclusionSecret

theorem keeping_fieldNames (c : Config) : c.keeping fieldNames = c := by
  simp [keeping, pick, fieldNames]

theorem keys_fields (c : Config) : keys (fieldNames.zip c.fields) = fieldNames :=
  Json.keys_zip rfl

theorem keys_nodup (h : members.Subperm (fieldNames.zip c.fields)) : (keys members).Nodup := by
  obtain ⟨kept, hperm, hsub⟩ := h
  have hnodup : (keys (fieldNames.zip c.fields)).Nodup := by
    rw [keys_fields]
    exact fieldNames_nodup
  exact (hperm.map Prod.fst).nodup_iff.mp (hnodup.sublist (hsub.map Prod.fst))

theorem keys_subset (h : members.Subperm (fieldNames.zip c.fields)) :
    keys members ⊆ fieldNames := by
  intro name hname
  obtain ⟨m, hm, rfl⟩ := List.mem_map.mp hname
  rw [← c.keys_fields]
  exact List.mem_map_of_mem (h.subset hm)

/-- What is written for a field is read as the field, and a field that is not written as
its initial value. -/
theorem orInitial_lookup {α : Type} {read : Json → Option α} {j : Json}
    (h : members.Subperm (fieldNames.zip c.fields)) (name : String) (field : Config → α)
    (hj : (Bytes.ofText name, j) ∈ fieldNames.zip c.fields) (hread : read j = some (field c)) :
    orInitial read (field initial) (members.lookup (Bytes.ofText name)) =
      some (pick (keys members) c name field) := by
  unfold pick
  by_cases hgiven : Bytes.ofText name ∈ keys members
  · obtain ⟨m, hm, hname⟩ := List.mem_map.mp hgiven
    have hsame : (fieldNames.zip c.fields).lookup (Bytes.ofText name) = some m.2 := by
      rw [← hname]
      exact Association.lookup_of_mem (keys_nodup (List.Subperm.refl _)) (h.subset hm)
    rw [Association.lookup_of_mem (keys_nodup (List.Subperm.refl _)) hj] at hsame
    have hlookup : members.lookup (Bytes.ofText name) = some j := by
      rw [Option.some.inj hsame, ← hname]
      exact Association.lookup_of_mem (keys_nodup h) hm
    rw [if_pos hgiven, hlookup]
    exact hread
  · have hlookup : members.lookup (Bytes.ofText name) = none := by
      rw [List.lookup_eq_none_iff]
      intro m hm
      have hother : Bytes.ofText name ≠ m.1 := fun hsame => hgiven (hsame ▸ List.mem_map_of_mem hm)
      exact bne_iff_ne.mpr hother
    rw [if_neg hgiven, hlookup]
    rfl

theorem ofJson?_object (h : members.Subperm (fieldNames.zip c.fields)) :
    ofJson? (.object members) = some (c.keeping (keys members)) := by
  have hrecord := Json.record?_object fieldNames (keys_nodup h)
    fun name hname => fieldNames_text name (keys_subset h hname)
  have hzip : ∀ i (hi : i < 12), (fieldNames[i], c.fields[i]) ∈ fieldNames.zip c.fields := by
    intro i hi
    rw [List.mem_iff_getElem]
    exact ⟨i, hi, List.getElem_zip⟩
  unfold ofJson?
  rw [hrecord, Option.bind_some]
  simp only [fieldNames, List.map_cons, List.map_nil, ofFields?]
  rw [orInitial_lookup h "node_id" nodeId (hzip 0 (by decide)) (NodeId.ofJson?_toJson _),
    orInitial_lookup h "role" role (hzip 1 (by decide)) (Role.ofJson?_toJson _),
    orInitial_lookup h "max_hops" maxHops (hzip 2 (by decide)) (Json.byte?_integer _),
    orInitial_lookup h "dedup_window_ms" dedupWindow (hzip 3 (by decide)) (Json.word64?_integer _),
    orInitial_lookup h "dedup_capacity" dedupCapacity (hzip 4 (by decide)) (Json.word64?_integer _),
    orInitial_lookup h "route_timeout_ms" routeTimeout (hzip 5 (by decide))
      (Json.word64?_integer _),
    orInitial_lookup h "max_routes" maxRoutes (hzip 6 (by decide)) (Json.word64?_integer _),
    orInitial_lookup h "inclusion_timeout_ms" inclusionTimeout (hzip 7 (by decide))
      (Json.word64?_integer _),
    orInitial_lookup h "max_inclusion_sessions" maxInclusionSessions (hzip 8 (by decide))
      (Json.word64?_integer _),
    orInitial_lookup h "relay_enabled" relayEnabled (hzip 9 (by decide)) rfl,
    orInitial_lookup h "receive_timeout_ms" receiveTimeout (hzip 10 (by decide))
      (Json.word64?_integer _),
    orInitial_lookup h "inclusion_secret" inclusionSecret (hzip 11 (by decide))
      (secret?_secretJson _)]
  rfl

/-! ## Whole texts -/

theorem parse?_text_object (h : members.Subperm (fieldNames.zip c.fields)) :
    parse? (Bytes.ofText (Json.object members).text) = some (c.keeping (keys members)) := by
  have hmember : ∀ m ∈ members, Bytes.IsAscii m.1 ∧ m.2.IsWhole ∧ m.2.IsPlain := by
    intro m hm
    have hzip := List.of_mem_zip (h.subset hm)
    exact ⟨fieldNames_ascii m.1 hzip.1, c.fields_printable m.2 hzip.2⟩
  have hwhole : (Json.object members).IsWhole :=
    Json.membersWhole_of_forall fun m hm => (hmember m hm).2.1
  have hplain : (Json.object members).IsPlain :=
    Json.membersPlain_of_forall fun m hm => ⟨(hmember m hm).1, (hmember m hm).2.2⟩
  unfold parse?
  rw [Json.parse_text hwhole hplain, Option.bind_some, ofJson?_object h]

/-- A configuration is read from its text as it was, and from the text of some of its
members, each at most once and in any order, as far as they say. -/
theorem parse?_text_keeping (c : Config) (h : members.Subperm (fieldNames.zip c.fields)) :
    parse? (Bytes.ofText c.text) = some c ∧
      parse? (Bytes.ofText (Json.object members).text) = some (c.keeping (keys members)) := by
  have hall : parse? (Bytes.ofText c.text) = some (c.keeping (keys (fieldNames.zip c.fields))) :=
    parse?_text_object (List.Subperm.refl (fieldNames.zip c.fields))
  rw [keys_fields, keeping_fieldNames] at hall
  exact ⟨hall, parse?_text_object h⟩

theorem parse?_text_keeping_swapped :
    let members := [(Bytes.ofText "route_timeout_ms", Json.integer 18446744073709551615),
      (Bytes.ofText "role", Role.hub.toJson)]
    members.Subperm (fieldNames.zip ((hub ⟨7⟩).withRouteTimeout 18446744073709551615).fields) ∧
      parse? (Bytes.ofText (Json.object members).text) =
        some { initial with role := .hub, routeTimeout := 18446744073709551615 } := by
  intro members
  have hnodup : members.Nodup := List.Nodup.of_map Prod.fst (by decide +kernel)
  have hsub : members.Subperm
      (fieldNames.zip ((hub ⟨7⟩).withRouteTimeout 18446744073709551615).fields) := by
    refine List.subperm_of_subset hnodup (List.forall_mem_cons.mpr ⟨?_, ?_⟩)
    · exact List.mem_of_getElem? (i := 5) rfl
    · exact List.forall_mem_singleton.mpr (List.mem_of_getElem? (i := 1) rfl)
  refine ⟨hsub, (parse?_text_keeping _ hsub).2.trans ?_⟩
  decide +kernel

end Config
end Meshwork
