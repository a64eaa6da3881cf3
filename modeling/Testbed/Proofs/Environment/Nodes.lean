import Testbed.Platform.FeatureRegistry

/-!
# Nodes that change in part

A platform replaces the machines of nodes, and a registry their features; the other aspects of them
stay. A node to which a feature of every registered type could be attached has features of exactly
these types, each under its own.
-/
namespace Testbed

/-- Changing an element does not show in what is not changed about it. -/
theorem map_modify_of_same {α β : Type} {f : α → α} {g : α → β} (same : ∀ a, g (f a) = g a)
    (l : List α) (index : Nat) : (l.modify index f).map g = l.map g := by
  induction l generalizing index with
  | nil => simp
  | cons a rest ih =>
    cases index with
    | zero => simp [same]
    | succ index => simp [ih]

/-- What holds of an aspect of all elements holds of it in a list that has the same aspects. -/
theorem forall_of_map_eq {α β : Type} {f : α → β} {P : β → Prop} {l l' : List α}
    (same : l'.map f = l.map f) (all : ∀ a ∈ l, P (f a)) : ∀ a ∈ l', P (f a) := by
  rw [← List.forall_mem_map] at all ⊢
  rwa [same]

/-- Giving nodes their machines does not show in what machines do not have. -/
theorem Node.map_equip {β : Type} {f : Node → β}
    (same : ∀ (node : Node) (machine : Machine), f { node with toMachine := machine } = f node)
    (nodes : List Node) (machines : List Machine) : (equip nodes machines).map f = nodes.map f := by
  induction nodes generalizing machines with
  | nil => cases machines <;> rfl
  | cons node rest ih =>
    cases machines with
    | nil => rfl
    | cons machine machines => simp [equip, same, ih]

/-- Whether features are of registered types only, each under its own. -/
def FeatureRegistry.Fits (r : FeatureRegistry) (features : Dict FeatureType FeatureHandle) : Prop :=
  ∀ type handle, features.get? type = some handle → handle.type = type ∧ type ∈ r.types

theorem Node.mem_featureTypes_attach (n : Node) (handle : FeatureHandle) (type : FeatureType) :
    type ∈ (n.attach handle).featureTypes ↔ type = handle.type ∨ type ∈ n.featureTypes := by
  simp only [featureTypes, attach, Dict.mem_keys, Dict.get?_insert]
  split <;> simp_all

namespace FeatureRegistry

variable {r : FeatureRegistry} {node : Node}

/-- What is created is of the type that was asked for, which is registered. -/
theorem create_ok {type : FeatureType} {handle : FeatureHandle}
    (created : r.create type node = .ok handle) : handle.type = type ∧ type ∈ r.types := by
  unfold create at created
  split at created
  · cases created
  · rename_i factory found
    dsimp only at created
    split at created
    · rename_i typed
      obtain rfl := Except.ok.inj created
      have registered : type ∈ r.types := (r.mem_keys type).2 (by simp [found])
      exact ⟨typed, registered⟩
    · cases created

theorem attachAll_go_features (r : FeatureRegistry) (node : Node) (types : List FeatureType) :
    ∃ features, (attachAll.go r node types).1 = { node with features } := by
  induction types generalizing node with
  | nil => exact ⟨node.features, rfl⟩
  | cons type rest ih =>
    rw [attachAll.go]
    cases r.create type node with
    | ok handle => exact ih (node.attach handle)
    | error error => exact ⟨node.features, rfl⟩

/-- Attaching features does not show in what else a node has. -/
theorem map_attachToAll {β : Type} {f : Node → β}
    (same : ∀ (node : Node) (features : Dict FeatureType FeatureHandle),
      f { node with features } = f node) (r : FeatureRegistry) (nodes : List Node) :
    (r.attachToAll nodes).1.map f = nodes.map f := by
  induction nodes with
  | nil => rfl
  | cons node rest ih =>
    obtain ⟨features, attached⟩ := r.attachAll_go_features node r.types
    have unchanged : f (r.attachAll node).1 = f node := by
      rw [attachAll, attached, same]
    rw [attachToAll]
    generalize r.attachAll node = result at unchanged ⊢
    rcases result with ⟨attached, _ | error⟩
    · simpa [ih] using unchanged
    · simpa using unchanged

theorem attachAll_go_fits (fits : r.Fits node.features) (types : List FeatureType) :
    r.Fits (attachAll.go r node types).1.features := by
  induction types generalizing node with
  | nil => exact fits
  | cons type rest ih =>
    rw [attachAll.go]
    cases created : r.create type node with
    | error error => exact fits
    | ok handle =>
      obtain ⟨rfl, known⟩ := create_ok created
      apply ih
      intro other held found
      rw [Node.attach, Dict.get?_insert] at found
      split at found
      · rename_i same
        obtain rfl := Option.some.inj found
        exact ⟨same.symm, same ▸ known⟩
      · exact fits other held found

/-- Nothing is taken off the node, and what is asked for is there in the end if nothing fails. -/
theorem mem_attachAll_go {types : List FeatureType}
    (attached : (attachAll.go r node types).2 = none) {type : FeatureType}
    (given : type ∈ node.featureTypes ∨ type ∈ types) :
    type ∈ (attachAll.go r node types).1.featureTypes := by
  induction types generalizing node with
  | nil => simpa [attachAll.go] using given
  | cons first rest ih =>
    rw [attachAll.go] at attached ⊢
    cases created : r.create first node with
    | error error => simp [created] at attached
    | ok handle =>
      obtain ⟨rfl, -⟩ := create_ok created
      simp only [created] at attached ⊢
      apply ih attached
      rw [Node.mem_featureTypes_attach]
      rcases given with had | listed
      · exact .inl (.inr had)
      · rcases List.mem_cons.1 listed with same | later
        · exact .inl (.inl same)
        · exact .inr later

theorem attachAll_featureTypes (fits : r.Fits node.features)
    (attached : (r.attachAll node).2 = none) : (r.attachAll node).1.featureTypes = r.types := by
  apply Dict.keys_eq_of_mem
  intro type
  constructor
  · intro has
    obtain ⟨handle, found⟩ := Option.isSome_iff_exists.1 ((Dict.mem_keys _ type).1 has)
    exact (attachAll_go_fits fits r.types type handle found).2
  · intro known
    exact mem_attachAll_go attached (.inr known)

theorem attachToAll_fits {nodes : List Node} (fits : ∀ node ∈ nodes, r.Fits node.features) :
    ∀ node ∈ (r.attachToAll nodes).1, r.Fits node.features := by
  induction nodes with
  | nil => simp [attachToAll]
  | cons first rest ih =>
    obtain ⟨here, others⟩ := List.forall_mem_cons.1 fits
    have attached : r.Fits (r.attachAll first).1.features := attachAll_go_fits here r.types
    rw [attachToAll]
    generalize r.attachAll first = result at attached ⊢
    rcases result with ⟨node, _ | error⟩
    · exact List.forall_mem_cons.2 ⟨attached, ih others⟩
    · exact List.forall_mem_cons.2 ⟨attached, others⟩

/-- Nodes to which everything could be attached have features of exactly the registered types. -/
theorem attachToAll_featureTypes {nodes : List Node}
    (fits : ∀ node ∈ nodes, r.Fits node.features) (attached : (r.attachToAll nodes).2 = none) :
    ∀ node ∈ (r.attachToAll nodes).1, node.featureTypes = r.types := by
  induction nodes with
  | nil => simp [attachToAll]
  | cons first rest ih =>
    obtain ⟨here, others⟩ := List.forall_mem_cons.1 fits
    have typed := attachAll_featureTypes (r := r) here
    rw [attachToAll] at attached ⊢
    generalize r.attachAll first = result at attached typed ⊢
    rcases result with ⟨node, _ | error⟩
    · exact List.forall_mem_cons.2 ⟨typed rfl, ih others attached⟩
    · cases attached

end FeatureRegistry

end Testbed
