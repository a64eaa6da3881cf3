import Mathlib.Data.List.Perm.Subperm
import Mathlib.Order.Bounds.Basic
import Testbed.Proofs.Space.Agreement
import Testbed.Proofs.Space.Assignment

/-!
# First fit

Required nodes get their places in turn: each one gets the least place that is open to it, which is
one that no earlier node has taken and whose node it is compatible with. Placing fails at the first
node to which no place is open. What is wrong with every place that is not taken is told then, and
as there are no fewer places than nodes, there is such a place.
-/
namespace Testbed

open Narrowing

/-- The places that are not taken and at which a node is compatible with what is offered. -/
def openPlaces (offered : List NodeSpace) (taken : List Nat) (node : NodeSpace) : Set Nat :=
  {place | place ∉ taken ∧ ∃ host, offered[place]? = some host ∧ node.check host = []}

/-- Places of the first few required nodes, each of which is the least one that is open when the
turn of its node comes. -/
def PlacedFirstFit (offered required : List NodeSpace) (places : List Nat) : Prop :=
  ∀ k place : Nat, places[k]? = some place →
    ∃ node, required[k]? = some node ∧ IsLeast (openPlaces offered (places.take k) node) place

/-- The reasons against every place that is not taken, one place after the other. -/
def objections (index : Nat) (node : NodeSpace) (taken : List Nat)
    (entries : List (NodeSpace × Nat)) : List Reason :=
  (entries.filter (fun entry => entry.2 ∉ taken)).flatMap (fun entry =>
    (node.check entry.1).map (.within (.nodes index entry.2)))

theorem fits_iff_check {node host : NodeSpace} : Fits node host ↔ node.check host = [] :=
  (NodeSpace.agrees node host).ok_iff

theorem openPlaces_congr {offered : List NodeSpace} {taken taken' : List Nat} {node : NodeSpace}
    (same : ∀ place, place ∈ taken ↔ place ∈ taken') :
    openPlaces offered taken node = openPlaces offered taken' node := by
  ext place
  simp only [openPlaces, Set.mem_ofPred_eq, same]

namespace PlacedFirstFit

variable {offered required : List NodeSpace} {places : List Nat}

theorem nil (offered required : List NodeSpace) : PlacedFirstFit offered required [] := by
  intro k place found
  cases found

/-- One more node is placed. -/
theorem concat {node : NodeSpace} {place : Nat} (placed : PlacedFirstFit offered required places)
    (next : required[places.length]? = some node)
    (least : IsLeast (openPlaces offered places node) place) :
    PlacedFirstFit offered required (places ++ [place]) := by
  intro k p found
  by_cases earlier : k < places.length
  · rw [List.getElem?_append_left earlier] at found
    rw [List.take_append_of_le_length (Nat.le_of_lt earlier)]
    exact placed k p found
  · have inside := (List.getElem?_eq_some_iff.1 found).1
    rw [List.length_append, List.length_singleton] at inside
    obtain rfl : k = places.length := by omega
    obtain rfl : place = p := by simpa using found
    exact ⟨node, next, by simpa using least⟩

/-- There is one way to place nodes first fit, so that two differ only in how far they go. -/
theorem eq_take {others : List Nat} (placed : PlacedFirstFit offered required places)
    (placed' : PlacedFirstFit offered required others) (shorter : places.length ≤ others.length) :
    places = others.take places.length := by
  refine List.ext_getElem? (fun k => ?_)
  induction k using Nat.strongRecOn with
  | ind k ih =>
    by_cases inside : k < places.length
    · have earlier : places.take k = others.take k := by
        refine List.ext_getElem? (fun i => ?_)
        rw [List.getElem?_take, List.getElem?_take]
        split
        next before =>
          rw [ih i before, List.getElem?_take, if_pos (Nat.lt_trans before inside)]
        next => rfl
      obtain ⟨node, here, least⟩ := placed k _ (List.getElem?_eq_getElem inside)
      obtain ⟨node', here', least'⟩ :=
        placed' k _ (List.getElem?_eq_getElem (Nat.lt_of_lt_of_le inside shorter))
      obtain rfl : node = node' := Option.some.inj (here.symm.trans here')
      rw [earlier] at least
      rw [List.getElem?_take, if_pos inside, List.getElem?_eq_getElem inside,
        List.getElem?_eq_getElem (Nat.lt_of_lt_of_le inside shorter), least.unique least']
    · rw [List.getElem?_eq_none (Nat.not_lt.1 inside),
        List.getElem?_eq_none (by rw [List.length_take]; omega)]

end PlacedFirstFit

/-- First fit has come to a node to which no place is open. -/
structure StuckFirstFit (offered required : List NodeSpace) (places : List Nat)
    (node : NodeSpace) : Prop where
  placed : PlacedFirstFit offered required places
  next : required[places.length]? = some node
  closed : openPlaces offered places node = ∅

namespace StuckFirstFit

variable {offered required : List NodeSpace} {places others : List Nat} {node node' : NodeSpace}

theorem length_lt (stuck : StuckFirstFit offered required places node) :
    places.length < required.length :=
  (List.getElem?_eq_some_iff.1 stuck.next).1

/-- Nothing is placed first fit beyond the node that it is stuck at. -/
theorem length_le (stuck : StuckFirstFit offered required places node)
    (placed : PlacedFirstFit offered required others) : others.length ≤ places.length := by
  by_contra further
  have same := stuck.placed.eq_take placed (by omega)
  obtain ⟨node', here, least⟩ := placed _ _ (List.getElem?_eq_getElem (Nat.not_le.1 further))
  obtain rfl : node = node' := Option.some.inj (stuck.next.symm.trans here)
  rw [← same, stuck.closed] at least
  exact least.1

theorem unique (stuck : StuckFirstFit offered required places node)
    (stuck' : StuckFirstFit offered required others node') : places = others ∧ node = node' := by
  have length : places.length = others.length :=
    Nat.le_antisymm (stuck'.length_le stuck.placed) (stuck.length_le stuck'.placed)
  have same : places = others := by
    rw [stuck.placed.eq_take stuck'.placed (Nat.le_of_eq length), length, List.take_length]
  subst same
  exact ⟨rfl, Option.some.inj (stuck.next.symm.trans stuck'.next)⟩

/-- As long as there are no fewer places than nodes, one is left that is not taken, and something
is wrong with it. -/
theorem objections_ne_nil (stuck : StuckFirstFit offered required places node)
    (enough : required.length ≤ offered.length) :
    objections places.length node places offered.zipIdx ≠ [] := by
  obtain ⟨place, below, free⟩ : ∃ place, place < offered.length ∧ place ∉ places := by
    by_contra none
    push Not at none
    have all : List.range offered.length ⊆ places := fun place member =>
      none place (List.mem_range.1 member)
    have few := (List.nodup_range.subperm all).length_le
    have short := stuck.length_lt
    rw [List.length_range] at few
    omega
  have hosted : offered[place]? = some offered[place] := List.getElem?_eq_getElem below
  have refused : node.check offered[place] ≠ [] := by
    intro fits
    have isOpen : place ∈ openPlaces offered places node := ⟨free, _, hosted, fits⟩
    rw [stuck.closed] at isOpen
    exact isOpen
  obtain ⟨reason, told⟩ := List.exists_mem_of_ne_nil _ refused
  refine List.ne_nil_of_mem (a := .within (.nodes places.length place) reason) ?_
  refine List.mem_flatMap.2 ⟨(offered[place], place), ?_, List.mem_map_of_mem told⟩
  exact List.mem_filter.2 ⟨List.mk_mem_zipIdx_iff_getElem?.2 hosted, by simpa using free⟩

end StuckFirstFit

theorem nodesTaken_notMem_objections {index place : Nat} {node : NodeSpace} {taken : List Nat}
    {entries : List (NodeSpace × Nat)} :
    .within (.node place) .nodesTaken ∉ objections index node taken entries := by
  simp [objections]

theorem objections_text (index : Nat) (node : NodeSpace) (taken : List Nat)
    (entries : List (NodeSpace × Nat)) :
    (objections index node taken entries).map Reason.text =
      (entries.filter (fun entry => entry.2 ∉ taken)).flatMap (fun entry =>
        (node.check entry.1).map (fun reason =>
          s!"node[{index}] vs node[{entry.2}]" ++ ": " ++ reason.text)) := by
  simp only [objections, List.map_flatMap, List.map_map]
  rfl

namespace EnvironmentSpace

variable {offered required : List NodeSpace} {index : Nat} {node : NodeSpace} {taken : List Nat}

/-- Of entries in the order of their places, the first that fits has the least place. -/
theorem firstFit_least {place : Nat} {narrowed : NodeSpace} {entries : List (NodeSpace × Nat)}
    (ordered : entries.Pairwise (fun a b => a.2 < b.2))
    (found : firstFit index node taken entries = .ok (place, narrowed)) :
    ∀ entry ∈ entries, entry.2 ∉ taken → Fits node entry.1 → place ≤ entry.2 := by
  induction entries with
  | nil => cases found
  | cons entry rest ih =>
    obtain ⟨first, ordered⟩ := List.pairwise_cons.1 ordered
    intro other member free fits
    rcases firstFit_cons_ok.1 found with ⟨-, n, -, same⟩ | ⟨refused, later⟩
    · obtain ⟨rfl, -⟩ := Prod.mk.inj same
      rcases List.mem_cons.1 member with rfl | member
      · exact Nat.le_refl _
      · exact Nat.le_of_lt (first other member)
    · rcases List.mem_cons.1 member with rfl | member
      · rcases refused with used | unfit
        · exact absurd used free
        · exact absurd fits unfit
      · exact ih ordered later other member free fits

/-- Without a fit, no entry that is free fits, and the reasons are those against each of them. -/
theorem firstFit_error {reasons : List Reason} {entries : List (NodeSpace × Nat)}
    (failed : firstFit index node taken entries = .error reasons) :
    (∀ entry ∈ entries, entry.2 ∉ taken → ¬ Fits node entry.1) ∧
      reasons = objections index node taken entries := by
  induction entries generalizing reasons with
  | nil =>
    obtain rfl := Except.error.inj failed
    exact ⟨fun _ member => absurd member List.not_mem_nil, rfl⟩
  | cons entry rest ih =>
    obtain ⟨host, place⟩ := entry
    rw [firstFit] at failed
    by_cases used : place ∈ taken
    · rw [if_pos used] at failed
      obtain ⟨unfit, rfl⟩ := ih failed
      refine ⟨List.forall_mem_cons.2 ⟨fun free => absurd used free, unfit⟩, ?_⟩
      simp [objections, used]
    · rw [if_neg used] at failed
      cases outcome : node.intersect host with
      | ok narrowed => simp [outcome] at failed
      | error here =>
        rw [outcome] at failed
        have refused : ¬ Fits node host := by
          rintro ⟨narrowed, fits⟩
          cases outcome.symm.trans fits
        cases later : firstFit index node taken rest with
        | ok found => simp [later, Except.mapError] at failed
        | error others =>
          rw [later] at failed
          obtain ⟨unfit, rfl⟩ := ih later
          obtain rfl := Except.error.inj failed
          refine ⟨List.forall_mem_cons.2 ⟨fun _ => refused, unfit⟩, ?_⟩
          simp [objections, used]

theorem zipIdx_ordered (offered : List NodeSpace) :
    offered.zipIdx.Pairwise (fun a b => a.2 < b.2) := by
  rw [← List.pairwise_map (f := Prod.snd), List.zipIdx_map_snd]
  exact List.pairwise_lt_range'

theorem firstFit_isLeast {place : Nat} {narrowed : NodeSpace}
    (found : firstFit index node taken offered.zipIdx = .ok (place, narrowed)) :
    IsLeast (openPlaces offered taken node) place := by
  obtain ⟨free, host, member, fits⟩ := firstFit_placed _ _ _ _ _ _ found
  have hosted : offered[place]? = some host := List.mk_mem_zipIdx_iff_getElem?.1 member
  refine ⟨⟨free, host, hosted, fits_iff_check.1 ⟨narrowed, fits⟩⟩, ?_⟩
  rintro other ⟨free, host, hosted, fits⟩
  exact firstFit_least (zipIdx_ordered offered) found (host, other)
    (List.mk_mem_zipIdx_iff_getElem?.2 hosted) free (fits_iff_check.2 fits)

theorem firstFit_none {reasons : List Reason}
    (failed : firstFit index node taken offered.zipIdx = .error reasons) :
    openPlaces offered taken node = ∅ ∧
      reasons = objections index node taken offered.zipIdx := by
  obtain ⟨unfit, same⟩ := firstFit_error failed
  refine ⟨Set.eq_empty_iff_forall_notMem.2 ?_, same⟩
  rintro place ⟨free, host, hosted, fits⟩
  exact unfit (host, place) (List.mk_mem_zipIdx_iff_getElem?.2 hosted) free (fits_iff_check.2 fits)

/-- What placing the nodes from one on comes to, if those before it are placed first fit and theirs
are the places that are taken. -/
theorem assignFrom_firstFit (enough : required.length ≤ offered.length) {rest : List NodeSpace}
    {places : List Nat} (left : required.drop places.length = rest)
    (placed : PlacedFirstFit offered required places)
    (same : ∀ place, place ∈ taken ↔ place ∈ places) :
    match assignFrom offered.zipIdx places.length taken rest with
    | .ok a => PlacedFirstFit offered required (places ++ a.indices)
    | .error reasons => ∃ stuckAt node, StuckFirstFit offered required stuckAt node ∧
      reasons = objections stuckAt.length node stuckAt offered.zipIdx := by
  induction rest generalizing places taken with
  | nil => simpa [assignFrom] using placed
  | cons node rest ih =>
    have next : required[places.length]? = some node := by
      rw [← List.head?_drop, left, List.head?_cons]
    have untaken : openPlaces offered taken node = openPlaces offered places node :=
      openPlaces_congr same
    rw [assignFrom]
    cases found : firstFit places.length node taken offered.zipIdx with
    | error reasons =>
      obtain ⟨closed, rfl⟩ := firstFit_none found
      have stuck : StuckFirstFit offered required places node :=
        ⟨placed, next, untaken ▸ closed⟩
      have told : objections places.length node taken offered.zipIdx =
          objections places.length node places offered.zipIdx := by
        simp only [objections, same]
      rw [told]
      have some := stuck.objections_ne_nil enough
      cases all : objections places.length node places offered.zipIdx with
      | nil => exact absurd all some
      | cons reason reasons => exact ⟨places, node, stuck, all.symm⟩
    | ok entry =>
      obtain ⟨place, narrowed⟩ := entry
      have least := firstFit_isLeast found
      have size : (places ++ [place]).length = places.length + 1 := List.length_append
      have remaining : required.drop (places ++ [place]).length = rest := by
        rw [size, ← List.drop_drop, left, List.drop_one, List.tail_cons]
      have taken' (other : Nat) : other ∈ place :: taken ↔ other ∈ places ++ [place] := by
        simp [same, or_comm]
      have further := ih remaining (placed.concat next (untaken ▸ least)) taken'
      rw [size] at further
      dsimp only
      cases later : assignFrom offered.zipIdx (places.length + 1) (place :: taken) rest with
      | ok a =>
        rw [later] at further
        change PlacedFirstFit offered required (places ++ ([place] ++ a.indices))
        rw [← List.append_assoc]
        exact further
      | error reasons =>
        rw [later] at further
        exact further

/-- An assignment that is tried for at least as many places as nodes is made first fit, or it fails
where that is stuck. -/
theorem assignNodes_outcome {required offered : EnvironmentSpace}
    (enough : required.requiredNodes.length ≤ offered.nodes.length) :
    match required.assignNodes offered with
    | .ok a => PlacedFirstFit offered.nodes required.requiredNodes a.indices
    | .error reasons => ∃ places node,
      StuckFirstFit offered.nodes required.requiredNodes places node ∧
        reasons = objections places.length node places offered.nodes.zipIdx := by
  unfold assignNodes
  dsimp only
  rw [if_neg (Nat.not_lt.2 enough)]
  exact assignFrom_firstFit enough rfl (.nil _ _) (fun _ => Iff.rfl)

/-- Nodes are assigned first fit. It fails exactly if first fit gets stuck, with the reasons against
each place that is not taken by then; there are such reasons, so it is never said that all places
are taken. With fewer places than nodes, it is only told how many there are of both. -/
theorem assignNodes_first_fit (required offered : EnvironmentSpace) :
    let nodes := required.requiredNodes
    (offered.nodes.length < nodes.length → required.assignNodes offered =
      .error [.tooFewNodes nodes.length offered.nodes.length]) ∧
    (nodes.length ≤ offered.nodes.length →
      (∀ a, required.assignNodes offered = .ok a →
        a.indices.length = nodes.length ∧ PlacedFirstFit offered.nodes nodes a.indices) ∧
      ((∃ reasons, required.assignNodes offered = .error reasons) ↔
        ∃ places node, StuckFirstFit offered.nodes nodes places node) ∧
      ∀ reasons places node, required.assignNodes offered = .error reasons →
        StuckFirstFit offered.nodes nodes places node →
        reasons = (offered.nodes.zipIdx.filter (fun entry => entry.2 ∉ places)).flatMap
          (fun entry => (node.check entry.1).map (.within (.nodes places.length entry.2))) ∧
        reasons.map Reason.text =
          (offered.nodes.zipIdx.filter (fun entry => entry.2 ∉ places)).flatMap (fun entry =>
            (node.check entry.1).map (fun reason =>
              s!"node[{places.length}] vs node[{entry.2}]" ++ ": " ++ reason.text)) ∧
        reasons ≠ [] ∧ ∀ index, .within (.node index) .nodesTaken ∉ reasons) := by
  intro nodes
  refine ⟨fun short => if_pos short, fun enough => ⟨?_, ?_, ?_⟩⟩
  · intro a assigned
    have placed := assignNodes_outcome enough
    rw [assigned] at placed
    exact ⟨(assignNodes_covers _ _ _ assigned).indices_length, placed⟩
  · constructor
    · rintro ⟨reasons, failed⟩
      have stuck := assignNodes_outcome enough
      rw [failed] at stuck
      obtain ⟨places, node, stuck, -⟩ := stuck
      exact ⟨places, node, stuck⟩
    · rintro ⟨places, node, stuck⟩
      cases outcome : required.assignNodes offered with
      | error reasons => exact ⟨reasons, rfl⟩
      | ok a =>
        have placed := assignNodes_outcome enough
        rw [outcome] at placed
        have all := (assignNodes_covers _ _ _ outcome).indices_length
        have few := stuck.length_le placed
        exact absurd stuck.length_lt (Nat.not_lt.2 (all ▸ few))
  · intro reasons places node failed stuck
    have outcome := assignNodes_outcome enough
    rw [failed] at outcome
    obtain ⟨places', node', stuck', rfl⟩ := outcome
    obtain ⟨rfl, rfl⟩ := stuck.unique stuck'
    exact ⟨rfl, objections_text _ _ _ _, stuck.objections_ne_nil enough,
      fun _ => nodesTaken_notMem_objections⟩

/-- The large node goes to the first of two requirements, which any node would do for, and the
second one is stuck with the small node. -/
theorem assignNodes_first_fit_stuck :
    let cores (count : CountSpace) : NodeSpace := { coreCount := some count }
    let required : EnvironmentSpace := { nodes := [cores (.atLeast 1), cores (.atLeast 8)] }
    let offered : EnvironmentSpace := { nodes := [cores (.between 8 16), cores (.between 1 2)] }
    required.assignNodes offered = .error [.within (.nodes 1 1) (.within (.dimension "core_count")
      (.countsDisjoint (.atLeast 8) (.between 1 2)))] := by
  intro cores required offered
  obtain ⟨-, enough⟩ := assignNodes_first_fit required offered
  obtain ⟨-, fails, told⟩ := enough (by decide)
  have first : IsLeast (openPlaces offered.nodes [] (cores (.atLeast 1))) 0 :=
    ⟨⟨List.not_mem_nil, cores (.between 8 16), rfl, by decide⟩, fun _ _ => Nat.zero_le _⟩
  have stuck : StuckFirstFit offered.nodes required.requiredNodes [0] (cores (.atLeast 8)) := by
    have here : required.requiredNodes[0]? = some (cores (.atLeast 1)) := rfl
    refine ⟨(PlacedFirstFit.nil _ _).concat here first, rfl, ?_⟩
    refine Set.eq_empty_iff_forall_notMem.2 ?_
    rintro (_ | _ | place) ⟨free, host, hosted, fits⟩
    · exact free List.mem_cons_self
    · obtain rfl := Option.some.inj hosted
      exact absurd fits (by decide)
    · cases hosted
  obtain ⟨reasons, failed⟩ := fails.2 ⟨_, _, stuck⟩
  obtain ⟨same, -⟩ := told reasons _ _ failed stuck
  rw [failed, same]
  rfl

end EnvironmentSpace

end Testbed
