import Testbed.Proofs.Space.Nodes

/-!
# Requirement and capability exchanged

Either of two values can be the requirement and the other one the capability. For single dimensions,
whose narrowing is a meet, both orders come to the same. For nodes one order can fail alone, since
only a requirement may leave something open. When both succeed, they give the same node but for the
firmware images: where the two name different ones, each order keeps the requirement's.
-/
namespace Testbed

namespace Narrowing

variable {α : Type} [Narrowing α]

/-- Both orders give the same value, or both fail. -/
def Commutative (α : Type) [Narrowing α] : Prop :=
  ∀ a b : α,
    (∃ narrowed, intersect a b = .ok narrowed ∧ intersect b a = .ok narrowed) ∨
    (∃ reasons reasons', intersect a b = .error reasons ∧ intersect b a = .error reasons')

/-- An optional dimension that is narrowed in both orders is given by both sides or by none. -/
theorem both_given {a b narrowed narrowed' : Option α} (forward : intersect a b = .ok narrowed)
    (backward : intersect b a = .ok narrowed') :
    (a = none ∧ b = none ∧ narrowed = none ∧ narrowed' = none) ∨
    ∃ x y n n', a = some x ∧ b = some y ∧ narrowed = some n ∧ narrowed' = some n' ∧
      intersect x y = .ok n ∧ intersect y x = .ok n' := by
  cases b with
  | none =>
    obtain ⟨rfl, rfl⟩ := intersectDimension_none_ok.1 forward
    obtain ⟨-, rfl⟩ := intersectDimension_none_ok.1 backward
    exact .inl ⟨rfl, rfl, rfl, rfl⟩
  | some y =>
    cases a with
    | none => cases (intersectDimension_none_ok.1 backward).1
    | some x =>
      obtain ⟨n, value, rfl⟩ := intersectDimension_some_ok.1 forward
      obtain ⟨n', value', rfl⟩ := intersectDimension_some_ok.1 backward
      exact .inr ⟨x, y, n, n', rfl, rfl, rfl, rfl, value, value'⟩

end Narrowing

open Narrowing

/-- Narrowing that gives the same in both orders when both succeed. -/
class ConvergentNarrowing (α : Type) [Narrowing α] : Prop where
  converges {a b narrowed narrowed' : α} :
    intersect a b = .ok narrowed → intersect b a = .ok narrowed' → narrowed = narrowed'

export ConvergentNarrowing (converges)

instance {α : Type} [Narrowing α] [ConvergentNarrowing α] : ConvergentNarrowing (Option α) where
  converges forward backward := by
    obtain ⟨-, -, rfl, rfl⟩ | ⟨x, y, n, n', -, -, rfl, rfl, value, value'⟩ :=
      both_given forward backward
    · rfl
    · rw [converges value value']

namespace NarrowsByMeet

variable {α V : Type} [Narrowing α] [SemilatticeInf V] {meaning : α → V} {Leaves : V → Prop}
  {Settled : α → Prop}

theorem commutative (meets : NarrowsByMeet meaning Leaves Settled) : Commutative α := by
  intro a b
  cases forward : intersect a b with
  | ok narrowed => exact .inl ⟨narrowed, rfl, meets.comm forward⟩
  | error reasons =>
    cases backward : intersect b a with
    | ok narrowed =>
      have impossible := meets.comm backward
      rw [forward] at impossible
      cases impossible
    | error reasons' => exact .inr ⟨reasons, reasons', rfl, rfl⟩

theorem convergent (meets : NarrowsByMeet meaning Leaves Settled) : ConvergentNarrowing α where
  converges forward backward := Except.ok.inj ((meets.comm forward).symm.trans backward)

end NarrowsByMeet

instance : ConvergentNarrowing CountSpace := CountSpace.narrowsByMeet.convergent

instance : ConvergentNarrowing RangeValue := RangeValue.narrowsByMeet.convergent

instance {α : Type} [LT α] [StrictOrder α] [DecidableEq α] [Domain α] :
    ConvergentNarrowing (Choice α) := Choice.narrowsByMeet.convergent

instance {α : Type} [DecidableEq α] [Shown α] : ConvergentNarrowing (Fixed α) :=
  Fixed.narrowsByMeet.convergent

namespace FeatureSettings

/-- The firmware image that settings name. -/
def image? : FeatureSettings → Option String
  | securityProfile settings => settings.igvm
  | _ => none

/-- What both orders of narrowing give for two settings: the same, unless both name an image and not
the same one; then the outcomes differ in the images, and each has the requirement's. -/
inductive Mirrors (a b : FeatureSettings) : FeatureSettings → FeatureSettings → Prop where
  | same {narrowed : FeatureSettings} (agree : ∀ x ∈ a.image?, ∀ y ∈ b.image?, x = y) :
    Mirrors a b narrowed narrowed
  | images (settings : SecurityProfileSettings) {x y : String} (left : a.image? = some x)
    (right : b.image? = some y) (differ : x ≠ y) :
    Mirrors a b (securityProfile { settings with igvm := some x })
      (securityProfile { settings with igvm := some y })

variable {a b narrowed narrowed' : FeatureSettings}

/-- A mere presence is narrowed in both orders by another one only. -/
theorem narrows_of_both (forward : a.intersect b = .ok narrowed)
    (backward : b.intersect a = .ok narrowed') : Narrows a b narrowed ∧ Narrows b a narrowed' := by
  have there := intersect_ok.1 forward
  have back := intersect_ok.1 backward
  by_cases mere : a = presence
  · subst mere
    obtain rfl : b = presence := by
      by_contra detailed
      rw [orOffered_of_ne detailed] at back
      exact detailed (back.presence_iff.1.2 (back.presence_iff.2.1 rfl))
    exact ⟨there, back⟩
  · rw [orOffered_of_ne mere] at there
    have detailed : b ≠ presence := fun mere' =>
      mere (there.presence_iff.1.2 (there.presence_iff.2.1 mere'))
    rw [orOffered_of_ne detailed] at back
    exact ⟨there, back⟩

theorem Narrows.mirrors (there : Narrows a b narrowed) (back : Narrows b a narrowed') :
    Mirrors a b narrowed narrowed' := by
  cases there with
  | presence =>
    cases back with
    | presence => exact .same nofun
  | @network _ _ n nics =>
    cases back with
    | @network _ _ n' nics' =>
      obtain ⟨nicCount⟩ := n
      obtain ⟨nicCount'⟩ := n'
      obtain rfl := converges nics nics'
      exact .same nofun
  | @security r c n profiles disks image =>
    cases back with
    | @security _ _ n' profiles' disks' image' =>
      obtain ⟨profile, encryptDisk, igvm⟩ := n
      obtain ⟨profile', encryptDisk', igvm'⟩ := n'
      obtain rfl := converges profiles profiles'
      obtain rfl := converges disks disks'
      obtain rfl : igvm = (r.igvm <|> c.igvm) := image
      obtain rfl : igvm' = (c.igvm <|> r.igvm) := image'
      cases left : r.igvm with
      | none =>
        have right : (c.igvm <|> none) = c.igvm := by cases c.igvm <;> rfl
        rw [right]
        exact .same (by simp [image?, left])
      | some x =>
        cases right : c.igvm with
        | none => exact .same (by simp [image?, right])
        | some y =>
          by_cases equal : x = y
          · subst equal
            exact .same (by simp [image?, left, right])
          · exact .images ⟨profile, encryptDisk, none⟩ left right equal

end FeatureSettings

namespace NodeSpace

/-- The firmware image that a node names for a feature. -/
def image? (n : NodeSpace) (name : String) : Option String :=
  (n.features.get? name).bind FeatureSettings.image?

/-- Both nodes name an image for a feature, and not the same one. -/
def ImagesDiffer (a b : NodeSpace) (name : String) : Prop :=
  ∃ x y, a.image? name = some x ∧ b.image? name = some y ∧ x ≠ y

/-- The outcomes of both orders of narrowing differ in the images of some features only, and there
each of them has the image of its requirement. -/
structure SameButImages (a b narrowed narrowed' : NodeSpace) : Prop where
  dimensions : { narrowed with features := narrowed'.features } = narrowed'
  features (name : String) : ¬ ImagesDiffer a b name →
    narrowed.features.get? name = narrowed'.features.get? name
  images (name : String) : ImagesDiffer a b name → ∃ settings : SecurityProfileSettings,
    narrowed.features.get? name = some (.securityProfile { settings with igvm := a.image? name }) ∧
    narrowed'.features.get? name = some (.securityProfile { settings with igvm := b.image? name })

variable {a b narrowed narrowed' : NodeSpace}

/-- A feature is given by neither node, or both outcomes have it as the orders narrow it. -/
theorem features_mirror (there : Narrows a b narrowed) (back : Narrows b a narrowed')
    (name : String) :
    (a.features.get? name = none ∧ narrowed.features.get? name = none ∧
      narrowed'.features.get? name = none) ∨
    ∃ x y n n', a.features.get? name = some x ∧ b.features.get? name = some y ∧
      narrowed.features.get? name = some n ∧ narrowed'.features.get? name = some n' ∧
      FeatureSettings.Mirrors x y n n' := by
  have forward := FeatureMap.intersect_get? there.features name
  have backward := FeatureMap.intersect_get? back.features name
  obtain ⟨left, -, gone, gone'⟩ | ⟨x, y, n, n', left, right, given, given', value, value'⟩ :=
    both_given forward backward
  · exact .inl ⟨left, gone, gone'⟩
  · obtain ⟨one, other⟩ := FeatureSettings.narrows_of_both value value'
    exact .inr ⟨x, y, n, n', left, right, given, given', one.mirrors other⟩

theorem Narrows.sameButImages (there : Narrows a b narrowed) (back : Narrows b a narrowed') :
    SameButImages a b narrowed narrowed' where
  dimensions := by
    have cores := converges there.cores back.cores
    have memory := converges there.memory back.memory
    have disks := converges there.disks back.disks
    have paths := converges there.paths back.paths
    rw [cores, memory, disks, paths]
  features name agree := by
    obtain ⟨-, gone, gone'⟩ | ⟨x, y, n, n', left, right, given, given', mirrors⟩ :=
      features_mirror there back name
    · rw [gone, gone']
    · rw [given, given']
      cases mirrors with
      | same _ => rfl
      | images _ left' right' differ =>
        refine absurd ⟨_, _, ?_, ?_, differ⟩ agree
        · rw [image?, left, Option.bind_some, left']
        · rw [image?, right, Option.bind_some, right']
  images name differ := by
    obtain ⟨i, j, image, image', unequal⟩ := differ
    obtain ⟨none', -, -⟩ | ⟨x, y, n, n', left, right, given, given', mirrors⟩ :=
      features_mirror there back name
    · rw [image?, none'] at image
      cases image
    · have named : x.image? = some i := by rwa [image?, left, Option.bind_some] at image
      have named' : y.image? = some j := by rwa [image?, right, Option.bind_some] at image'
      cases mirrors with
      | same agree => exact absurd (agree i named j named') unequal
      | images settings left' right' _ =>
        obtain rfl := Option.some.inj (named.symm.trans left')
        obtain rfl := Option.some.inj (named'.symm.trans right')
        exact ⟨settings, by rw [given, image], by rw [given', image']⟩

/-- The outcomes are the same exactly if no feature has two different images. -/
theorem SameButImages.eq_iff (same : SameButImages a b narrowed narrowed') :
    narrowed = narrowed' ↔ ∀ name, ¬ ImagesDiffer a b name := by
  constructor
  · rintro rfl name differ
    obtain ⟨settings, one, other⟩ := same.images name differ
    obtain ⟨x, y, image, image', unequal⟩ := differ
    have equal := Option.some.inj (one.symm.trans other)
    simp only [FeatureSettings.securityProfile.injEq, SecurityProfileSettings.mk.injEq] at equal
    rw [image, image'] at equal
    exact unequal (Option.some.inj equal.2.2)
  · intro agree
    have features : narrowed.features = narrowed'.features :=
      Dict.eq_of_get? (fun name => same.features name (agree name))
    rw [← same.dimensions, ← features]

end NodeSpace

/-- Narrowing commutes for counts, ranges and choices. For nodes, when both orders succeed, they
give the same node exactly if no feature has two different firmware images, and otherwise nodes that
differ in these images only. -/
theorem intersect_mirror :
    Commutative CountSpace ∧ Commutative RangeValue ∧
    (∀ (α : Type) [LT α] [StrictOrder α] [DecidableEq α] [Domain α], Commutative (Choice α)) ∧
    ∀ a b narrowed narrowed' : NodeSpace,
      a.intersect b = .ok narrowed → b.intersect a = .ok narrowed' →
        (narrowed = narrowed' ↔ ∀ name, ¬ NodeSpace.ImagesDiffer a b name) ∧
        NodeSpace.SameButImages a b narrowed narrowed' := by
  refine ⟨CountSpace.narrowsByMeet.commutative, RangeValue.narrowsByMeet.commutative, ?_, ?_⟩
  · intro α _ _ _ _
    exact Choice.narrowsByMeet.commutative
  · intro a b narrowed narrowed' forward backward
    have same := (NodeSpace.intersect_ok.1 forward).sameButImages
      (NodeSpace.intersect_ok.1 backward)
    exact ⟨same.eq_iff, same⟩

/-- A requirement that leaves something open cannot be narrowed the other way round. -/
example :
    let sized : NodeSpace := { coreCount := some (.atLeast 2) }
    (NodeSpace.intersect {} sized).toOption.isSome = true ∧
      (NodeSpace.intersect sized {}).toOption = none := by decide +kernel

/-- Two nodes that name different images for the same feature: each order keeps its requirement's,
and all else is the same. -/
theorem intersect_mirror_images :
    let security (items : List SecurityProfileType) (image : String) : FeatureMap :=
      Dict.empty.insert "security"
        (.securityProfile { profile := some (.of items), igvm := some image })
    let a : NodeSpace :=
      { coreCount := some (.atLeast 3), features := security [.standard, .secureBoot] "own" }
    let b : NodeSpace :=
      { coreCount := some (.oneOf [2, 4])
        features := security [.secureBoot, .confidential] "vendor" }
    ∃ narrowed narrowed',
      a.intersect b = .ok narrowed ∧ b.intersect a = .ok narrowed' ∧ narrowed ≠ narrowed' ∧
        narrowed.coreCount = narrowed'.coreCount ∧
        narrowed.image? "security" = some "own" ∧ narrowed'.image? "security" = some "vendor" := by
  intro security a b
  obtain ⟨-, -, -, nodes⟩ := intersect_mirror
  let outcome (image : String) : NodeSpace :=
    { coreCount := some ⟨.ofList [4], 3, none, some 4⟩
      features := Dict.empty.insert "security" (.securityProfile
        { profile := some { (.of [.secureBoot] : Choice SecurityProfileType) with
            current := some .secureBoot }
          igvm := some image }) }
  have forward : a.intersect b = .ok (outcome "own") := by decide +kernel
  have backward : b.intersect a = .ok (outcome "vendor") := by decide +kernel
  obtain ⟨equal_iff, same⟩ := nodes a b _ _ forward backward
  have differ : NodeSpace.ImagesDiffer a b "security" := ⟨"own", "vendor", rfl, rfl, by decide⟩
  have cores := congrArg NodeSpace.coreCount same.dimensions
  exact ⟨_, _, forward, backward, fun equal => equal_iff.1 equal "security" differ, cores, rfl, rfl⟩

end Testbed
