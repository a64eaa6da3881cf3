import Testbed.Proofs.Capability.Choices
import Testbed.Proofs.Capability.Counts
import Testbed.Proofs.Space.Agreement
import Testbed.Space.FeatureSettings

/-!
# Settings of features follow the laws of narrowing

Settings narrow dimension by dimension when they are of one kind. A required presence acts as the
offered settings do, in the way an absent dimension acts as the offered one.
-/
namespace Testbed

open Narrowing

namespace FeatureSettings

/-- What narrowing gives for settings of the same kind. -/
inductive Narrows : FeatureSettings → FeatureSettings → FeatureSettings → Prop where
  | presence : Narrows presence presence presence
  | network {required offered narrowed : NetworkInterfaceSettings} :
      Narrowing.intersect required.nicCount offered.nicCount = .ok narrowed.nicCount →
      Narrows (networkInterface required) (networkInterface offered) (networkInterface narrowed)
  | security {required offered narrowed : SecurityProfileSettings} :
      Narrowing.intersect required.profile offered.profile = .ok narrowed.profile →
      Narrowing.intersect required.encryptDisk offered.encryptDisk = .ok narrowed.encryptDisk →
      narrowed.igvm = (required.igvm <|> offered.igvm) →
      Narrows (securityProfile required) (securityProfile offered) (securityProfile narrowed)

theorem intersectSettings_ok {required offered narrowed : FeatureSettings} :
    intersectSettings required offered = .ok narrowed ↔ Narrows required offered narrowed := by
  constructor
  · intro h
    unfold intersectSettings at h
    split at h
    · obtain rfl := Except.ok.inj h
      exact .presence
    · simp only [bind_ok, intersectWithin_ok, return_ok] at h
      obtain ⟨nicCount, nics, rfl⟩ := h
      exact .network nics
    · simp only [bind_ok, intersectWithin_ok, return_ok] at h
      obtain ⟨profile, profiles, encryptDisk, disks, rfl⟩ := h
      exact .security profiles disks rfl
    · cases h
  · intro h
    cases h with
    | presence => rfl
    | network nics =>
      simp only [intersectSettings, bind_ok, intersectWithin_ok, return_ok]
      exact ⟨_, nics, rfl⟩
    | security profiles disks image =>
      simp only [intersectSettings, bind_ok, intersectWithin_ok, return_ok]
      exact ⟨_, profiles, _, disks, by rw [← image]⟩

/-- Settings that act as a requirement: a mere presence acts as what is offered. -/
def orOffered : FeatureSettings → FeatureSettings → FeatureSettings
  | presence, offered => offered
  | required, _ => required

theorem orOffered_of_ne {required offered : FeatureSettings} (detailed : required ≠ presence) :
    required.orOffered offered = required := by
  cases required with
  | presence => exact absurd rfl detailed
  | networkInterface settings => rfl
  | securityProfile settings => rfl

theorem intersect_ok {required offered narrowed : FeatureSettings} :
    required.intersect offered = .ok narrowed ↔
      Narrows (required.orOffered offered) offered narrowed := by
  rw [← intersectSettings_ok]
  cases required with
  | presence =>
    rw [intersect_presence]
    exact mapError_ok
  | networkInterface settings => rfl
  | securityProfile settings => rfl

namespace Narrows

variable {a b c ab required offered narrowed other : FeatureSettings}

theorem unique {narrowed' : FeatureSettings} (h : Narrows required offered narrowed)
    (h' : Narrows required offered narrowed') : narrowed = narrowed' :=
  Except.ok.inj ((intersectSettings_ok.2 h).symm.trans (intersectSettings_ok.2 h'))

/-- Either all three are a mere presence or none is. -/
theorem presence_iff (h : Narrows required offered narrowed) :
    (required = .presence ↔ narrowed = .presence) ∧
      (offered = .presence ↔ narrowed = .presence) := by
  cases h <;> simp

/-- Settings that came out of a narrowing act as they are. -/
theorem orOffered_eq (h : Narrows required offered narrowed) :
    narrowed.orOffered offered = narrowed := by
  cases h <;> rfl

theorem usable (h : Narrows required offered narrowed) : ∃ n, Narrows offered offered n := by
  cases h with
  | presence => exact ⟨_, .presence⟩
  | network nics =>
    obtain ⟨nicCount, self⟩ := LawfulNarrowing.usable ⟨_, nics⟩
    exact ⟨networkInterface ⟨nicCount⟩, .network self⟩
  | security profiles disks image =>
    obtain ⟨profile, self⟩ := LawfulNarrowing.usable ⟨_, profiles⟩
    obtain ⟨encryptDisk, self'⟩ := LawfulNarrowing.usable ⟨_, disks⟩
    exact ⟨securityProfile ⟨profile, encryptDisk, _⟩, .security self self' rfl⟩

theorem again (h : Narrows required offered narrowed) : Narrows narrowed offered narrowed := by
  cases h with
  | presence => exact .presence
  | network nics => exact .network (LawfulNarrowing.again nics)
  | @security r c _ profiles disks image =>
    refine .security (LawfulNarrowing.again profiles) (LawfulNarrowing.again disks) ?_
    rw [image]
    cases r.igvm <;> cases c.igvm <;> rfl

theorem absorb (h : Narrows required offered narrowed) : Narrows required narrowed narrowed := by
  cases h with
  | presence => exact .presence
  | network nics => exact .network (LawfulNarrowing.absorb nics)
  | @security r c _ profiles disks image =>
    refine .security (LawfulNarrowing.absorb profiles) (LawfulNarrowing.absorb disks) ?_
    rw [image]
    cases r.igvm <;> rfl

theorem fits_of_narrowed {m : FeatureSettings} (h : Narrows required offered narrowed)
    (fits : Narrows narrowed other m) : ∃ n, Narrows required other n := by
  cases h with
  | presence =>
    cases fits with
    | presence => exact ⟨_, .presence⟩
  | network nics =>
    cases fits with
    | network later =>
      obtain ⟨nicCount, direct⟩ := LawfulNarrowing.fits_of_narrowed nics ⟨_, later⟩
      exact ⟨networkInterface ⟨nicCount⟩, .network direct⟩
  | security profiles disks image =>
    cases fits with
    | security laterProfiles laterDisks laterImage =>
      obtain ⟨profile, direct⟩ := LawfulNarrowing.fits_of_narrowed profiles ⟨_, laterProfiles⟩
      obtain ⟨encryptDisk, direct'⟩ := LawfulNarrowing.fits_of_narrowed disks ⟨_, laterDisks⟩
      exact ⟨securityProfile ⟨profile, encryptDisk, _⟩, .security direct direct' rfl⟩

theorem regroup (first : Narrows a b ab) (second : Narrows ab c narrowed) :
    ∃ bc, Narrows b c bc ∧ Narrows a bc narrowed := by
  cases first with
  | presence => exact ⟨narrowed, second, second.absorb⟩
  | network nics =>
    cases second with
    | network laterNics =>
      obtain ⟨nicCount, together, regrouped⟩ := LawfulNarrowing.regroup nics laterNics
      exact ⟨networkInterface ⟨nicCount⟩, .network together, .network regrouped⟩
  | @security r _ _ profiles disks image =>
    cases second with
    | security laterProfiles laterDisks laterImage =>
      obtain ⟨profile, together, regrouped⟩ := LawfulNarrowing.regroup profiles laterProfiles
      obtain ⟨encryptDisk, together', regrouped'⟩ := LawfulNarrowing.regroup disks laterDisks
      refine ⟨securityProfile ⟨profile, encryptDisk, _⟩, .security together together' rfl,
        .security regrouped regrouped' ?_⟩
      rw [laterImage, image]
      cases r.igvm <;> rfl

theorem self (h : Narrows required offered narrowed) : Narrows narrowed narrowed narrowed :=
  h.again.absorb

end Narrows

instance : LawfulNarrowing FeatureSettings where
  usable := by
    rintro required offered ⟨narrowed, h⟩
    obtain ⟨n, self⟩ := (intersect_ok.1 h).usable
    refine ⟨n, intersect_ok.2 ?_⟩
    cases offered <;> exact self
  again := by
    intro required offered narrowed h
    have narrows := intersect_ok.1 h
    refine intersect_ok.2 ?_
    rw [narrows.orOffered_eq]
    exact narrows.again
  absorb := by
    intro required offered narrowed h
    have narrows := intersect_ok.1 h
    refine intersect_ok.2 ?_
    by_cases mere : required = presence
    · subst mere
      exact narrows.self
    · rw [orOffered_of_ne mere] at narrows ⊢
      exact narrows.absorb
  fits_of_narrowed := by
    rintro required offered narrowed other h ⟨m, fitted⟩
    have first := intersect_ok.1 h
    have second := intersect_ok.1 fitted
    have fits : ∃ n, Narrows (required.orOffered other) other n := by
      by_cases mere : required = presence
      · subst mere
        exact second.usable
      · rw [orOffered_of_ne mere] at first ⊢
        rw [orOffered_of_ne (first.presence_iff.1.not.1 mere)] at second
        exact first.fits_of_narrowed second
    obtain ⟨n, direct⟩ := fits
    exact ⟨n, intersect_ok.2 direct⟩
  regroup := by
    intro a b c ab narrowed first second
    have inner := intersect_ok.1 first
    have outer := intersect_ok.1 second
    by_cases mere : ab = presence
    · -- both requirements are a mere presence, so both groupings take `c` as it is
      subst mere
      obtain rfl : b = presence := inner.presence_iff.2.2 rfl
      obtain rfl : a = presence := by
        by_contra detailed
        rw [orOffered_of_ne detailed] at inner
        exact detailed (inner.presence_iff.1.2 rfl)
      exact ⟨narrowed, second, intersect_ok.2 outer.self⟩
    · have detailed : b ≠ presence := inner.presence_iff.2.not.2 mere
      rw [orOffered_of_ne mere] at outer
      obtain ⟨bc, together, regrouped⟩ := inner.regroup outer
      refine ⟨bc, intersect_ok.2 ?_, intersect_ok.2 ?_⟩
      · rw [orOffered_of_ne detailed]
        exact together
      · by_cases wildcard : a = presence
        · subst wildcard
          obtain rfl : bc = narrowed := together.absorb.unique regrouped
          exact together.self
        · rw [orOffered_of_ne wildcard] at regrouped ⊢
          exact regrouped

end FeatureSettings

end Testbed
