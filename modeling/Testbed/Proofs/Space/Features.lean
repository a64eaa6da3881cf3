import Testbed.Proofs.Space.Settings

/-!
# Maps of features

Narrowing a map of features goes through the required features and then through the offered ones.
What comes out is, under every name, what narrowing the two optional settings of that name gives; so
a map follows the laws of narrowing because its settings do.
-/
namespace Testbed

namespace Dict

variable {κ α β ε : Type} [LT κ] [DecidableLT κ] [DecidableEq κ] [StrictOrder κ]

/-- Insert a value if there is one. -/
def put (d : Dict κ β) (key : κ) : Option β → Dict κ β
  | some value => d.insert key value
  | none => d

theorem get?_put (d : Dict κ β) (key other : κ) (value : Option β) :
    (d.put key value).get? other =
      if other = key then (value <|> d.get? other) else d.get? other := by
  cases value with
  | none => simp [put]
  | some v => simp [put, get?_insert]

section Loop

variable {step : Dict κ β → κ × α → Except ε (Dict κ β)} {Puts : κ × α → Option β → Prop}

/-- A loop that puts at the key of every entry what the entry gives. -/
theorem foldlM_put (steps : ∀ d entry d', step d entry = .ok d' ↔
      ∃ value, Puts entry value ∧ d.put entry.1 value = d') (result : Dict κ β) :
    ∀ (entries : List (κ × α)) (start : Dict κ β), (entries.map Prod.fst).Nodup →
      entries.foldlM step start = .ok result →
      (∀ entry ∈ entries, ∃ value, Puts entry value ∧
        result.get? entry.1 = (value <|> start.get? entry.1)) ∧
      ∀ key ∉ entries.map Prod.fst, result.get? key = start.get? key
  | [], start, _, h => by
    obtain rfl := Except.ok.inj h
    simp
  | first :: rest, start, distinct, h => by
    rw [List.foldlM_cons] at h
    obtain ⟨next, stepped, later⟩ := bind_ok.1 h
    obtain ⟨value, puts, rfl⟩ := (steps _ _ _).1 stepped
    obtain ⟨fresh, distinct⟩ := List.nodup_cons.1 distinct
    obtain ⟨listed, unlisted⟩ := foldlM_put steps result rest _ distinct later
    constructor
    · intro entry member
      rcases List.mem_cons.1 member with rfl | member
      · refine ⟨value, puts, ?_⟩
        rw [unlisted _ fresh, get?_put, if_pos rfl]
      · obtain ⟨other, given, found⟩ := listed entry member
        have apart : entry.1 ≠ first.1 := fun same =>
          fresh (same ▸ List.mem_map_of_mem member)
        refine ⟨other, given, ?_⟩
        rw [found, get?_put, if_neg apart]
    · intro key out
      rw [List.map_cons, List.mem_cons, not_or] at out
      rw [unlisted key out.2, get?_put, if_neg out.1]

omit [DecidableEq κ] in
theorem foldlM_total (steps : ∀ d entry d', step d entry = .ok d' ↔
      ∃ value, Puts entry value ∧ d.put entry.1 value = d') :
    ∀ (entries : List (κ × α)) (start : Dict κ β), (∀ entry ∈ entries, ∃ value, Puts entry value) →
      ∃ result, entries.foldlM step start = .ok result
  | [], start, _ => ⟨start, rfl⟩
  | first :: rest, start, each => by
    obtain ⟨value, puts⟩ := each first List.mem_cons_self
    obtain ⟨result, later⟩ := foldlM_total steps rest (start.put first.1 value)
      (fun entry member => each entry (List.mem_cons_of_mem _ member))
    refine ⟨result, ?_⟩
    rw [List.foldlM_cons]
    exact bind_ok.2 ⟨_, (steps _ _ _).2 ⟨value, puts, rfl⟩, later⟩

/-- The loop over a whole dictionary. -/
theorem foldlM_entries (steps : ∀ d entry d', step d entry = .ok d' ↔
      ∃ value, Puts entry value ∧ d.put entry.1 value = d') {source : Dict κ α}
    {start result : Dict κ β} (h : source.entries.foldlM step start = .ok result) (key : κ) :
    (∀ held, source.get? key = some held →
      ∃ value, Puts (key, held) value ∧ result.get? key = (value <|> start.get? key)) ∧
    (source.get? key = none → result.get? key = start.get? key) := by
  have distinct : (source.entries.map Prod.fst).Nodup :=
    List.pairwise_map.2 (source.ascending.imp StrictOrder.ne_of_lt)
  obtain ⟨listed, unlisted⟩ := foldlM_put steps result _ _ distinct h
  constructor
  · exact fun held found => listed (key, held) ((source.mem_entries key held).2 found)
  · intro absent
    refine unlisted key (fun member => ?_)
    obtain ⟨entry, inside, rfl⟩ := List.mem_map.1 member
    have found := (source.mem_entries entry.1 entry.2).1 inside
    rw [absent] at found
    cases found

end Loop

end Dict

namespace FeatureMap

open Narrowing

instance : Narrowing FeatureMap := ⟨FeatureMap.check, FeatureMap.intersect⟩

theorem intersectRequired_ok (offered merged : FeatureMap) (entry : String × FeatureSettings)
    (next : FeatureMap) :
    intersectRequired offered merged entry = .ok next ↔
      ∃ value, Narrowing.intersect (some entry.2) (offered.get? entry.1) = .ok value ∧
        merged.put entry.1 value = next := by
  unfold intersectRequired
  rw [mapError_ok]
  cases offered.get? entry.1 with
  | none => simp [Narrowing.intersect, intersectDimension]
  | some settings => simp [Narrowing.intersect, intersectDimension, map_ok, Dict.put]

theorem intersectOffered_ok (required merged : FeatureMap) (entry : String × FeatureSettings)
    (next : FeatureMap) :
    intersectOffered required merged entry = .ok next ↔
      ∃ value, (if required.contains entry.1 then value = none
        else Narrowing.intersect none (some entry.2) = .ok value) ∧
        merged.put entry.1 value = next := by
  unfold intersectOffered
  split
  · simp [Dict.put]
  · simp [mapError_ok, Narrowing.intersect, intersectDimension, map_ok, Dict.put]

/-- Narrowing a map narrows the optional settings under every name. -/
theorem intersect_get? {required offered narrowed : FeatureMap}
    (h : FeatureMap.intersect required offered = .ok narrowed) (name : String) :
    Narrowing.intersect (required.get? name) (offered.get? name) = .ok (narrowed.get? name) := by
  obtain ⟨merged, first, second⟩ := bind_ok.1 h
  obtain ⟨demanded, free⟩ := Dict.foldlM_entries (intersectRequired_ok offered) first name
  obtain ⟨supplied, absent⟩ := Dict.foldlM_entries (intersectOffered_ok required) second name
  cases wanted : required.get? name with
  | none =>
    have missing : required.contains name = false := by simp [Dict.contains, wanted]
    cases given : offered.get? name with
    | none =>
      rw [absent given, free wanted]
      rfl
    | some settings =>
      obtain ⟨value, narrows, found⟩ := supplied settings given
      rw [if_neg (by simp [missing])] at narrows
      rw [narrows, found, free wanted]
      cases value <;> rfl
  | some settings =>
    obtain ⟨value, narrows, found⟩ := demanded settings wanted
    have contained : required.contains name = true := by simp [Dict.contains, wanted]
    cases given : offered.get? name with
    | none =>
      rw [given] at narrows
      cases narrows
    | some other =>
      obtain ⟨rest, kept, found'⟩ := supplied other given
      rw [if_pos contained] at kept
      subst kept
      rw [given] at narrows
      rw [narrows, found', found]
      cases value <;> rfl

theorem intersect_total {required offered : FeatureMap}
    (fits : ∀ name, Fits (required.get? name) (offered.get? name)) :
    Fits required offered := by
  obtain ⟨merged, first⟩ := Dict.foldlM_total (intersectRequired_ok offered) required.entries ∅ (by
    intro entry member
    have wanted := (required.mem_entries entry.1 entry.2).1 member
    obtain ⟨value, narrows⟩ := fits entry.1
    exact ⟨value, wanted ▸ narrows⟩)
  obtain ⟨narrowed, second⟩ :=
    Dict.foldlM_total (intersectOffered_ok required) offered.entries merged (by
      intro entry member
      by_cases contained : required.contains entry.1
      · exact ⟨none, by rw [if_pos contained]⟩
      · have given := (offered.mem_entries entry.1 entry.2).1 member
        obtain ⟨value, narrows⟩ := fits entry.1
        refine ⟨value, ?_⟩
        rw [if_neg contained]
        have wanted : required.get? entry.1 = none := by simpa [Dict.contains] using contained
        rw [wanted, given] at narrows
        exact narrows)
  exact ⟨narrowed, bind_ok.2 ⟨merged, first, second⟩⟩

/-- A map narrows to what its settings narrow to under every name, and to nothing else. -/
theorem intersect_ok {required offered narrowed : FeatureMap} :
    FeatureMap.intersect required offered = .ok narrowed ↔
      ∀ name, Narrowing.intersect (required.get? name) (offered.get? name) =
        .ok (narrowed.get? name) := by
  constructor
  · exact intersect_get?
  · intro each
    obtain ⟨result, h⟩ := intersect_total (fun name => ⟨_, each name⟩)
    have same : result = narrowed :=
      Dict.eq_of_get? (fun name => Except.ok.inj ((intersect_get? h name).symm.trans (each name)))
    exact same ▸ h

instance : LawfulNarrowing FeatureMap where
  usable := by
    rintro required offered ⟨narrowed, h⟩
    exact intersect_total (fun name => LawfulNarrowing.usable ⟨_, intersect_get? h name⟩)
  again h := intersect_ok.2 (fun name => LawfulNarrowing.again (intersect_get? h name))
  absorb h := intersect_ok.2 (fun name => LawfulNarrowing.absorb (intersect_get? h name))
  fits_of_narrowed := by
    rintro required offered narrowed other h ⟨m, fitted⟩
    exact intersect_total (fun name =>
      LawfulNarrowing.fits_of_narrowed (intersect_get? h name) ⟨_, intersect_get? fitted name⟩)
  regroup := by
    intro a b c ab narrowed first second
    have each (name : String) :=
      LawfulNarrowing.regroup (intersect_get? first name) (intersect_get? second name)
    obtain ⟨bc, together⟩ : Fits b c := intersect_total (fun name => by
      obtain ⟨value, h, -⟩ := each name
      exact ⟨value, h⟩)
    refine ⟨bc, together, intersect_ok.2 (fun name => ?_)⟩
    obtain ⟨value, h, regrouped⟩ := each name
    obtain rfl : value = bc.get? name := Except.ok.inj (h.symm.trans (intersect_get? together name))
    exact regrouped

end FeatureMap

end Testbed
