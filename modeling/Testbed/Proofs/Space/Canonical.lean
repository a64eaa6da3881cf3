import Testbed.Proofs.Digest.HexDigest
import Testbed.Proofs.Json.Lossless
import Testbed.Space.Canonical

/-!
# Canonical texts are lossless

What a space leaves out of its text is put back as the default that it stood for, so every space is
read back from its canonical text. Two spaces with one text are then the same, and so are two with
one digest unless their texts collide.
-/
namespace Testbed

open Wire Record

/-! ## Wire forms of dimensions and settings -/

instance : Lossless CountSpace where
  decode_encode s := by
    simp only [encode, decode]
    simp [ofJson?_present, defaulted_eq, find?_present_cons, unlessDefault, always, whenPresent]

instance : NeverNull CountSpace := ⟨fun _ => nofun⟩

instance : Lossless RangeValue where
  decode_encode r := by
    simp only [encode, decode]
    simp [ofJson?_present, defaulted_eq, find?_present_cons, unlessDefault, always, whenPresent]

instance : NeverNull RangeValue := ⟨fun _ => nofun⟩

section Choices

variable {α : Type} [LT α] [DecidableLT α] [StrictOrder α] [Wire α]

instance [Lossless α] [NeverNull α] : Lossless (Choice α) where
  decode_encode c := by
    simp only [encode, decode]
    simp [ofJson?_present, required, defaulted_eq, find?_present_cons, always, whenPresent]

instance : NeverNull (Choice α) := ⟨fun _ => nofun⟩

end Choices

instance {α : Type} [Wire α] [Lossless α] : Lossless (Fixed α) where
  decode_encode f := by
    change (decode (encode f.value)).map Fixed.mk = some f
    simp

instance {α : Type} [Wire α] [NeverNull α] : NeverNull (Fixed α) :=
  ⟨fun f => encode_ne_null f.value⟩

instance : Lossless DiskType := ⟨fun a => by cases a <;> rfl⟩
instance : NeverNull DiskType := ⟨fun _ => nofun⟩

instance : Lossless NetworkDataPath := ⟨fun a => by cases a <;> rfl⟩
instance : NeverNull NetworkDataPath := ⟨fun _ => nofun⟩

instance : Lossless SecurityProfileType := ⟨fun a => by cases a <;> rfl⟩
instance : NeverNull SecurityProfileType := ⟨fun _ => nofun⟩

theorem NetworkInterfaceSettings.ofJson?_members (s : NetworkInterfaceSettings) :
    ofJson? (.object s.members) = some s := by
  simp only [ofJson?, members]
  simp [ofJson?_present, defaulted_eq, find?_present_cons, whenPresent]

theorem SecurityProfileSettings.ofJson?_members (s : SecurityProfileSettings) :
    ofJson? (.object s.members) = some s := by
  simp only [ofJson?, members]
  simp [ofJson?_present, defaulted_eq, find?_present_cons, whenPresent]

/-! ## Trees of spaces are plain -/

section Plain

variable {α : Type} [Wire α] {depth : Nat}

open Json (Plain)

theorem plain_countSpace (s : CountSpace) : Plain (depth + 2) (encode s) := by
  have counts : Plain (depth + 1) (encode s.counts) := plain_set plain_uint32 s.counts
  refine .object (plain_present ?_)
  simp [unlessDefault, always, whenPresent, plain_uint32, counts]

theorem plain_rangeValue (r : RangeValue) : Plain (depth + 1) (encode r) := by
  have chooseMax : Plain depth (encode r.chooseMax) := .bool r.chooseMax
  refine .object (plain_present ?_)
  simp [unlessDefault, always, whenPresent, plain_uint64, chooseMax]

theorem plain_choice [LT α] [DecidableLT α] [StrictOrder α]
    (each : ∀ {depth : Nat} (a : α), Plain depth (encode a)) (c : Choice α) :
    Plain (depth + 2) (encode c) := by
  have items : Plain (depth + 1) (encode c.items) := plain_set each c.items
  refine .object (plain_present ?_)
  simp [always, whenPresent, each, items]

theorem plain_diskType (a : DiskType) : Plain depth (encode a) := .string a.name

theorem plain_networkDataPath (a : NetworkDataPath) : Plain depth (encode a) := .string a.name

theorem plain_securityProfileType (a : SecurityProfileType) : Plain depth (encode a) :=
  .string a.name

namespace FeatureSettings

theorem plain_members (s : FeatureSettings) :
    ∀ member ∈ s.members, Plain (depth + 2) member.2 := by
  cases s with
  | presence => exact nofun
  | networkInterface s =>
    refine plain_present ?_
    simp [whenPresent, plain_countSpace]
  | securityProfile s =>
    have flag (f : Fixed Bool) : Plain (depth + 2) (encode f) := .bool f.value
    have text (t : String) : Plain (depth + 2) (encode t) := .string t
    refine plain_present ?_
    simp [whenPresent, plain_choice plain_securityProfileType, flag, text]

theorem plain_encode (s : FeatureSettings) : Plain (depth + 3) (encode s) := by
  refine .object (List.forall_mem_cons.2 ⟨?_, s.plain_members⟩)
  exact .string s.kind

/-- The kind of settings has a name of its own among their members. -/
theorem kind_notMem (s : FeatureSettings) : "kind" ∉ s.members.map (·.1) := by
  cases s with
  | presence => exact List.not_mem_nil
  | networkInterface s =>
    refine fun listed => absurd ((Json.sublist_present _).subset listed) ?_
    simp [whenPresent]
  | securityProfile s =>
    refine fun listed => absurd ((Json.sublist_present _).subset listed) ?_
    simp [whenPresent]

instance : Lossless FeatureSettings where
  decode_encode s := by
    have whole : (encode s).readable = true := (s.plain_encode : Plain 3 (encode s)).readable
    have found := Json.tagged?_cons whole s.kind_notMem
    change ofJson? (.object (("kind", .string s.kind) :: s.members)) = some s
    rw [ofJson?, found]
    cases s with
    | presence => rfl
    | networkInterface s => simp [kind, members, NetworkInterfaceSettings.ofJson?_members]
    | securityProfile s => simp [kind, members, SecurityProfileSettings.ofJson?_members]

end FeatureSettings

theorem plain_nodeSpace (n : NodeSpace) : Plain (depth + 5) (encode n) := by
  have features : Plain (depth + 4) (encode n.features) :=
    plain_dict FeatureSettings.plain_encode n.features
  refine .object (plain_present ?_)
  simp [unlessDefault, whenPresent, plain_countSpace, plain_rangeValue,
    plain_choice plain_diskType, plain_choice plain_networkDataPath, features]

theorem plain_environmentSpace (e : EnvironmentSpace) : Plain (depth + 7) (encode e) := by
  have name (t : String) : Plain (depth + 6) (encode t) := .string t
  have nodes : Plain (depth + 6) (encode e.nodes) := plain_list plain_nodeSpace e.nodes
  have features : Plain (depth + 6) (encode e.features) :=
    plain_dict FeatureSettings.plain_encode e.features
  refine .object (plain_present ?_)
  simp [unlessDefault, always, whenPresent, name, nodes, features]

end Plain

instance : Lossless NodeSpace where
  decode_encode n := by
    simp only [encode, decode]
    simp [ofJson?_present, defaulted_eq, find?_present_cons, unlessDefault, whenPresent]

instance : Lossless EnvironmentSpace where
  decode_encode e := by
    simp only [encode, decode]
    simp [ofJson?_present, defaulted_eq, find?_present_cons, unlessDefault, always, whenPresent]

/-! ## Canonical texts and digests -/

/-- What it means that the canonical texts of a type's values stand for the values. -/
structure CanonicallyLossless (α : Type) [Wire α] : Prop where
  /-- A value is decoded from its canonical text. -/
  decode_text (a : α) : (Json.parse (canonicalText a)).bind decode = some a
  /-- Different values have different canonical texts. -/
  text_eq_iff (a b : α) : canonicalText a = canonicalText b ↔ a = b
  /-- Different values have different digests, except where the bytes of their texts collide. -/
  digest_eq_iff (a b : α) : digest a = digest b ↔
    a = b ∨ Sha256.Collide (canonicalText a).toUTF8.toList (canonicalText b).toUTF8.toList

/-- A wire form that is lossless and plain makes a canonical text lossless. -/
theorem CanonicallyLossless.of_plain {α : Type} [Wire α] [Lossless α] {depth : Nat}
    (plain : ∀ a : α, (encode a).Plain depth) (shallow : depth < Json.tooDeep) :
    CanonicallyLossless α := by
  have decoded (a : α) : (Json.parse (canonicalText a)).bind decode = some a := by
    rw [canonicalText, Json.parse_compact (plain a) shallow]
    exact decode_encode a
  have texts (a b : α) : canonicalText a = canonicalText b ↔ a = b := by
    constructor
    · intro same
      have first := decoded a
      rw [same, decoded b] at first
      exact (Option.some.inj first).symm
    · exact congrArg canonicalText
  refine ⟨decoded, texts, fun a b => ?_⟩
  rw [digest, digest, Sha256.hexDigest_eq_iff, texts]

/-- The canonical texts of node spaces and of environment spaces lose nothing. -/
theorem spaces_canonicallyLossless :
    CanonicallyLossless NodeSpace ∧ CanonicallyLossless EnvironmentSpace := by
  have nodes : ∀ n : NodeSpace, (encode n).Plain 5 := plain_nodeSpace
  have environments : ∀ e : EnvironmentSpace, (encode e).Plain 7 := plain_environmentSpace
  exact ⟨.of_plain nodes (by decide), .of_plain environments (by decide)⟩

end Testbed
