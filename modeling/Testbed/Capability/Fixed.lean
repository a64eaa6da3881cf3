import Testbed.Text.Quoted

/-!
# Fixed values

A dimension with a single value, compatible only with the same value.
-/
namespace Testbed

/-- A single concrete value. -/
structure Fixed (α : Type) where
  value : α
  deriving DecidableEq

/-- Values that diagnostics can show. -/
class Shown (α : Type) where
  shown : α → String

instance : Shown Bool := ⟨fun b => if b then "true" else "false"⟩

instance : Shown Int64 := ⟨fun i => toString i.toInt⟩

instance : Shown String := ⟨Text.quoted⟩

end Testbed
