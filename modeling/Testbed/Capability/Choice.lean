import Testbed.Data.SortedSet

/-!
# Choices

Sets over a finite domain with an order of preference.
-/
namespace Testbed

/-- A finite domain whose members have an order of preference. -/
class Domain (α : Type) where
  /-- Every member, most preferred first. -/
  priority : List α
  /-- The name of a member in diagnostics. -/
  label : α → String

namespace Domain

variable {α : Type} [Domain α] [DecidableEq α]

/-- The place of a member in the order of preference; one that is not listed ranks last. -/
def rank (a : α) : Nat := (priority : List α).findIdx (· = a)

end Domain

/-- A set of allowed members and the one picked by the last intersection. -/
structure Choice (α : Type) [LT α] where
  items : SortedSet α
  current : Option α := none
  deriving DecidableEq

namespace Choice

variable {α : Type} [LT α] [DecidableLT α] [StrictOrder α] [DecidableEq α] [Domain α]

/-- The set of the listed members, with none picked. -/
def of (items : List α) : Choice α := { items := .ofList items }

/-- Every member of the domain. -/
def any : Choice α := of Domain.priority

def contains (c : Choice α) (a : α) : Bool := c.items.contains a

/-- The most preferred member of the set; of members of the same rank the first one. -/
def preferred (c : Choice α) : Option α := c.items.toList.minOn? Domain.rank

end Choice

end Testbed
