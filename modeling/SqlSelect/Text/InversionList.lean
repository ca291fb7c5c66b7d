/-!
# Sets of code points by their boundaries

An inversion list is the increasing list of the code points at which membership in a set changes:
the first boundary enters the set, the second leaves it, and so on. Every character property of
this library is stored this way. Nothing here requires the list to be increasing; a list that is
not simply denotes another set.
-/

namespace SqlSelect.Text.InversionList

/-- Whether `code` lies in the set with the given boundaries. -/
def contains : List Nat → Nat → Bool
  | [], _ => false
  | bound :: bounds, code => decide (bound ≤ code) && !contains bounds code

end SqlSelect.Text.InversionList
