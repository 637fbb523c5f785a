/-!
# Parts of a text

Whether a text contains another one, without gaps.
-/

namespace InstanceLifecycle.Text

/-- Whether one list occurs in another without gaps. -/
def hasInfix [DecidableEq α] (part : List α) : List α → Bool
  | [] => part.isEmpty
  | c :: r => part.isPrefixOf (c :: r) || hasInfix part r

/-- Whether a text contains another one. -/
def contains (part s : String) : Bool := hasInfix part.toList s.toList

end InstanceLifecycle.Text
