import Recollection.Collection.SortedSet
import Recollection.Json.Value
import Recollection.Number.Rounding
import Recollection.Text.Words
/-!
# Terms

A memory is found by its terms: the words of every string in its payload. How well it answers a
text is the share of the words of the text that are among its terms.
-/

set_option autoImplicit false

namespace Recollection

/-- A set of words. -/
abbrev Terms := SortedSet String

namespace Terms

/-- The words of a text. -/
def ofText (text : String) : Terms :=
  .ofList (Text.words text)

/-- The words of every string in a document; keys do not count. -/
def ofDocument (document : Json) : Terms :=
  .ofList (document.texts.flatMap Text.words)

/-- The share of the wanted words that are present, zero if none is wanted. -/
def overlap (wanted present : Terms) : Binary64 :=
  if wanted.size = 0 then .zero else .share (wanted.sharedSize present) wanted.size

end Terms

end Recollection
