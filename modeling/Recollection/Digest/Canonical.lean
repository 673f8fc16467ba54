import Recollection.Digest.Sha256
import Recollection.Json.Writer
/-!
# Digests of documents

The digest of a document is the digest of its canonical text, so documents that differ only in the
order of members have one digest.
-/

set_option autoImplicit false

namespace Recollection.Json

/-- The digest of a value, in lower-case hexadecimal. -/
def digest (document : Json) : String :=
  Sha256.ofText document.canonical

end Recollection.Json
