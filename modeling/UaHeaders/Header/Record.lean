import UaHeaders.Diff.Unified
import UaHeaders.Digest.Sha256
import UaHeaders.Files.Path

/-!
# Header records

## Main definitions

* `UaHeaders.HeaderRecord` — a header that waits to be written, and what stands in its place now.
-/

set_option autoImplicit false

namespace UaHeaders

/-- **A header that waits to be written to its target**, with the content that the target has now if
it is there. -/
structure HeaderRecord where
  target : Path
  content : String
  previous : Option String
  deriving DecidableEq, Inhabited

namespace HeaderRecord

/-- The SHA-256 digest of the new content. -/
def digest (r : HeaderRecord) : String := Digest.sha256Hex r.content

/-- Whether the target has this very content already. -/
def unchanged (r : HeaderRecord) : Bool := r.previous == some r.content

/-- **What would change**, as a unified diff. A target that is not there counts as empty. -/
def diff (r : HeaderRecord) : String :=
  Diff.unified ("a/" ++ r.target.text) ("b/" ++ r.target.text) (r.previous.getD "") r.content

end HeaderRecord

end UaHeaders
