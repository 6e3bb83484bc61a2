/-!
# Version headings

Each stage that works on the document signs what it hands on.
-/

namespace Omci

/-- The program that made a file, when, and from which document. -/
structure Version where
  name : String
  version : String
  createTime : String
  document : String
  sha256 : String
deriving DecidableEq, Repr

end Omci
