import SchemaBeans.Files.Path
import SchemaBeans.Java.PackageName

/-!
# Generation — Directory

The directory that holds the sources of a package: one directory for each segment of the package's
name, below the output directory.
-/

namespace SchemaBeans.Generation

/-- The directory of a package below `output`; empty segments of its name are passed over. -/
def storeDirectory (output package : String) : String :=
  Files.Path.joinAll output ((Java.packageSegments package).filter (· ≠ ""))

end SchemaBeans.Generation
