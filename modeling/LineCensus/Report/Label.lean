import LineCensus.Census.Basic

/-!
# LineCensus.Report.Label — extensions as they are shown

1. `extensionLabel`: files without an extension have a name of their own, and all other labels begin with
   a dot.
-/

namespace LineCensus

/-- The label of an extension. -/
def extensionLabel (extension : String) : String :=
  if extension = noExtension then "(no extension)"
  else if extension.toList.head? = some '.' then extension
  else "." ++ extension

end LineCensus
