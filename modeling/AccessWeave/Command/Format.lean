import AccessWeave.Class.Codec
import AccessWeave.Host.Path

/-!
Artifact formats by file names. An extension of json, in any case, means a JSON text, and
everything else a binary artifact. A search of a directory takes one exact extension.
-/

namespace AccessWeave.Codec

def extension : Codec → String
  | binary => "cgc"
  | json => "json"

def ofPath (path : Path) : Codec := if path.hasExtension "json" then json else binary

end AccessWeave.Codec
