import EdmMapping.Manifest.Decode
import EdmMapping.Manifest.Error
import EdmMapping.Toml.Document

/-!
# Model files

From the content of a file to a manifest and a model.

* `Manifest.ofToml` — the manifest that a text is;
* `loadSource` — the manifest and the model of a source;
* `Manifest.ofText`, `Manifest.ofNamedText`, `Manifest.ofFile` — the manifest alone, from a text or
  from the content of a file;
* `ModelFile.ofFile` — all that is known of a model file.

A file whose content is not known, or is no UTF-8, cannot be read.
-/

set_option autoImplicit false

namespace EdmMapping

def Manifest.ofToml (text : String) : Option Manifest :=
  (Toml.parse? text).bind Manifest.ofToml?

/-- The manifest and the model of a source. -/
def loadSource (s : Source) : Except ManifestError (Manifest × Model) :=
  match Manifest.ofToml s.text with
  | none => .error (.malformed s)
  | some manifest =>
    match manifest.resolveIn s with
    | .ok model => .ok (manifest, model)
    | .error e => .error e

/-- The text of a file with the given content. -/
def readText (path : String) (content : Option ByteArray) : Except ManifestError String :=
  match content.bind String.fromUTF8? with
  | some text => .ok text
  | none => .error (.unreadable path)

namespace Manifest

/-- The manifest of a text, whose errors are placed in a file of the given name. -/
def ofNamedText (text fileName : String) : Except ManifestError Manifest :=
  (loadSource ⟨text, fileName⟩).map Prod.fst

def ofText (text : String) : Except ManifestError Manifest :=
  ofNamedText text "model.toml"

def ofFile (path : String) (content : Option ByteArray) : Except ManifestError Manifest := do
  ofNamedText (← readText path content) path

end Manifest

/-- A model file with all that was read from it. -/
structure ModelFile where
  path : String
  content : String
  manifest : Manifest
  model : Model

def ModelFile.ofFile (path : String) (content : Option ByteArray) :
    Except ManifestError ModelFile := do
  let text ← readText path content
  let (manifest, model) ← loadSource ⟨text, path⟩
  return ⟨path, text, manifest, model⟩

end EdmMapping
