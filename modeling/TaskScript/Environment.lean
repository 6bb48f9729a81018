/-
The rules a script is checked against: which variable names and paths are accepted,
and which imports are rejected.
-/
import TaskScript.Import
import TaskScript.NonEmpty
import TaskScript.Variable
import TaskScript.Text.Identifier

namespace TaskScript

/-- Accepts a path that is not blank, does not end like a directory and does not name
one.  The file need not exist, since scripts often write to it. -/
def acceptsFilePath (isDirectory : String → Bool) (path : String) : Bool :=
  !(Text.allBlank path || path.toList.getLast? == some '/' || path.toList.getLast? == some '\\')
    && !isDirectory path

/-- Looks at the imports of a script together: gives back the set, or the imports that are
rejected. -/
abbrev ImportValidator := ImportSet → Except (NonEmpty Import) ImportSet

namespace ImportValidator

/-- Rejects each import by itself. -/
def rejecting (rejects : Import → Bool) : ImportValidator := fun imports =>
  match NonEmpty.ofList? (imports.items.filter rejects) with
  | some rejected => .error rejected
  | none => .ok imports

def standard : ImportValidator := rejecting Import.hasBlank

end ImportValidator

structure Environment where
  acceptsName : String → Bool := Text.isIdentifier
  acceptsPath : String → Bool
  validateImports : ImportValidator := .standard

namespace Environment

/-- The variable of this name, valid when the name is accepted. -/
def variableNamed (env : Environment) (name : String) : Variable :=
  ⟨name, env.acceptsName name⟩

end Environment

end TaskScript
