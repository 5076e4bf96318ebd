import RudpAgentStack.Common.Host
import RudpAgentStack.Foundation.PosixPath

/-!
# Sandbox validation

`PolicyGuard` of `server/agent/validations.py`.  Its root is an absolute
normalised path, made so by the constructor.
-/

namespace RudpAgentStack

open Foundation

/-- `PolicyGuard` -/
structure PolicyGuard where
  sandboxRoot : Text
  deriving DecidableEq

namespace PolicyGuard

/-- `__init__`: the root as `os.path.abspath` reads it in the working directory
of the process. -/
def init (workingDirectory sandboxRoot : Text) : PolicyGuard :=
  ⟨PosixPath.normalize (PosixPath.join workingDirectory sandboxRoot)⟩

/-- `validate_path`.  A true value that is no string makes `os.path.join`
raise. -/
def validatePath (guard : PolicyGuard) (filename : Json) :
    Except PyError Text :=
  if filename.truthy = false then valueError "Filename cannot be empty"
  else
    match filename with
    | .string name =>
        let fullPath :=
          PosixPath.normalize (PosixPath.join guard.sandboxRoot name)
        match PosixPath.common guard.sandboxRoot fullPath with
        | none => valueError "Can't mix absolute and relative paths"
        | some ancestor =>
            if ancestor ≠ guard.sandboxRoot then
              valueError "Path traversal detected"
            else .ok fullPath
    | _ =>
        .error ⟨.typeError,
          "join() argument must be str, bytes, or os.PathLike object"⟩

end PolicyGuard

end RudpAgentStack
