import JsonTemplate.Failure
import JsonTemplate.Files.FilePath
import JsonTemplate.Text.Blank

/-!
# Home directories

A relative path whose first part is `~`, or `~` and the name of a user, starts from a home
directory. A home directory may be given by a relative path itself.
-/

namespace JsonTemplate

/-- The home directories of users, under the empty name that of whoever runs the program. -/
abbrev Homes := String → Option String

namespace FilePath

def homeUser? (path : String) : Option String :=
  match isAbsolute path, parts path.toList with
  | false, ('~' :: user) :: _ => some (String.ofList user)
  | _, _ => none

def homeText (home : String) : List Char :=
  match Text.dropWhileEnd (· == '/') home.toList with
  | [] => ['/']
  | text => text

def expanded (homes : Homes) (path : String) : Except Breakdown String :=
  match homeUser? path with
  | none => .ok path
  | some user =>
    if Text.hasNull user then .error .nullByte
    else
      match (homes user).map homeText with
      | none | some ('~' :: _) => .error .unknownHome
      | some home => .ok (String.ofList (joined (home :: (parts path.toList).tail)))

end FilePath

/-- The location of a path that starts from a directory, from the root or from a home directory. -/
def Location.locate (homes : Homes) (directory : Location) (path : String) :
    Except Breakdown Location := do
  let path ← FilePath.expanded homes path
  let start := if FilePath.isAbsolute path then [] else directory
  if (path :: start).any Text.hasNull then .error .nullByte else .ok (directory.resolve path)

end JsonTemplate
