import JsonTemplate.Text.Blank

/-!
# Paths of files

A path is used without its empty parts and its `.` parts; a path of nothing else is `.`. Spec
files are told apart by their absolute path, a list of names from the root, in which `..` takes
back the name before it.
-/

namespace JsonTemplate

/-- Whether a text holds the character that ends a text for the system, which refuses to take it. -/
def Text.hasNull (s : String) : Bool :=
  s.toList.contains '\x00'

namespace FilePath

def parts (path : List Char) : List (List Char) :=
  (Text.splitOn '/' path).filter fun p => !p.isEmpty && p != ['.']

/-- The slashes a path starts with: exactly two are kept, otherwise one stands for many. -/
def rootOf : List Char → List Char
  | '/' :: '/' :: '/' :: _ => ['/']
  | '/' :: '/' :: _ => ['/', '/']
  | '/' :: _ => ['/']
  | _ => []

def joined (parts : List (List Char)) : List Char :=
  ['/'].intercalate parts

def normalized (path : String) : String :=
  let s := path.toList
  let text := rootOf s ++ joined (parts s)
  if text.isEmpty then "." else String.ofList text

def isAbsolute (path : String) : Bool :=
  path.toList.head? == some '/'

def endsInDirectory (path : String) : Bool :=
  match path.toList.reverse with
  | '/' :: _ => true
  | ['.'] => true
  | '.' :: '/' :: _ => true
  | ['.', '.'] => true
  | '.' :: '.' :: '/' :: _ => true
  | _ => false

end FilePath

/-- The names that lead from the root to a file. -/
abbrev Location := List String

namespace Location

def step (l : Location) (part : String) : Location :=
  if part = ".." then l.dropLast else l ++ [part]

def resolve (directory : Location) (path : String) : Location :=
  ((FilePath.parts path.toList).map String.ofList).foldl step
    (if FilePath.isAbsolute path then [] else directory)

def parent (l : Location) : Location :=
  l.dropLast

def text (l : Location) : String :=
  "/" ++ "/".intercalate l

/-- The end of a name from its last dot on; a name that only starts or ends with it has none. -/
def suffixOf (name : List Char) : List Char :=
  let after := name.reverse.takeWhile (· != '.')
  if after.isEmpty || name.length ≤ after.length + 1 then []
  else '.' :: after.reverse

def suffix (l : Location) : String :=
  String.ofList (suffixOf (l.getLast?.getD "").toList)

end Location

end JsonTemplate
