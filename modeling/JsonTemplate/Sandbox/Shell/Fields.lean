import JsonTemplate.Sandbox.Shell.Pattern
import JsonTemplate.Sandbox.Shell.State

/-!
# Fields

An expanded word is a list of characters that know where they come from. Characters that come from
an expansion outside quotes separate fields if they are separators; characters that are not quoted
may be part of a pattern, which stands for the paths that it matches.
-/

namespace JsonTemplate.Sandbox

inductive Origin where
  | literal
  | quoted
  | expanded
  deriving DecidableEq

inductive Item where
  | char (c : Char) (origin : Origin)
  /-- Keeps the field that it stands in, even an empty one. -/
  | anchor
  /-- Ends a field. -/
  | cut
  deriving DecidableEq

abbrev Field := List PatternChar

namespace Item

def ofText (origin : Origin) (s : Octets) : List Item :=
  s.map fun c => .char c origin

def text (items : List Item) : Octets :=
  items.filterMap fun
    | .char c _ => some c
    | .anchor => none
    | .cut => some ' '

def patternChars (items : List Item) : List PatternChar :=
  items.filterMap fun
    | .char c origin => some (c, origin = .quoted)
    | .anchor => none
    | .cut => some (' ', false)

def isSpace (c : Char) : Bool :=
  c == ' ' || c == '\t' || c == '\n'

/-- The fields that some items are split into. `started` is the field that has begun, in reverse;
`spaced` says that blanks have ended a field, so that a separator after them belongs to the same
end. -/
def fields (separators : Octets) (started : Option Field) (spaced : Bool) : List Item → List Field
  | [] => (started.map List.reverse).toList
  | .anchor :: items => fields separators (some (started.getD [])) false items
  | .cut :: items => (started.map List.reverse).toList ++ fields separators none false items
  | .char c origin :: items =>
    if origin = .expanded && separators.contains c then
      match started with
      | some f => f.reverse :: fields separators none (isSpace c) items
      | none =>
        if isSpace c then fields separators none spaced items
        else if spaced then fields separators none false items
        else [] :: fields separators none false items
    else fields separators (some ((c, origin = .quoted) :: started.getD [])) false items

end Item

def namesIn (files : FileTree) (l : Location) : List Octets :=
  let names := files.entries.filterMap fun e =>
    if l.isPrefixOf e.1 then (e.1.drop l.length).head? else none
  (names.eraseDups.map Octets.ofText).mergeSort Octets.notAfter

def isPatternSign (c : PatternChar) : Bool :=
  !c.2 && "*?[".toList.contains c.1

def splitSlashes : Field → List Field
  | [] => [[]]
  | (c, quoted) :: f =>
    if c = '/' then [] :: splitSlashes f
    else
      match splitSlashes f with
      | part :: parts => ((c, quoted) :: part) :: parts
      | [] => [[(c, quoted)]]

def namesMatching (sh : Shell) (front : Octets) (part : Field) : List Octets :=
  let directory := if front.isEmpty then .ok sh.directory else sh.locate front
  match directory with
  | .error _ => []
  | .ok l =>
    if sh.world.files.find? l ≠ some .directory then []
    else
      let hidden := part.head?.any (·.1 == '.')
      let names := if hidden then ['.'] :: ['.', '.'] :: namesIn sh.world.files l
        else (namesIn sh.world.files l).filter fun n => n.head? ≠ some '.'
      names.filter (Pattern.accepts (Pattern.read part))

def pathsMatching (sh : Shell) (front : Octets) : List Field → List Octets
  | [] => []
  | [part] =>
    if part.any isPatternSign then (namesMatching sh front part).map (front ++ ·)
    else
      let path := front ++ part.map (·.1)
      if (sh.entry? path).isSome then [path] else []
  | part :: parts =>
    if part.any isPatternSign then
      (namesMatching sh front part).flatMap fun n => pathsMatching sh (front ++ n ++ ['/']) parts
    else pathsMatching sh (front ++ part.map (·.1) ++ ['/']) parts

/-- The paths that a field stands for, or the field itself if there are none. -/
def expandField (sh : Shell) (f : Field) : List Octets :=
  let plain := f.map (·.1)
  if sh.hasOption 'f' || !f.any isPatternSign then [plain]
  else
    match (pathsMatching sh [] (splitSlashes f)).mergeSort Octets.notAfter with
    | [] => [plain]
    | paths => paths

end JsonTemplate.Sandbox
