import SessionRecorder.Text.Quoted
/-!
# Paths

Names of files as they are written: relative or from the root, and the parts between the slashes.
Empty parts and single dots say nothing and are dropped; double dots stay, since only the files
themselves tell where they lead.

## Main definitions

* `Path` — a path in parts; `Path.parse` and `Path.text` go from and to texts.
* `Path.join` — a path taken from another one on.
* `Path.parent`, `Path.name`, `Path.stem`, `Path.suffix` — the pieces of a path.
* `Path.withName?`, `Path.withSuffix?` — a path with another last part.
-/

namespace SessionRecorder

/-- Where a path starts. Exactly two slashes in front are kept apart from one. -/
inductive Path.Anchor where
  | relative
  | root
  | doubleRoot
  deriving DecidableEq, Repr

/-- A path in parts. -/
structure Path where
  anchor : Path.Anchor
  parts : List String
  deriving DecidableEq, Repr

namespace Path

/-! ### Texts -/

/-- A list of characters cut at every slash; `part` holds the current piece in reverse. -/
def splitSlashes (part : List Char) : List Char → List (List Char)
  | [] => [part.reverse]
  | c :: rest =>
    if c == '/' then part.reverse :: splitSlashes [] rest else splitSlashes (c :: part) rest

/-- Whether a part says anything. -/
def isSubstantial (part : List Char) : Bool :=
  !(part.isEmpty || part == ['.'])

/-- The parts of a list of characters. -/
def partsOf (cs : List Char) : List String :=
  ((splitSlashes [] cs).filter isSubstantial).map String.ofList

/-- Where a list of characters starts. -/
def anchorOf : List Char → Anchor
  | '/' :: '/' :: '/' :: _ => .root
  | '/' :: '/' :: _ => .doubleRoot
  | '/' :: _ => .root
  | _ => .relative

/-- The path that a text spells. -/
def parse (s : String) : Path :=
  ⟨anchorOf s.toList, partsOf s.toList⟩

/-- What stands in front of the parts. -/
def Anchor.text : Anchor → String
  | .relative => ""
  | .root => "/"
  | .doubleRoot => "//"

/-- The text of a path; of the empty relative path, a dot. -/
def text (p : Path) : String :=
  if p.anchor = .relative && p.parts.isEmpty then "."
  else p.anchor.text ++ "/".intercalate p.parts

/-- The text of a path as a value of its own kind. -/
def display (p : Path) : String :=
  "PosixPath(" ++ Text.quoted p.text ++ ")"

/-! ### Pieces -/

/-- Whether a path starts at the root. -/
def isAbsolute (p : Path) : Bool :=
  p.anchor != .relative

/-- A path taken from another one on: one that starts at the root stays what it is. -/
def join (p q : Path) : Path :=
  if q.isAbsolute then q else { p with parts := p.parts ++ q.parts }

/-- A path with one more part or several, given as text. -/
def child (p : Path) (s : String) : Path :=
  p.join (parse s)

/-- The path without its last part. -/
def parent (p : Path) : Path :=
  { p with parts := p.parts.dropLast }

/-- Parts without double dots, each of which takes back the part before it. -/
def plainParts (before : List String) : List String → List String
  | [] => before.reverse
  | part :: rest =>
    if part == ".." then plainParts before.tail rest else plainParts (part :: before) rest

/-- The path without double dots, where no directory leads elsewhere than its name says. -/
def plain (p : Path) : Path :=
  { p with parts := plainParts [] p.parts }

/-- The last part, empty if there is none. -/
def name (p : Path) : String :=
  p.parts.getLastD ""

/-- A name cut in front of its last dot, if that stands neither first nor last in it. -/
def splitName (name : String) : List Char × List Char :=
  let cs := name.toList
  let ending := (cs.reverse.takeWhile (· != '.')).reverse
  let base := cs.take (cs.length - ending.length - 1)
  if ending.isEmpty || base.isEmpty || ending.length == cs.length then (cs, [])
  else (base, '.' :: ending)

/-- The last part without its ending. -/
def stem (p : Path) : String :=
  String.ofList (splitName p.name).1

/-- The ending of the last part, with its dot. -/
def suffix (p : Path) : String :=
  String.ofList (splitName p.name).2

/-- The path with another last part. It must have one. -/
def withName? (p : Path) (name : String) : Option Path :=
  if p.parts.isEmpty then none else some { p with parts := p.parts.dropLast ++ [name] }

/-- The path with another ending of its last part. It must have one. -/
def withSuffix? (p : Path) (suffix : String) : Option Path :=
  p.withName? (p.stem ++ suffix)

end Path

end SessionRecorder
