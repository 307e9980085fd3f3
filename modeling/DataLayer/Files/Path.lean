import DataLayer.Text.Lines

/-!
# Paths

A path is a text with slashes between its segments.  It is shown and joined as it was written:
nothing is resolved or simplified.  Looking at a path in terms of its segments, empty segments and
single dots do not count, except a single dot at the very front.
-/

namespace DataLayer
namespace Path

/-- A path below another one.  An absolute path stays as it is. -/
def join (base path : String) : String :=
  if path.startsWith "/" then path
  else if base = "" ∨ base.endsWith "/" then base ++ path
  else base ++ "/" ++ path

/-- The segments between slashes, as they are written. -/
def segments (path : String) : List String :=
  Text.splitAtChar '/' path

/-- The segment stands for nothing when it is not in front. -/
def isIdle (segment : String) : Bool :=
  segment = "" || segment = "."

/-- Drop idle segments at the end of reversed segments, but for the one in front of the path. -/
def dropIdle : List String → List String
  | [] => []
  | [front] => [front]
  | last :: before => if isIdle last then dropIdle before else last :: before

/-- The segments of a path from its last one backwards, without idle ones at the end. -/
def backwards (path : String) : List String :=
  dropIdle (segments path).reverse

/-- The text of a path that is given by its segments backwards; the root alone is one slash. -/
def ofBackwards : List String → String
  | [""] => "/"
  | reversed => "/".intercalate reversed.reverse

/-- The path that the last segment stands in.  The root and the empty path have none. -/
def parent? (path : String) : Option String :=
  match backwards path with
  | [] => none
  | [front] => if front = "" then none else some ""
  | _ :: before => some (ofBackwards (dropIdle before))

/-- The last segment of a path, if it is a name. -/
def fileName? (path : String) : Option String :=
  match backwards path with
  | [] => none
  | last :: _ => if last = "" ∨ last = "." ∨ last = ".." then none else some last

/-- What follows the last dot of a file name.  A dot in front does not count. -/
def extension? (path : String) : Option String :=
  (fileName? path).bind fun name =>
    match (Text.splitAtChar '.' name).reverse with
    | [] => none
    | [_] => none
    | [_, ""] => none
    | last :: _ => some last

/-- The path is the current folder, written with a dot. -/
def isCurrent (path : String) : Bool :=
  backwards path == ["."]

/-- Split off a path under which another path was joined, and the slashes and idle segments that
follow it. -/
def relativeTo (base path : String) : String :=
  let rest := path.toList.drop base.length
  let segmentsLeft := ((Text.splitChars '/' rest).map String.ofList).dropWhile isIdle
  if base.toList.isPrefixOf path.toList then "/".intercalate segmentsLeft else path

end Path
end DataLayer
