/-!
# Paths

Paths as texts, with slashes between their components. A path that begins with a slash is absolute.
The functions here look at the text alone; what a path leads to is a matter of the file system.
-/

namespace SceneScript.Path

/-- Whether a path begins with a slash. -/
def isAbsolute (path : String) : Bool := path.toList.head? == some '/'

/-- The components of a text between slashes, empty ones included. -/
def splitSlashes : List Char → List (List Char)
  | [] => [[]]
  | c :: rest =>
    if c = '/' then [] :: splitSlashes rest
    else
      match splitSlashes rest with
      | [] => [[c]]
      | component :: more => (c :: component) :: more

/-- The components of a path, empty ones included. -/
def components (path : String) : List String := (splitSlashes path.toList).map String.ofList

/-- One path after another. An absolute one stands by itself, and a slash is put between the two
unless there is one. -/
def join (first second : String) : String :=
  if isAbsolute second then second
  else if first.isEmpty ∨ first.toList.getLast? = some '/' then first ++ second
  else first ++ "/" ++ second

/-- A text without the slashes at its end, unless it has nothing else. -/
def dropEndSlashes (cs : List Char) : List Char :=
  let kept := (cs.reverse.dropWhile (· == '/')).reverse
  if kept.isEmpty then cs else kept

/-- A path as its last component and what is in front of it, without the slashes between. -/
def split (path : String) : String × String :=
  let reversed := path.toList.reverse
  let last := (reversed.takeWhile (· != '/')).reverse
  let front := (reversed.dropWhile (· != '/')).reverse
  (String.ofList (dropEndSlashes front), String.ofList last)

/-- The path of the directory that holds the last component. -/
def directory (path : String) : String := (split path).1

/-- The last component. -/
def name (path : String) : String := (split path).2

/-- The extension of the last component: what its last dot begins, unless there are only dots in
front. -/
def extension (path : String) : String :=
  let last := (name path).toList
  let after := (last.reverse.takeWhile (· != '.')).reverse
  let before := last.take (last.length - after.length - 1)
  if last.contains '.' && before.any (· != '.') then String.ofList ('.' :: after) else ""

/-- A path without empty components, without those that are a dot, and without a slash at the end.
Exactly two slashes in front stay. -/
def tidy (path : String) : String :=
  let kept := (components path).filter fun c => c != "" && c != "."
  let text := "/".intercalate kept
  match path.toList with
  | '/' :: '/' :: '/' :: _ => "/" ++ text
  | '/' :: '/' :: _ => "//" ++ text
  | '/' :: _ => "/" ++ text
  | _ => if text.isEmpty then "." else text

/-- The components after resolving those that mean the same or the parent directory, from the top
directory. -/
def resolve (start : List String) (path : String) : List String :=
  (components path).foldl (fun here c =>
    if c = "" ∨ c = "." then here else if c = ".." then here.dropLast else here ++ [c])
    (if isAbsolute path then [] else start)

/-- The absolute path with the given components. -/
def ofComponents (cs : List String) : String := "/" ++ "/".intercalate cs

end SceneScript.Path
