import SceneScript.Storage.Decode
import SceneScript.Storage.Encode

/-!
# File systems

Directories and files in a tree, and a working directory that relative paths start from. A place in
the tree is its components from the top; the top directory is always there. `locate` follows a path:
every component but the last must lead to a directory, and two dots lead to the directory above.

A request that fails may have changed the tree before (`makeDirectories` creates the directories
above the one that it cannot create), so each answers with a tree in either case.

The tree does not say who may read or write at a place, nor how much the disk holds. What is refused
for such a reason is up to the guard (`Guard`). Unless one is named, nothing is.
-/

namespace SceneScript

/-- What is in a file: bytes, a picture in the format of the given path, or the shots of an
animation. -/
inductive Content
  | bytes (data : ByteArray)
  | picture (path : String) (coder : Coder) (p : Picture)
  | animation (shots : List Shot)
  deriving Inhabited

namespace Content

/-- The bytes of a file. -/
def toBytes : Content → ByteArray
  | bytes data => data
  | picture path coder p => coder.encode path p
  | animation shots => Gif.encode shots

/-- The picture in a file, the first one of an animation. -/
def picture? : Content → Reading
  | bytes data => readPicture data
  | picture _ coder p => coder.readBack p
  | animation shots =>
    match shots with
    | [] => .ok none
    | first :: _ => first.picture.checked

end Content

/-- What stands at a place. -/
inductive Entry
  | directory
  | file (content : Content)
  deriving Inhabited

/-- A tree of directories and files. -/
structure FileSystem where
  here : List String
  entries : List (List String × Entry)
  deriving Inhabited

/-- Where a path leads. -/
inductive Location
  /-- To a directory. -/
  | directory (place : List String)
  /-- To a file. The path may end with a slash, as if it were a directory. -/
  | file (place : List String) (content : Content) (slash : Bool)
  /-- To nothing, in a directory. The path may end with a slash. -/
  | absent (place : List String) (slash : Bool)
  /-- Nowhere. -/
  | broken (why : FileFault)

/-- What a request does at a place. -/
inductive Access
  | read
  | write (content : Content)
  | makeDirectory

/-- What is refused though the tree allows it. -/
class Guard where
  refusal? : FileSystem → Access → List String → Option FileFault

/-- Nothing is refused. -/
instance : Guard where
  refusal? _ _ _ := none

namespace FileSystem

/-- What stands at a place. -/
def entry? (fs : FileSystem) (place : List String) : Option Entry :=
  if place.isEmpty then some .directory
  else (fs.entries.find? (·.1 == place)).map (·.2)

/-- The tree with something at a place, instead of what stood there. -/
def put (fs : FileSystem) (place : List String) (e : Entry) : FileSystem :=
  { fs with entries := fs.entries.filter (·.1 != place) ++ [(place, e)] }

/-- Follows components from a directory. -/
def walk (fs : FileSystem) (here : List String) : List String → Location
  | [] => .directory here
  | c :: rest =>
    if c = "" ∨ c = "." then walk fs here rest
    else if c = ".." then walk fs here.dropLast rest
    else if 255 < c.utf8ByteSize then .broken .nameTooLong
    else
      match fs.entry? (here ++ [c]) with
      | some .directory => walk fs (here ++ [c]) rest
      | some (.file content) =>
        if rest.all (· == "") then .file (here ++ [c]) content (!rest.isEmpty)
        else .broken .notDirectory
      | none =>
        if rest.all (· == "") then .absent (here ++ [c]) (!rest.isEmpty) else .broken .missing

/-- Follows a path. -/
def locate (fs : FileSystem) (path : String) : Location :=
  if path.isEmpty then .broken .missing
  else if 4096 ≤ path.utf8ByteSize then .broken .nameTooLong
  else fs.walk (if Path.isAbsolute path then [] else fs.here) (Path.components path)

/-- Whether a text holds the character that no path may hold. -/
def hasNul (path : String) : Bool := path.toList.contains '\x00'

/-- Whether a path leads to something. -/
def exists? (fs : FileSystem) (path : String) : Bool :=
  !hasNul path &&
  match fs.locate path with
  | .directory _ | .file _ _ false => true
  | .file _ _ true | .absent .. | .broken _ => false

/-- Whether a path leads to a directory. -/
def isDirectory (fs : FileSystem) (path : String) : Bool :=
  !hasNul path &&
  match fs.locate path with
  | .directory _ => true
  | _ => false

/-- The answer to a request at the place that a path leads to, unless the guard refuses it. -/
def grant {β : Type} [Guard] (fs : FileSystem) (access : Access) (place : List String)
    (path : String) (answer : β) : Except Fault β :=
  match Guard.refusal? fs access place with
  | some why => .error (.file why path)
  | none => .ok answer

/-- The content of a file. -/
def read [Guard] (fs : FileSystem) (path : String) : Except Fault Content :=
  if hasNul path then .error .nulInPath
  else
    match fs.locate path with
    | .file place content false => fs.grant .read place path content
    | .file _ _ true => .error (.file .notDirectory path)
    | .directory _ => .error (.file .isDirectory path)
    | .absent .. => .error (.file .missing path)
    | .broken why => .error (.file why path)

/-- Writes a file, which may be new. -/
def write [Guard] (fs : FileSystem) (path : String) (content : Content) : Except Fault FileSystem :=
  if hasNul path then .error .nulInPath
  else
    match fs.locate path with
    | .file place _ false | .absent place false =>
      fs.grant (.write content) place path (fs.put place (.file content))
    | .file _ _ true | .absent _ true | .directory _ => .error (.file .isDirectory path)
    | .broken why => .error (.file why path)

/-- What is wrong with a file that is open is told without its path. -/
def faultOfOpen : Fault → Fault
  | .file why _ => .openFile why
  | fault => fault

/-- Opens a file and puts what is asked for into it. If that is refused, a file that is new goes
away, and another one keeps what is left. -/
def fill [Guard] (fs : FileSystem) (path : String) (content : Except (Fault × ByteArray) Content) :
    Except Fault Unit × FileSystem :=
  match fs.write path (.bytes .empty) with
  | .error fault => (.error fault, fs)
  | .ok opened =>
    let kept (left : FileSystem) : FileSystem := if fs.exists? path then left else fs
    match content with
    | .ok content =>
      match fs.write path content with
      | .ok filled => (.ok (), filled)
      | .error fault => (.error (faultOfOpen fault), kept opened)
    | .error (fault, left) =>
      (.error fault, kept ((fs.write path (.bytes left)).toOption.getD opened))

/-- Makes a directory in one that is there. -/
def makeDirectory [Guard] (fs : FileSystem) (path : String) : Except Fault FileSystem :=
  if hasNul path then .error .nulInPath
  else
    match fs.locate path with
    | .absent place _ => fs.grant .makeDirectory place path (fs.put place .directory)
    | .directory _ | .file .. => .error (.file .alreadyThere path)
    | .broken why => .error (.file why path)

/-- The path of the directory that a directory must be made in, and its name. A slash at the end
does not count. -/
def parent (path : String) : String × String :=
  let (front, last) := Path.split path
  if last.isEmpty then Path.split front else (front, last)

/-- Makes a directory whose parent has been seen to. One that is there is as good. -/
def makeLast [Guard] (fs : FileSystem) (path : String) : Except Fault Unit × FileSystem :=
  match fs.makeDirectory path with
  | .ok fs => (.ok (), fs)
  | .error fault => if fs.isDirectory path then (.ok (), fs) else (.error fault, fs)

/-- Makes a directory and those above it, at most so many. That one above is a file is left to the
directory below to find. -/
def makeWithin [Guard] : Nat → FileSystem → String → Except Fault Unit × FileSystem
  | 0, fs, path => fs.makeLast path
  | n + 1, fs, path =>
    let (above, last) := parent path
    if above.isEmpty || last.isEmpty || fs.exists? above then fs.makeLast path
    else
      let (result, fs) := makeWithin n fs above
      match result with
      | .error (.file .alreadyThere _) | .ok () =>
        if last = "." then (.ok (), fs) else fs.makeLast path
      | .error fault => (.error fault, fs)

/-- Makes a directory and those above it that are missing. A path has no more directories than
characters. -/
def makeDirectories [Guard] (fs : FileSystem) (path : String) : Except Fault Unit × FileSystem :=
  makeWithin path.length fs path

end FileSystem

end SceneScript
