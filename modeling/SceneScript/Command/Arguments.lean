import SceneScript.Render.Run
import SceneScript.Text.Digit

/-!
# Arguments

The command line takes one script and a few options. An option may be shortened as long as it
stays unique, and its value may follow it or be joined to it: by an equals sign, or, if the option
is a letter, without anything between. What is joined to a letter without a value is more letters,
in either way. After two dashes all is taken as it stands, and two dashes that are joined to an
option leave it without a value.
-/

namespace SceneScript

/-- What the command line asks for. -/
structure Arguments where
  script : String
  directory : Option String := some defaultDirectory
  verbose : Bool := false
  logFile : Option String := none
  deriving Repr, DecidableEq, Inhabited

namespace Arguments

/-- The options. -/
inductive Flag
  | help | directory | verbose | logFile
  deriving Repr, DecidableEq, Inhabited

/-- The names of the options. -/
def names : List (String × Flag) :=
  [("-h", .help), ("--help", .help), ("-o", .directory), ("--output-dir", .directory),
    ("-v", .verbose), ("--verbose", .verbose), ("--log-file", .logFile)]

/-- Whether an option takes a value. -/
def Flag.takesValue : Flag → Bool
  | .directory | .logFile => true
  | .help | .verbose => false

/-- An argument before its place is looked at. -/
inductive Token
  /-- One that is not an option. -/
  | plain (text : String)
  /-- The two dashes. -/
  | separator
  /-- An option of one letter, with what is joined to it. -/
  | letter (flag : Flag) (joined : Option (List Char))
  /-- An option that is a word, with the value after its equals sign. -/
  | word (flag : Flag) (value : Option String)
  /-- An option that there is not. -/
  | unknown
  /-- The beginning of several options. -/
  | ambiguous
  deriving Repr, DecidableEq, Inhabited

/-- A text up to the first equals sign, and what follows if there is one. -/
def splitAtEquals (text : String) : String × Option String :=
  let cs := text.toList
  let name := cs.takeWhile (· != '=')
  match cs.dropWhile (· != '=') with
  | [] => (text, none)
  | _ :: value => (String.ofList name, some (String.ofList value))

/-- A text without the line break at its end. -/
def dropLineBreak (cs : List Char) : List Char :=
  if cs.getLast? = some '\n' then cs.dropLast else cs

/-- Whether an argument is a negative number, which is no option. -/
def isNegativeNumber (text : String) : Bool :=
  match dropLineBreak text.toList with
  | '-' :: cs =>
    let isDigit (c : Char) : Bool := (Text.digitValue? c).isSome
    let rest := cs.dropWhile isDigit
    match rest with
    | [] => !cs.isEmpty
    | '.' :: fraction => !fraction.isEmpty && fraction.all isDigit
    | _ => false
  | _ => false

/-- The option of one letter, if there is one. -/
def letterFlag? (c : Char) : Option Flag :=
  (names.find? (·.1 == String.ofList ['-', c])).map (·.2)

/-- What is joined to the letter in front of a text, after the equals sign if one comes first. -/
def joinedTo : List Char → Option (List Char)
  | [] => none
  | '=' :: value => some value
  | joined => some joined

/-- The options that an argument with two dashes in front is a short form of, with its value. -/
def words (text : String) : List Token :=
  let (name, value) := splitAtEquals text
  match names.find? (·.1 == name) with
  | some (_, flag) => [.word flag value]
  | none =>
    let longer := names.filter fun (n, _) => name.toList.isPrefixOf n.toList
    longer.map fun (_, flag) => .word flag value

/-- An argument in front of the two dashes. -/
def Token.ofText (text : String) : Token :=
  match text.toList with
  | '-' :: '-' :: _ =>
    match words text with
    | [token] => token
    | _ :: _ :: _ => .ambiguous
    | [] => if text.toList.contains ' ' then .plain text else .unknown
  | '-' :: c :: joined =>
    match letterFlag? c with
    | some flag => .letter flag (joinedTo joined)
    | none => if isNegativeNumber text || text.toList.contains ' ' then .plain text else .unknown
  | _ => .plain text

/-- The arguments before their places are looked at. -/
def tokens : List String → List Token
  | [] => []
  | "--" :: rest => .separator :: rest.map .plain
  | text :: rest => .ofText text :: tokens rest

/-- What the arguments say. -/
inductive Outcome
  | run (a : Arguments)
  | help
  | wrong
  deriving Repr, DecidableEq, Inhabited

/-- What the arguments read so far say. -/
structure Progress where
  script : Option String := none
  directory : Option String := some defaultDirectory
  verbose : Bool := false
  logFile : Option String := none
  /-- An argument that has no place. -/
  surplus : Bool := false
  deriving Repr, Inhabited

/-- The options that an argument means. -/
structure Options where
  flags : List Flag
  /-- The value that the last of them is given in the argument itself. -/
  value : Option String := none

/-- The options that a letter means with what is joined to it: its value, or at least one more
letter. -/
def letters (flag : Flag) (joined : List Char) : Option Options :=
  if flag.takesValue then some ⟨[flag], some (String.ofList joined)⟩
  else
    match joined with
    | [] => none
    | c :: rest =>
      match letterFlag? c with
      | none => none
      | some next =>
        if rest.isEmpty then some ⟨[flag, next], none⟩
        else (letters next rest).map fun o => { o with flags := flag :: o.flags }

/-- The options that a token means. None are meant if an option has a value that it does not take,
or a letter joined to it that is no option. -/
def Token.options : Token → Option Options
  | .letter flag none => some ⟨[flag], none⟩
  | .letter flag (some joined) => letters flag joined
  | .word flag value => if value.isSome && !flag.takesValue then none else some ⟨[flag], value⟩
  | _ => some ⟨[], none⟩

/-- The progress after options of which the last has the given value. There is none after the one
that asks for help. -/
def Progress.take? (p : Progress) (flags : List Flag) (value : Option String) : Option Progress :=
  match flags with
  | [] => some p
  | .directory :: rest => take? { p with directory := value } rest value
  | .logFile :: rest => take? { p with logFile := value } rest value
  | .verbose :: rest => take? { p with verbose := true } rest value
  | .help :: _ => none

/-- What the arguments say in the end: there is a script and nothing left over. -/
def Progress.finish (p : Progress) : Outcome :=
  match p.script, p.surplus with
  | some script, false => .run ⟨script, p.directory, p.verbose, p.logFile⟩
  | _, _ => .wrong

/-- The progress after an argument without a place of its own: the script, if there is none yet. -/
def Progress.place (p : Progress) (text : String) : Progress :=
  if p.script.isNone then { p with script := some text } else { p with surplus := true }

/-- Reads tokens in order. The two dashes belong to a script beside them. -/
def read (p : Progress) : List Token → Outcome
  | [] => p.finish
  | .ambiguous :: _ => .wrong
  | .unknown :: rest => read { p with surplus := true } rest
  | .separator :: .plain text :: rest => read (p.place text) rest
  | .separator :: rest => read { p with surplus := true } rest
  | .plain text :: .separator :: rest => read (p.place text) rest
  | .plain text :: rest => read (p.place text) rest
  | token :: rest =>
    match token.options with
    | none => .wrong
    | some o =>
      if o.value.isNone && o.flags.any Flag.takesValue then
        match rest with
        | .plain value :: rest =>
          match p.take? o.flags (some value) with
          | some p => read p rest
          | none => .help
        | _ => .wrong
      else
        match p.take? o.flags (o.value.filter (· != "--")) with
        | some p => read p rest
        | none => .help

/-- What a list of arguments says. -/
def ofList (args : List String) : Outcome :=
  let ts := tokens args
  if ts.contains .ambiguous then .wrong else read {} ts

end Arguments

end SceneScript
