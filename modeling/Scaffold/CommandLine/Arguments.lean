namespace Scaffold
namespace CommandLine

/-!
# Arguments

A command line is read level by level: the options of the program, then the name of a command with
the options of that command, and so on.  An option may stand anywhere on its level and is given at
most once there.  Its value is the next argument, or what follows `=`; behind `--` nothing is an
option any more.
-/

/-- What an option takes. -/
inductive Taking where
  | nothing
  | text
  /-- A text that is not empty. -/
  | path
  deriving DecidableEq, Repr, Inhabited

/-- What may be given on one level. -/
structure Level where
  /-- The long names of the options. -/
  options : List (String × Taking)
  /-- The letters that stand for options without a value. -/
  letters : List (Char × String) := []
  /-- The commands that lead to a further level. -/
  commands : List String := []
  /-- How many words may be given besides. -/
  capacity : Nat := 0
  /-- Whether the version of the program can be asked for. -/
  versioned : Bool := false
  deriving Repr, Inhabited

/-- What was given on one level. -/
structure Given where
  /-- The options; those without a value have an empty one. -/
  options : List (String × String) := []
  words : List String := []
  deriving DecidableEq, Repr, Inhabited

namespace Given

/-- The value of an option. -/
def value? (given : Given) (name : String) : Option String :=
  given.options.lookup name

/-- Whether an option was given. -/
def has (given : Given) (name : String) : Bool :=
  (given.value? name).isSome

end Given

/-- Why a command line does not lead to a command. -/
inductive Stop where
  | help
  | version
  | misuse
  deriving DecidableEq, Repr, Inhabited

/-- A command with the arguments behind it. -/
abbrev Onward := Option (String × List String)

namespace Level

/-- Adds an option that was not given yet. -/
def addOption (given : Given) (name value : String) : Except Stop Given :=
  if given.has name then .error .misuse
  else .ok { given with options := given.options ++ [(name, value)] }

/-- Adds a word, if there is room for it. -/
def addWord (level : Level) (given : Given) (word : String) : Except Stop Given :=
  if given.words.length < level.capacity then .ok { given with words := given.words ++ [word] }
  else .error .misuse

/-- Adds a value, unless it is empty where a path is wanted. -/
def addValue (given : Given) (name : String) (taking : Taking) (value : String) : Except Stop Given :=
  if taking == .path && value.isEmpty then .error .misuse else addOption given name value

/-- Whether an argument cannot be the value of an option: it begins with a hyphen and does not end
there. -/
def looksLikeOption (word : String) : Bool :=
  word.toList.head? == some '-' && word != "-"

/-- Adds the options that a cluster of letters stands for. -/
def addLetters (level : Level) (given : Given) : List Char → Except Stop Given
  | [] => .ok given
  | 'h' :: _ => .error .help
  | c :: rest =>
    if c == 'V' && level.versioned then .error .version
    else
      match level.letters.lookup c with
      | none => .error .misuse
      | some name => do
        let given ← addOption given name ""
        addLetters level given rest

/-- What an argument of the form `--name` or `--name=value` says. -/
structure Long where
  name : String
  attached : Option String
  deriving DecidableEq, Repr, Inhabited

/-- Reads a long option. -/
def Long.ofText? (word : String) : Option Long :=
  match word.toList with
  | '-' :: '-' :: rest =>
    let name := rest.takeWhile (· != '=')
    let attached := if rest.contains '=' then some (String.ofList (rest.drop (name.length + 1))) else none
    some { name := String.ofList name, attached }
  | _ => none

/-- What a long option takes; help and version are not options but ends. -/
def taking? (level : Level) (long : Long) : Except Stop Taking :=
  if long.name == "help" || (long.name == "version" && level.versioned) then
    .error (if long.attached.isSome then .misuse else if long.name == "help" then .help else .version)
  else
    match level.options.lookup long.name with
    | some taking => .ok taking
    | none => .error .misuse

/-- Reads the arguments of a level up to the command that leads further; `escaped` says that `--`
was met. -/
def readFrom (level : Level) (escaped : Bool) (given : Given) : List String → Except Stop (Given × Onward)
  | [] => .ok (given, none)
  | word :: rest =>
    if escaped then do
      let given ← level.addWord given word
      readFrom level true given rest
    else if word == "--" then readFrom level true given rest
    else
      match Long.ofText? word with
      | some long =>
        match level.taking? long with
        | .error stop => .error stop
        | .ok .nothing =>
          if long.attached.isSome then .error .misuse
          else do
            let given ← addOption given long.name ""
            readFrom level false given rest
        | .ok taking =>
          match long.attached, rest with
          | some value, rest => do
            let given ← addValue given long.name taking value
            readFrom level false given rest
          | none, value :: further =>
            if looksLikeOption value then .error .misuse
            else do
              let given ← addValue given long.name taking value
              readFrom level false given further
          | none, [] => .error .misuse
      | none =>
        if looksLikeOption word then do
          let given ← level.addLetters given (word.toList.drop 1)
          readFrom level false given rest
        else if level.commands.contains word then .ok (given, some (word, rest))
        else do
          let given ← level.addWord given word
          readFrom level false given rest

/-- Reads the arguments of a level. -/
def read (level : Level) (arguments : List String) : Except Stop (Given × Onward) :=
  level.readFrom false {} arguments

end Level
end CommandLine
end Scaffold
