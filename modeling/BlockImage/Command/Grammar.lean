import BlockImage.Config
import BlockImage.Decimal
import BlockImage.Session.Probe

/-!
# The grammar of arguments

A grammar lists the switches, the settings with a value, and the number of paths that may be given. Arguments are
taken from left to right, so the first one that is refused, or that asks for a text, decides.
-/
namespace BlockImage.Command

/-- Why there is nothing to run. -/
inductive Stop
  | refused
  | version
  | help
  deriving DecidableEq, Repr

/-- What switches and settings can choose. -/
structure Choices where
  /-- Whether the question before writing counts as answered. -/
  confirmed : Bool := false
  overwrite : Bool := false
  /-- Whether a corrupt bitmap is shown all the same. -/
  tolerate : Bool := false
  /-- The block size of sources that are not images. -/
  raw : UInt32 := ({} : RawBlocks).blockSize
  config : Config := {}
  deriving DecidableEq, Repr

structure Switch where
  name : String
  letter : Option Char := none
  /-- Whether it may be given more than once. -/
  repeatable : Bool := false
  choose : Choices → Except Stop Choices

structure Setting where
  name : String
  choose? : String → Choices → Option Choices

structure Grammar where
  switches : List Switch
  settings : List Setting := []
  /-- Paths at most. -/
  paths : Nat := 0

inductive Argument
  /-- Two hyphens alone: all that follows is paths. -/
  | onlyPaths
  | name (name : String)
  | assignment (name value : String)
  | cluster (letters : List Char)
  | plain (text : String)
  deriving DecidableEq, Repr

namespace Argument

/-- The form of an argument. A single hyphen is an ordinary word. -/
def ofChars : List Char → Argument
  | ['-', '-'] => onlyPaths
  | '-' :: '-' :: text =>
    match text.dropWhile (· ≠ '=') with
    | _ :: value => assignment (String.ofList (text.takeWhile (· ≠ '='))) (String.ofList value)
    | [] => name (String.ofList text)
  | '-' :: first :: letters => cluster (first :: letters)
  | text => plain (String.ofList text)

def ofText (text : String) : Argument := ofChars text.toList

def isPlain : Argument → Bool
  | plain _ => true
  | _ => false

def isOption : Argument → Bool
  | name _ | assignment .. | cluster _ => true
  | plain _ | onlyPaths => false

end Argument

/-- What the arguments so far have said. -/
structure Said where
  given : List String := []
  paths : List String := []
  choices : Choices := {}

namespace Said

def switch (said : Said) (switch : Switch) : Except Stop Said := do
  let choices ← switch.choose said.choices
  if switch.name ∈ said.given ∧ ¬ switch.repeatable then throw .refused
  return { said with given := switch.name :: said.given, choices }

def setting (said : Said) (setting : Setting) (value : String) : Except Stop Said :=
  match setting.choose? value said.choices with
  | some choices =>
    if setting.name ∈ said.given then throw .refused
    else return { said with given := setting.name :: said.given, choices }
  | none => throw .refused

/-- Takes a path into account; an empty one is none. -/
def path (said : Said) (limit : Nat) (text : String) : Except Stop Said :=
  if text = "" ∨ limit ≤ said.paths.length then throw .refused
  else return { said with paths := said.paths ++ [text] }

end Said

namespace Grammar

def letter (grammar : Grammar) (said : Said) (letter : Char) : Except Stop Said :=
  match grammar.switches.find? (·.letter = some letter) with
  | some switch => said.switch switch
  | none => throw .refused

def assign (grammar : Grammar) (said : Said) (name value : String) : Except Stop Said :=
  match grammar.settings.find? (·.name = name) with
  | some setting => said.setting setting value
  | none => throw .refused

/-- Takes arguments into account. The value of a setting is a part of its argument or the argument behind it. -/
def read (grammar : Grammar) (said : Said) : List String → Except Stop Said
  | [] => return said
  | text :: rest =>
    match Argument.ofText text with
    | .onlyPaths => rest.foldlM (fun said path => said.path grammar.paths path) said
    | .plain path => do grammar.read (← said.path grammar.paths path) rest
    | .cluster letters => do grammar.read (← letters.foldlM grammar.letter said) rest
    | .assignment name value => do grammar.read (← grammar.assign said name value) rest
    | .name name =>
      match grammar.switches.find? (·.name = name) with
      | some switch => do grammar.read (← said.switch switch) rest
      | none =>
        match rest with
        | value :: rest =>
          if (Argument.ofText value).isPlain then do grammar.read (← grammar.assign said name value) rest
          else throw .refused
        | [] => throw .refused

end Grammar

end BlockImage.Command
