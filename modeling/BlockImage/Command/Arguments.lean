import BlockImage.Command.Grammar
import BlockImage.Job

/-!
# Commands and their arguments

A command line names a command, the files it works on, and the settings that it allows.
-/
namespace BlockImage

inductive Command
  | clone (paths : Job.Paths) (raw : UInt32) (config : Config)
  | copy (paths : Job.Paths) (raw : UInt32) (config : Config)
  | restore (paths : Job.Paths) (config : Config)
  | check (path : String) (config : Config)
  | info (path : String) (tolerate : Bool)
  deriving DecidableEq, Repr

namespace Command

/-! ### Switches and settings -/

def help : Switch := { name := "help", letter := 'h', choose := fun _ => throw .help }

def version : Switch := { name := "version", letter := 'V', choose := fun _ => throw .version }

/-- Asks for more to be logged, of which there is nothing. -/
def verbose : Switch := { name := "verbose", letter := 'v', repeatable := true, choose := pure }

def yes : Switch :=
  { name := "yes", letter := 'y', choose := fun choices => return { choices with confirmed := true } }

def overwrite : Switch :=
  { name := "overwrite", choose := fun choices => return { choices with overwrite := true } }

def force : Switch :=
  { name := "force", letter := 'f', choose := fun choices => return { choices with tolerate := true } }

/-- A switch that changes the settings of the session. -/
def sessionSwitch (name : String) (change : Config → Config) : Switch :=
  { name, choose := fun choices => return { choices with config := change choices.config } }

def rescue : Switch := sessionSwitch "rescue" fun config => { config with rescue := true }

def noReseed : Switch := sessionSwitch "no-reseed" fun config => { config with reseed := false }

def skipWriteErrors : Switch := sessionSwitch "skip-write-errors" fun config =>
  { config with skipWriteErrors := true }

def verify : Switch := sessionSwitch "verify" fun config => { config with verify := true }

def ignoreChecksum : Switch := sessionSwitch "ignore-checksum" fun config =>
  { config with ignoreChecksum := true }

/-- A number of 32 bits; signs are allowed. -/
def wordOf? (text : String) : Option UInt32 := do
  let value ← Decimal.ofSigned? text.toList
  if 0 ≤ value ∧ value < UInt32.size then some (UInt32.ofNat value.toNat) else none

/-- A number of 64 bits; a plus sign is allowed. -/
def sizeOf? (text : String) : Option Nat := do
  let value ← Decimal.ofUnsigned? text.toList
  if value < UInt64.size then some value else none

/-- The checksums that an image can be written with. -/
def checksumOf? (text : String) : Option Checksum.Algorithm :=
  [.none, .crc32].find? (·.name = text)

def blockSize : Setting where
  name := "block-size"
  choose? text choices := (wordOf? text).map fun raw => { choices with raw }

def sessionSetting {α : Type} (name : String) (read? : String → Option α) (change : Config → α → Config) :
    Setting where
  name
  choose? text choices := (read? text).map fun value => { choices with config := change choices.config value }

def bufferSize : Setting := sessionSetting "buffer-size" sizeOf? fun config bufferSize =>
  { config with bufferSize }

def checksum : Setting := sessionSetting "checksum" checksumOf? fun config checksum => { config with checksum }

def blocksPerChecksum : Setting := sessionSetting "blocks-per-checksum" wordOf? fun config blocksPerChecksum =>
  { config with blocksPerChecksum }

/-! ### Commands -/

inductive Verb
  | clone
  | copy
  | restore
  | check
  | info
  deriving DecidableEq, Repr

namespace Verb

def name : Verb → String
  | clone => "clone"
  | copy => "copy"
  | restore => "restore"
  | check => "check"
  | info => "info"

def ofName? (name : String) : Option Verb :=
  [clone, copy, restore, check, info].find? (·.name = name)

def grammar : Verb → Grammar
  | clone => {
      switches := [help, verbose, yes, rescue, noReseed, overwrite]
      settings := [blockSize, bufferSize, checksum, blocksPerChecksum]
      paths := 2 }
  | copy => {
      switches := [help, verbose, yes, rescue, skipWriteErrors, verify, overwrite]
      settings := [blockSize, bufferSize]
      paths := 2 }
  | restore => {
      switches := [help, verbose, yes, ignoreChecksum, overwrite]
      settings := [bufferSize]
      paths := 2 }
  | check => { switches := [help, verbose, yes], settings := [bufferSize], paths := 1 }
  | info => { switches := [help, verbose, yes, force], paths := 1 }

/-- The command that a name, its paths and its choices make, if no path is missing. -/
def command? (verb : Verb) (choices : Choices) (paths : List String) : Option Command :=
  match verb, paths with
  | clone, [source, target] =>
    some (.clone { source, target, overwrite := choices.overwrite } choices.raw choices.config)
  | copy, [source, target] =>
    some (.copy { source, target, overwrite := choices.overwrite } choices.raw choices.config)
  | restore, [source, target] =>
    some (.restore { source, target, overwrite := choices.overwrite } choices.config)
  | check, [path] => some (.check path choices.config)
  | info, [path] => some (.info path choices.tolerate)
  | _, _ => none

end Verb

/-- What may stand in front of the name of a command. -/
def general : Grammar := { switches := [help, version, verbose, yes] }

/-- A command, and whether it may write without asking. -/
structure Order where
  command : Command
  confirmed : Bool
  deriving DecidableEq, Repr

/-- The word that asks for help, and the names behind it: at most one, of something that there is help on. -/
def helpOn : List String → Except Stop Order
  | [] => throw .help
  | [name] => if name = help.name ∨ (Verb.ofName? name).isSome then throw .help else throw .refused
  | _ => throw .refused

def ofArguments (arguments : List String) : Except Stop Order := do
  let front := arguments.takeWhile fun text => (Argument.ofText text).isOption
  let before ← general.read {} front
  match arguments.drop front.length with
  | [] => throw .refused
  | name :: rest =>
    if name = help.name then helpOn rest
    else
      match Verb.ofName? name with
      | none => throw .refused
      | some verb =>
        let said ← verb.grammar.read {} rest
        match verb.command? said.choices said.paths with
        | some command => return { command, confirmed := before.choices.confirmed || said.choices.confirmed }
        | none => throw .refused

end Command

end BlockImage
