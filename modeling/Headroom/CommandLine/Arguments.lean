import Headroom.CommandLine.Usage
import Headroom.CommandLine.Values
import Headroom.Config
import Headroom.Quantity.Basic
/-!
# Reading the command line

A value stands behind an equals sign, directly behind a letter, or in the next word. A value in the
next word is kept until the setting after it has been recognised, and only then read, so a word that
means nothing is reported before an unreadable value in front of it.
-/

namespace Headroom.CommandLine

/-- How a report is written. -/
inductive OutputFormat where
  | text
  | json
deriving DecidableEq

/-- The arguments of an estimate. -/
structure Arguments where
  debug : Bool
  count : Nat
  cpu : Quantity
  memory : Quantity
  tolerations : List Toleration
  nodeSelector : List (String × String)
  spreadBy : Option String
  liveTopology : Bool
  syncLimit : Option UInt64
  listLimit : Option UInt64
  output : OutputFormat
deriving DecidableEq

/-- The settings given so far. -/
structure Draft where
  debug : Bool := false
  count : Option Nat := none
  cpu : Option Quantity := none
  memory : Option Quantity := none
  tolerations : List Toleration := []
  nodeSelector : List (String × String) := []
  spreadBy : Option String := none
  liveTopology : Bool := false
  syncLimit : Option UInt64 := none
  listLimit : Option UInt64 := none
  output : Option OutputFormat := none

namespace Draft

/-- The value of a setting that counts once. That it was given before is found before the value is
looked at. -/
def once {α : Type} (setting : Setting) (old : Option α) (value : Except UsageError α) :
    Except UsageError (Option α) :=
  if old.isSome then .error (.repeated setting) else value.map some

/-- A value that was read, or the refusal of its text. -/
def readable {α : Type} (setting : Setting) (text : String) (value : Option α) :
    Except UsageError α :=
  match value with
  | some value => .ok value
  | none => .error (.unreadable setting text)

/-- Turns on a setting without a value. -/
def turnOn (draft : Draft) (setting : Setting) : Except UsageError Draft :=
  match setting with
  | .help => .error .helpWanted
  | .version => .error .versionWanted
  | .debug => if draft.debug then .error (.repeated .debug) else .ok { draft with debug := true }
  | .liveTopology =>
      if draft.liveTopology then .error (.repeated .liveTopology)
      else .ok { draft with liveTopology := true }
  | other => .error (.valueMissing other)

/-- Gives a setting a value. -/
def set (draft : Draft) (setting : Setting) (text : String) : Except UsageError Draft :=
  let quantity := readable setting text (Quantity.parse text).toOption
  let seconds := readable setting text (Config.readSeconds? text)
  match setting with
  | .count => do
      let count := Text.readUnsigned? 18446744073709551615 text.toList
      return { draft with count := ← once setting draft.count (readable setting text count) }
  | .cpu => do return { draft with cpu := ← once setting draft.cpu quantity }
  | .memory => do return { draft with memory := ← once setting draft.memory quantity }
  | .toleration => do
      let toleration ← readable setting text (Toleration.read text).toOption
      return { draft with tolerations := draft.tolerations ++ [toleration] }
  | .nodeSelector => do
      let label ← readable setting text (readLabel text).toOption
      return { draft with nodeSelector := draft.nodeSelector ++ [label] }
  | .spreadBy => do return { draft with spreadBy := ← once setting draft.spreadBy (.ok text) }
  | .syncLimit => do return { draft with syncLimit := ← once setting draft.syncLimit seconds }
  | .listLimit => do return { draft with listLimit := ← once setting draft.listLimit seconds }
  | .output => do
      let format : Except UsageError OutputFormat :=
        if text = "text" then .ok .text
        else if text = "json" then .ok .json
        else .error (.notAmongChoices setting text)
      return { draft with output := ← once setting draft.output format }
  | other => .error (.valueUnwanted other text)

/-- The arguments, if nothing that is required is missing. -/
def arguments (draft : Draft) : Except UsageError Arguments :=
  match draft.count, draft.cpu, draft.memory with
  | none, _, _ => .error (.settingMissing .count)
  | _, none, _ => .error (.settingMissing .cpu)
  | _, _, none => .error (.settingMissing .memory)
  | some count, some cpu, some memory => .ok
      { debug := draft.debug
        count, cpu, memory
        tolerations := draft.tolerations
        nodeSelector := draft.nodeSelector
        spreadBy := draft.spreadBy
        liveTopology := draft.liveTopology
        syncLimit := draft.syncLimit
        listLimit := draft.listLimit
        output := draft.output.getD .text }

end Draft

/-- A setting that waits to be settled, with its value if the word for it has come. -/
structure Pending where
  setting : Setting
  value : Option String := none

/-- How far the reading has come. -/
structure Reader where
  draft : Draft := {}
  pending : Option Pending := none

namespace Reader

/-- Gives the waiting setting its value. -/
def settle (reader : Reader) : Except UsageError Reader :=
  match reader.pending with
  | none => .ok reader
  | some { setting, value := none } => .error (.valueMissing setting)
  | some { setting, value := some text } => do return { draft := ← reader.draft.set setting text }

/-- Takes a setting without a value. -/
def takeFlag (reader : Reader) (setting : Setting) : Except UsageError Reader := do
  let reader ← reader.settle
  return { reader with draft := ← reader.draft.turnOn setting }

/-- Takes a setting with a value, which may be in the next word. -/
def takeValued (reader : Reader) (setting : Setting) (attached : Option String) :
    Except UsageError Reader := do
  let reader ← reader.settle
  match attached with
  | none => return { reader with pending := some { setting } }
  | some text => return { reader with draft := ← reader.draft.set setting text }

/-- Takes a word that begins with two hyphens, without these. -/
def takeLong (known : List Setting) (reader : Reader) (word : List Char) :
    Except UsageError Reader :=
  let (name, attached) := match Text.splitFirst? '=' word with
    | some (name, value) => (String.ofList name, some (String.ofList value))
    | none => (String.ofList word, none)
  match known.find? (·.long = name) with
  | none => .error (.unknownArgument ("--" ++ name))
  | some setting =>
      if setting.takesValue then reader.takeValued setting attached
      else match attached with
        | none => reader.takeFlag setting
        | some value => .error (.valueUnwanted setting value)

/-- The value that stands behind the letter of a setting, if there is one. -/
def attachedValue : List Char → Option String
  | [] => none
  | '=' :: value => some (String.ofList value)
  | value => some (String.ofList value)

/-- Takes the letters of a word that begins with one hyphen. -/
def takeShort (known : List Setting) (reader : Reader) : List Char → Except UsageError Reader
  | [] => .ok reader
  | letter :: rest =>
      match known.find? (·.short? = some letter) with
      | none => .error (.unknownArgument (String.ofList ['-', letter]))
      | some setting =>
          if setting.takesValue then reader.takeValued setting (attachedValue rest)
          else do takeShort known (← reader.takeFlag setting) rest

/-- Takes a word that is no setting: the value that is waited for, or nothing known. -/
def takeWord (reader : Reader) (word : String) : Except UsageError Reader :=
  match reader.pending with
  | some { setting, value := none } =>
      .ok { reader with pending := some { setting, value := some word } }
  | _ => .error (.unknownArgument word)

/-- Takes one word. -/
def take (known : List Setting) (reader : Reader) (word : String) : Except UsageError Reader :=
  match word.toList with
  | '-' :: '-' :: name => takeLong known reader name
  | ['-'] => reader.takeWord word
  | '-' :: letters => takeShort known reader letters
  | _ => reader.takeWord word

/-- Takes all words of an estimate. Behind two hyphens alone no setting may follow, nor anything
else. -/
def takeAll : List String → Reader → Except UsageError Reader
  | [], reader => reader.settle
  | word :: rest, reader =>
      if word = "--" then
        match rest with
        | [] => reader.settle
        | next :: _ => .error (.unknownArgument next)
      else do takeAll rest (← reader.take Setting.ofEstimate word)

end Reader

/-- The word of the one command. -/
def estimateWord : String := "estimate"

/-- The word that asks for help. -/
def helpWord : String := "help"

/-- Reads what follows the word `help`: the commands that help is wanted about. -/
def readHelp : List String → UsageError
  | [] => .helpWanted
  | word :: rest =>
      if word = estimateWord || word = helpWord then
        match rest with
        | [] => .helpWanted
        | next :: _ => .unknownCommand next
      else .unknownCommand word

/-- Whether a word is meant as a setting. -/
def isSetting (word : String) : Bool := word.startsWith "-" && word ≠ "-"

/-- What is missing when the words end before a command. -/
def withoutCommand (reader : Reader) : UsageError :=
  if reader.draft.debug then .commandMissing else .nothingAsked

/-- Reads the words behind the name of the program. Settings of the program may stand before the
command and, all but those that end the reading, behind it. -/
def readWords : List String → Reader → Except UsageError Arguments
  | [], reader => .error (withoutCommand reader)
  | word :: rest, reader =>
      if word = estimateWord then do
        let inner ← Reader.takeAll rest {}
        let arguments ← inner.draft.arguments
        return { arguments with debug := reader.draft.debug || arguments.debug }
      else if word = helpWord then .error (readHelp rest)
      else if word = "--" then
        match rest with
        | [] => .error (withoutCommand reader)
        | next :: _ =>
            if next = estimateWord || next = helpWord then .error (.unknownArgument next)
            else .error (.unknownCommand next)
      else if isSetting word then do readWords rest (← reader.take Setting.ofProgram word)
      else .error (.unknownCommand word)

/-- Reads a command line, whose first word names the program. -/
def read (words : List String) : Except UsageError Arguments := readWords words.tail {}

end Headroom.CommandLine
