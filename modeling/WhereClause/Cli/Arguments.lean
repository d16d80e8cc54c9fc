import WhereClause.Dialect

/-! Arguments of the command line.

Options may stand before or behind the command and between its operands; those that only
one command has stand behind it. An option may be given once before the command and once
behind it, and the latter counts. After `--` everything is an operand.
-/

set_option autoImplicit false

namespace WhereClause.Cli

inductive OutputFormat where
  | table
  | json
  deriving DecidableEq, Repr

structure Options where
  config : Option String := none
  dialect : Option Dialect := none
  membership : Option Strategy := none
  databaseUrl : Option String := none
  format : OutputFormat := .table
  verbose : Bool := false
  deriving DecidableEq, Repr

structure Query where
  entity : String
  predicates : List String
  word : Word := .and
  bindings : List String := []
  deriving DecidableEq, Repr

inductive Verb where
  | translate
  | explain
  | dialects
  | fetch
  | count
  | existence
  | delete
  deriving DecidableEq, Repr

inductive Command where
  | translate (query : Query) (native : Bool)
  | explain (query : Query)
  | dialects
  | fetch (query : Query)
  | count (query : Query)
  | existence (query : Query)
  | delete (query : Query)
  deriving DecidableEq, Repr

inductive Request where
  | run (options : Options) (command : Command)
  | version
  | help
  | rejected
  deriving DecidableEq, Repr

inductive Switch where
  | config
  | dialect
  | membership
  | databaseUrl
  | format
  | verbose
  | word
  | binding
  | native
  | help
  | version
  deriving DecidableEq, Repr

namespace Switch

def shared : List Switch := [.config, .dialect, .membership, .databaseUrl, .format, .verbose, .help]

def long : Switch → String
  | .config => "config"
  | .dialect => "dialect"
  | .membership => "membership"
  | .databaseUrl => "database-url"
  | .format => "format"
  | .verbose => "verbose"
  | .word => "word"
  | .binding => "var"
  | .native => "native"
  | .help => "help"
  | .version => "version"

def short? : Switch → Option Char
  | .config => some 'c'
  | .dialect => some 'd'
  | .membership => some 'm'
  | .databaseUrl => none
  | .format => some 'f'
  | .verbose => some 'v'
  | .word => some 'w'
  | .binding => none
  | .native => some 'n'
  | .help => some 'h'
  | .version => some 'V'

def takesValue : Switch → Bool
  | .verbose => false
  | .native => false
  | .help => false
  | .version => false
  | _ => true

def known : Option Verb → List Switch
  | none => .version :: shared
  | some .dialects => shared
  | some .translate => .native :: .word :: .binding :: shared
  | some _ => .word :: .binding :: shared

/-- Only variables may be given more than once. -/
def repeats : Switch → Bool
  | .binding => true
  | _ => false

def format? : String → Option OutputFormat
  | "table" => some .table
  | "json" => some .json
  | _ => none

def accepts : Switch → String → Bool
  | .config, value => !value.isEmpty
  | .dialect, value => (Dialect.ofName value).isOk
  | .membership, value => (Strategy.ofName value).isOk
  | .format, value => (format? value).isSome
  | .word, value => (Word.ofName value).isOk
  | _, _ => true

end Switch

def Verb.ofName? : String → Option Verb
  | "translate" => some .translate
  | "explain" => some .explain
  | "dialects" => some .dialects
  | "fetch" => some .fetch
  | "count" => some .count
  | "exists" => some .existence
  | "delete" => some .delete
  | _ => none

structure Reading where
  verb : Option Verb := none
  /-- A switch that still waits for its value. -/
  pending : Option Switch := none
  operandsOnly : Bool := false
  /-- Switches given since the command, or since the start. -/
  seen : List Switch := []
  /-- Switches and their values, the latest first. -/
  settings : List (Switch × String) := []
  operands : List String := []
  /-- The commands that help is asked on. -/
  topics : Option (List String) := none

inductive Stop where
  | version
  | help
  | rejected
  deriving DecidableEq, Repr

namespace Reading

def note (reading : Reading) (switch : Switch) (value : String) : Except Stop Reading :=
  if reading.seen.contains switch && !switch.repeats then .error .rejected
  else if switch.accepts value then
    .ok { reading with
      pending := none
      seen := switch :: reading.seen
      settings := (switch, value) :: reading.settings }
  else .error .rejected

def noteFlag (reading : Reading) (switch : Switch) : Except Stop Reading :=
  match switch with
  | .help => .error .help
  | .version => .error .version
  | other => reading.note other ""

def readLong (reading : Reading) (text : List Char) : Except Stop Reading :=
  let name := String.ofList (text.takeWhile (· != '='))
  let attached := text.dropWhile (· != '=')
  match (Switch.known reading.verb).find? (·.long == name), attached with
  | none, _ => .error .rejected
  | some switch, [] =>
    if switch.takesValue then .ok { reading with pending := some switch } else reading.noteFlag switch
  | some switch, _ :: value =>
    if switch.takesValue then reading.note switch (String.ofList value) else .error .rejected

/-- Single letters behind one dash. A value may follow its letter at once, or behind an
equals sign. -/
def readShort (reading : Reading) : List Char → Except Stop Reading
  | [] => .ok reading
  | letter :: rest =>
    match (Switch.known reading.verb).find? (·.short? == some letter) with
    | none => .error .rejected
    | some switch =>
      if switch.takesValue then
        match rest with
        | [] => .ok { reading with pending := some switch }
        | '=' :: value => reading.note switch (String.ofList value)
        | value => reading.note switch (String.ofList value)
      else do
        let next ← reading.noteFlag switch
        next.readShort rest

def readPlain (reading : Reading) (text : String) : Except Stop Reading :=
  match reading.pending, reading.verb with
  | some switch, _ => reading.note switch text
  | none, some _ => .ok { reading with operands := reading.operands ++ [text] }
  | none, none =>
    match Verb.ofName? text with
    | some verb => .ok { reading with verb := some verb, seen := [] }
    | none => if text == "help" then .ok { reading with topics := some [] } else .error .rejected

def next (reading : Reading) (argument : String) : Except Stop Reading :=
  if let some topics := reading.topics then
    .ok { reading with topics := some (topics ++ [argument]) }
  else if reading.operandsOnly then
    if reading.verb.isSome then .ok { reading with operands := reading.operands ++ [argument] }
    else .error .rejected
  else
    match argument.toList, reading.pending with
    | ['-'], _ => reading.readPlain argument
    | '-' :: _, some _ => .error .rejected
    | ['-', '-'], none => .ok { reading with operandsOnly := true }
    | '-' :: '-' :: text, none => reading.readLong text
    | '-' :: text, none => reading.readShort text
    | _, _ => reading.readPlain argument

def value? (reading : Reading) (switch : Switch) : Option String :=
  reading.settings.lookup switch

def values (reading : Reading) (switch : Switch) : List String :=
  (reading.settings.filter (·.1 == switch)).reverse.map (·.2)

def options (reading : Reading) : Options where
  config := reading.value? .config
  dialect := (reading.value? .dialect).bind fun name => (Dialect.ofName name).toOption
  membership := (reading.value? .membership).bind fun name => (Strategy.ofName name).toOption
  databaseUrl := reading.value? .databaseUrl
  format := ((reading.value? .format).bind Switch.format?).getD .table
  verbose := (reading.value? .verbose).isSome

def query? (reading : Reading) : Option Query :=
  match reading.operands with
  | entity :: predicate :: rest =>
    some {
      entity
      predicates := predicate :: rest
      word := ((reading.value? .word).bind fun name => (Word.ofName name).toOption).getD .and
      bindings := reading.values .binding }
  | _ => none

def command? (reading : Reading) : Option Command :=
  match reading.verb with
  | none => none
  | some .dialects => if reading.operands.isEmpty then some .dialects else none
  | some .translate =>
    reading.query?.map fun query => .translate query (reading.value? .native).isSome
  | some .explain => reading.query?.map .explain
  | some .fetch => reading.query?.map .fetch
  | some .count => reading.query?.map .count
  | some .existence => reading.query?.map .existence
  | some .delete => reading.query?.map .delete

/-- Help is given on the program and on one command, which may be the one that gives help. -/
def isTopic : List String → Bool
  | [] => true
  | [name] => name == "help" || (Verb.ofName? name).isSome
  | _ => false

end Reading

def Request.read (arguments : List String) : Request :=
  match arguments.foldlM Reading.next {} with
  | .error .version => .version
  | .error .help => .help
  | .error .rejected => .rejected
  | .ok reading =>
    if reading.pending.isSome then .rejected
    else if let some topics := reading.topics then
      if Reading.isTopic topics then .help else .rejected
    else
      match reading.command? with
      | some command => .run reading.options command
      | none => .rejected

end WhereClause.Cli
