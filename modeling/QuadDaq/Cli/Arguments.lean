import QuadDaq.Decimal.Reading
import QuadDaq.Text.Whole

/-!
# Arguments

**From the words of the command line to a request.** The words before the name of a
command are options of the program, those behind it belong to the command.

* An option takes its value from behind an equals sign, or from the next word unless
  that one looks like an option. Every option is given at most once.
* A value is looked at only when something follows it that needs to know: another
  option or the end of the words. So a question for help that comes earlier in the
  words, or as a command, is answered although an earlier value is unusable.
* Behind a word `--` nothing is an option or a command any more.

The two levels of the command line differ only in their options and in what becomes
of a word that is none, so one scanner serves both.
-/

namespace QuadDaq.Cli

/-! ### Requests -/

/-- Options of the program. -/
structure Options where
  config : String := "etc/timeswipe.toml"
  calibration : Option String := none
  input : Option String := none
  json : Bool := false
  logLevel : String := "info"

/-- Memory that a real-time stream keeps from being swapped out. -/
inductive MemoryLock
  | none
  | current
  | all
  deriving Repr, DecidableEq

/-- Options of a stream. -/
structure StreamOptions where
  seconds : Float := 1.0
  bridge : Option Int := none
  stats : Bool := false
  realTime : Bool := false
  priority : Option Int := none
  lock : MemoryLock := .current
  cpu : Option Nat := none

/-- What the program is to do. -/
inductive Command
  | stream (options : StreamOptions)
  | settings (document : String)
  | selfCheck

/-- A command with the options of the program. -/
structure Request where
  options : Options
  command : Command

/-- What help is about. -/
inductive Topic
  | program
  | stream
  | settings
  | selfCheck
  | help
  deriving Repr, DecidableEq

/-- What is wrong with the words. -/
inductive Misuse
  | noWords
  | noCommand
  | noDocument
  | unexpected (word : String)
  | unknownCommand (word : String)
  | missingValue (option : String)
  | unwantedValue (option : String)
  | unusableValue (option value : String)
  | repeated (option : String)
  deriving Repr, DecidableEq

/-- Why the words are not a request. -/
inductive Diversion
  /-- Help is asked for, in a few or in many words. -/
  | help (topic : Topic) (long : Bool)
  | version
  | misuse (topic : Topic) (m : Misuse)
  deriving Repr, DecidableEq

/-! ### Options -/

/-- What an option does to the settings `σ` of its level. -/
inductive Effect (σ : Type)
  | flag (set : σ → σ)
  /-- The value is unusable if there is no result. -/
  | value (set : String → σ → Option σ)

/-- An option, by its name without dashes. -/
structure OptionSpec (σ : Type) where
  name : String
  effect : Effect σ

/-- An option with a file name, which must not be empty. -/
def fileOption {σ : Type} (name : String) (set : String → σ → σ) : OptionSpec σ :=
  ⟨name, .value fun v s => if v.isEmpty then none else some (set v s)⟩

/-- An option with any text. -/
def textOption {σ : Type} (name : String) (set : String → σ → σ) : OptionSpec σ :=
  ⟨name, .value fun v s => some (set v s)⟩

/-- An option whose value is read by a function. -/
def readOption {σ α : Type} (name : String) (read : String → Option α) (set : α → σ → σ) :
    OptionSpec σ :=
  ⟨name, .value fun v s => (read v).map (set · s)⟩

/-- The options of the program. -/
def programOptions : List (OptionSpec Options) := [
  fileOption "config" fun v o => { o with config := v },
  fileOption "calibration" fun v o => { o with calibration := some v },
  textOption "input" fun v o => { o with input := some v },
  ⟨"json", .flag fun o => { o with json := true }⟩,
  textOption "log-level" fun v o => { o with logLevel := v }]

/-- The memory lock with this name. -/
def MemoryLock.ofName? (name : String) : Option MemoryLock :=
  if name = "none" then some .none
  else if name = "current" then some .current
  else if name = "all" then some .all
  else Option.none

/-- The options of a stream. -/
def streamOptions : List (OptionSpec StreamOptions) := [
  readOption "seconds" Decimal.float? fun x o => { o with seconds := x },
  readOption "bridge" (fun v => Text.signed? 64 v.toList) fun n o => { o with bridge := some n },
  ⟨"stats", .flag fun o => { o with stats := true }⟩,
  ⟨"rt", .flag fun o => { o with realTime := true }⟩,
  readOption "rt-prio" (fun v => Text.signed? 32 v.toList) fun n o => { o with priority := some n },
  readOption "rt-lock" MemoryLock.ofName? fun l o => { o with lock := l },
  readOption "rt-cpu" (fun v => Text.unsigned? 64 10 v.toList) fun n o => { o with cpu := some n }]

/-! ### Scanning -/

/-- One level of the command line. -/
structure Level (σ : Type) where
  topic : Topic
  options : List (OptionSpec σ)
  /-- Some option of this level has a long description. -/
  longHelp : Bool := false
  /-- The version can be asked for. -/
  hasVersion : Bool := false

/-- An option that was read with its value, if it has come, but has not taken effect
yet. -/
structure Pending (σ : Type) where
  name : String
  set : String → σ → Option σ
  value : Option String := none

/-- How far a level has been read. -/
structure Scan (σ : Type) where
  settings : σ
  /-- Options that have taken effect. -/
  seen : List String := []
  pending : Option (Pending σ) := none

namespace Scan

variable {σ : Type}

/-- The options so far take effect. -/
def commit (s : Scan σ) : Except Misuse (Scan σ) :=
  match s.pending with
  | none => .ok s
  | some p =>
    match p.value with
    | none => .error (.missingValue p.name)
    | some v =>
      if p.name ∈ s.seen then .error (.repeated p.name)
      else match p.set v s.settings with
        | none => .error (.unusableValue p.name v)
        | some settings => .ok ⟨settings, p.name :: s.seen, none⟩

/-- A flag is set. -/
def flag (s : Scan σ) (name : String) (set : σ → σ) : Except Misuse (Scan σ) := do
  let s ← s.commit
  if name ∈ s.seen then .error (.repeated name)
  else .ok { s with settings := set s.settings, seen := name :: s.seen }

/-- An option is read whose value is to come. -/
def await (s : Scan σ) (name : String) (set : String → σ → Option σ) :
    Except Misuse (Scan σ) := do
  let s ← s.commit
  return { s with pending := some { name := name, set := set } }

/-- An option is read together with its value. -/
def attach (s : Scan σ) (name value : String) (set : String → σ → Option σ) :
    Except Misuse (Scan σ) := do
  let s ← s.commit
  { s with pending := some { name := name, set := set, value := some value } }.commit

/-- The option that waits for its value, if there is one. -/
def awaiting (s : Scan σ) : Option (Pending σ) :=
  s.pending.filter fun p => p.value.isNone

end Scan

/-- How a word looks. -/
inductive Word
  | escape
  | long (name : String) (value : Option String)
  | short (letters : List Char)
  | plain
  deriving Repr, DecidableEq

/-- The look of a word. A single dash is a plain word. -/
def Word.of (word : String) : Word :=
  match word.toList with
  | ['-', '-'] => .escape
  | '-' :: '-' :: body =>
    let name := body.takeWhile (· ≠ '=')
    match body.dropWhile (· ≠ '=') with
    | [] => .long (String.ofList name) none
    | _ :: value => .long (String.ofList name) (some (String.ofList value))
  | ['-'] => .plain
  | '-' :: letters => .short letters
  | _ => .plain

namespace Level

variable {σ : Type}

/-- A misuse at this level. -/
def misuse (l : Level σ) (m : Misuse) : Diversion := .misuse l.topic m

/-- A result of the scan, with the level of a misuse. -/
def lift {α : Type} (l : Level σ) (r : Except Misuse α) : Except Diversion α :=
  r.mapError l.misuse

/-- A question whose answer replaces the request. -/
def ask {α : Type} (l : Level σ) (s : Scan σ) (answer : Diversion) : Except Diversion α := do
  let _ ← l.lift s.commit
  .error answer

/-- A long option. -/
def long (l : Level σ) (s : Scan σ) (word name : String) (value : Option String) :
    Except Diversion (Scan σ) :=
  match l.options.find? fun o => o.name = name with
  | some o =>
    match o.effect, value with
    | .flag set, none => l.lift (s.flag name set)
    | .flag _, some _ => .error (l.misuse (.unwantedValue name))
    | .value set, none => l.lift (s.await name set)
    | .value set, some v => l.lift (s.attach name v set)
  | none =>
    if name = "help" || (name = "version" && l.hasVersion) then
      if value.isSome then .error (l.misuse (.unwantedValue name))
      else l.ask s (if name = "help" then .help l.topic l.longHelp else .version)
    else .error (l.misuse (.unexpected word))

/-- Letters behind a single dash, of which the first decides. -/
def short (l : Level σ) (s : Scan σ) : List Char → Except Diversion (Scan σ)
  | 'h' :: _ => l.ask s (.help l.topic false)
  | 'V' :: _ =>
    if l.hasVersion then l.ask s .version else .error (l.misuse (.unexpected "-V"))
  | letters => .error (l.misuse (.unexpected (String.ofList ('-' :: letters.take 1))))

/-- A word that may be an option. It is handed back if it is a plain word that no
option waits for. -/
def word (l : Level σ) (s : Scan σ) (w : String) : Except Diversion (Option (Scan σ)) :=
  match s.awaiting, Word.of w with
  | some p, .plain => .ok (some { s with pending := some { p with value := some w } })
  | _, .long name value => (l.long s w name value).map some
  | _, .short letters => (l.short s letters).map some
  | _, _ => .ok none

end Level

/-! ### Commands -/

/-- The level of the program. -/
def programLevel : Level Options where
  topic := .program
  options := programOptions
  hasVersion := true

/-- The level of a stream. -/
def streamLevel : Level StreamOptions where
  topic := .stream
  options := streamOptions
  longHelp := true

/-- The level of a command without options. -/
def bareLevel (topic : Topic) : Level Unit where
  topic := topic
  options := []

/-- The words behind the last option: none is allowed. -/
def finish {σ : Type} (l : Level σ) (s : Scan σ) : List String → Except Diversion σ
  | [] => (l.lift s.commit).map Scan.settings
  | w :: _ => .error (l.misuse (.unexpected w))

/-- The words of a command that has options only. -/
def scanOptions {σ : Type} (l : Level σ) (s : Scan σ) : List String → Except Diversion σ
  | [] => finish l s []
  | w :: rest => do
    match ← l.word s w with
    | some s => scanOptions l s rest
    | none => if w = "--" then finish l s rest else finish l s (w :: rest)

/-- The document among words that are no options. -/
def documentOf (found : Option String) (rest : List String) : Except Diversion String :=
  match found.toList ++ rest with
  | [] => .error (.misuse .settings .noDocument)
  | [document] => .ok document
  | _ :: w :: _ => .error (.misuse .settings (.unexpected w))

/-- The words of the settings command. -/
def scanSettings (found : Option String) : List String → Except Diversion String
  | [] => documentOf found []
  | w :: rest => do
    match ← (bareLevel .settings).word ⟨(), [], none⟩ w with
    | some _ => scanSettings found rest
    | none =>
      if w = "--" then documentOf found rest
      else if found.isSome then .error (.misuse .settings (.unexpected w))
      else scanSettings (some w) rest

/-- The command with this name. -/
def Topic.ofName? (name : String) : Option Topic :=
  if name = "stream" then some .stream
  else if name = "settings" then some .settings
  else if name = "self-check" then some .selfCheck
  else if name = "help" then some .help
  else none

/-- The words behind a question for help. -/
def scanHelp : List String → Diversion
  | [] => .help .program true
  | w :: rest =>
    match Topic.ofName? w, rest with
    | none, _ => .misuse .program (.unknownCommand w)
    | some topic, [] => .help topic true
    | some topic, w :: _ => .misuse topic (.unknownCommand w)

/-- The words of a command. -/
def scanCommand (topic : Topic) (words : List String) : Except Diversion Command :=
  match topic with
  | .stream => (scanOptions streamLevel ⟨{}, [], none⟩ words).map .stream
  | .settings => (scanSettings none words).map .settings
  | .selfCheck => (scanOptions (bareLevel .selfCheck) ⟨(), [], none⟩ words).map fun _ => .selfCheck
  | .help | .program => .error (scanHelp words)

/-- The words of the program. The command is read before the last option in front of
it takes effect. -/
def scanProgram (s : Scan Options) : List String → Except Diversion Request
  | [] => do
    let _ ← programLevel.lift s.commit
    .error (.misuse .program .noCommand)
  | w :: rest => do
    match ← programLevel.word s w with
    | some s => scanProgram s rest
    | none =>
      match Topic.ofName? w, s.awaiting with
      | some topic, none =>
        let command ← scanCommand topic rest
        let s ← programLevel.lift s.commit
        return ⟨s.settings, command⟩
      | _, _ =>
        if w = "--" then
          let _ ← finish programLevel s rest
          .error (.misuse .program .noCommand)
        else .error (.misuse .program (.unexpected w))

/-- The request that the words of a command line are. -/
def parseWords (words : List String) : Except Diversion Request :=
  if words.isEmpty then .error (.misuse .program .noWords)
  else scanProgram ⟨{}, [], none⟩ words

end QuadDaq.Cli
