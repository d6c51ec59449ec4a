/-!
# Fiction.CommandLine.Arguments

What the words of a command line ask for.

* `Request` is the answer to a command line: an action with its settings file, help, the version, or
  nothing that could be done.
* `Scan` is what was read of the words for the program or for one of its verbs. A value is taken
  over (`Scan.settle`) when the next option comes or the words end; an option that is given twice, a
  missing value and an empty path are refused then.
* `Request.ofWords` reads a command line. Options that hold for the program may also stand behind the
  verb, and there they win.
-/

namespace Fiction.CommandLine

/-- What help can be about. -/
inductive Topic where
  | program
  | render
  | play
  | check
  | help
deriving Repr, DecidableEq, Inhabited

/-- The topic of a verb. -/
def Topic.ofVerb? : String → Option Topic
  | "render" => some .render
  | "play" => some .play
  | "check" => some .check
  | "help" => some .help
  | _ => none

/-- What is to be done. -/
inductive Action where
  /-- Show one node of a story, or its start. -/
  | render (story : String) (node : Option String)
  /-- Play a story. -/
  | play (story : String)
  /-- Look for problems in the stories under a path. -/
  | check (path : String)
deriving Repr, DecidableEq, Inhabited

/-- A command line that can be carried out. -/
structure Arguments where
  /-- The settings file. -/
  settings : Option String
  /-- Whether to report on what is done. -/
  verbose : Bool
  /-- What is to be done. -/
  action : Action
deriving Repr, DecidableEq, Inhabited

/-- What a command line asks for. -/
inductive Request where
  | run (arguments : Arguments)
  | help (topic : Topic)
  | version
  | invalid
deriving Repr, DecidableEq, Inhabited

/-! ## Options -/

/-- Where a value belongs. -/
inductive Slot where
  /-- `--config` -/
  | settings
  /-- `--node` -/
  | node
  /-- The word that is no option. -/
  | operand
deriving Repr, DecidableEq, Inhabited

/-- What was read of the words of one level. -/
structure Scan where
  settings : Option String := none
  node : Option String := none
  operand : Option String := none
  verbose : Bool := false
  /-- A slot whose value was not taken over, or not given, yet. -/
  pending : Option (Slot × Option String) := none
  /-- Whether only operands follow. -/
  trailing : Bool := false
deriving Repr, DecidableEq, Inhabited

namespace Scan

/-- Gives a slot its value. No slot takes two values, and paths are not empty. -/
def assign (s : Scan) (slot : Slot) (value : String) : Option Scan :=
  match slot with
  | .settings =>
      if s.settings.isSome || value.isEmpty then none else some { s with settings := some value }
  | .node => if s.node.isSome then none else some { s with node := some value }
  | .operand =>
      if s.operand.isSome || value.isEmpty then none else some { s with operand := some value }

/-- Takes over a value that is pending. -/
def settle (s : Scan) : Option Scan :=
  match s.pending with
  | none => some s
  | some (_, none) => none
  | some (slot, some value) => { s with pending := none }.assign slot value

/-- Whether a value is awaited. -/
def awaitsValue (s : Scan) : Bool :=
  match s.pending with
  | some (_, none) => true
  | _ => false

/-- Turns on reports, once. -/
def setVerbose (s : Scan) : Option Scan := do
  let s ← s.settle
  if s.verbose then none else some { s with verbose := true }

end Scan

/-- Where reading a word leads: on, or to an answer. -/
inductive Step where
  | next (scan : Scan)
  | answer (request : Request)
deriving Repr, Inhabited

/-- Goes on if there is something to go on with. -/
def Step.ofOption : Option Scan → Step
  | some s => .next s
  | none => .answer .invalid

/-- An answer, unless what is pending is wrong. -/
def Step.ifSettled (s : Scan) (request : Request) : Step :=
  if s.settle.isSome then .answer request else .answer .invalid

/-- The slot of an option with a value. -/
def slot? (topic : Topic) : String → Option Slot
  | "config" => some .settings
  | "node" => if topic = .render then some .node else none
  | _ => none

/-- Reads an option with a long name, behind its hyphens. -/
def longOption (topic : Topic) (s : Scan) (word : List Char) : Step :=
  let name := String.ofList (word.takeWhile (· != '='))
  let value := match word.dropWhile (· != '=') with
    | '=' :: value => some (String.ofList value)
    | _ => none
  match slot? topic name with
  | some slot =>
      match s.settle, value with
      | none, _ => .answer .invalid
      | some s, none => .next { s with pending := some (slot, none) }
      | some s, some value => .ofOption (s.assign slot value)
  | none =>
      if value.isSome then .answer .invalid
      else if name == "verbose" then .ofOption s.setVerbose
      else if name == "help" then .ifSettled s (.help topic)
      else if name == "version" && topic == .program then .ifSettled s .version
      else .answer .invalid

/-- Reads options of one letter that stand together, behind their hyphen. -/
def letters (topic : Topic) (s : Scan) : List Char → Step
  | [] => .next s
  | 'v' :: cs =>
      match s.setVerbose with
      | some s => letters topic s cs
      | none => .answer .invalid
  | 'h' :: _ => .ifSettled s (.help topic)
  | 'V' :: _ => if topic = .program then .ifSettled s .version else .answer .invalid
  | _ => .answer .invalid

/-- Reads a word that is no option. The program itself takes none. -/
def operand (topic : Topic) (s : Scan) (word : String) : Step :=
  if topic = .program then .answer .invalid
  else
    match s.settle with
    | none => .answer .invalid
    | some s =>
        if s.operand.isSome then .answer .invalid
        else .next { s with pending := some (.operand, some word) }

/-- Reads a word. -/
def word (topic : Topic) (s : Scan) (w : String) : Step :=
  if s.trailing then operand topic s w
  else
    match w.toList with
    | ['-', '-'] => if s.awaitsValue then .answer .invalid else .next { s with trailing := true }
    | '-' :: '-' :: cs => longOption topic s cs
    | '-' :: c :: cs => letters topic s (c :: cs)
    | _ =>
        match s.pending with
        | some (slot, none) => .next { s with pending := some (slot, some w) }
        | _ => operand topic s w

/-! ## Command lines -/

/-- Reads the words behind a verb. -/
def verbWords (topic : Topic) (s : Scan) : List String → Except Request Scan
  | [] =>
      match s.settle with
      | some s => .ok s
      | none => .error .invalid
  | w :: ws =>
      match word topic s w with
      | .next s => verbWords topic s ws
      | .answer request => .error request

/-- The action of a verb. -/
def action? (topic : Topic) (s : Scan) : Option Action :=
  match topic with
  | .render => s.operand.map fun story => .render story s.node
  | .play => s.operand.map .play
  | .check => some (.check (s.operand.getD "."))
  | .program | .help => none

/-- The topic that words behind `help` name. -/
def helpRequest : List String → Request
  | [] => .help .program
  | [w] =>
      match Topic.ofVerb? w with
      | some topic => .help topic
      | none => .invalid
  | _ => .invalid

/-- Reads a verb with its words, behind the options `s` of the program. -/
def verbRequest (s : Scan) (topic : Topic) (words : List String) : Request :=
  if topic = .help then helpRequest words
  else
    match verbWords topic {} words with
    | .error request => request
    | .ok own =>
        match action? topic own, s.settle with
        | some action, some s =>
            .run ⟨own.settings.or s.settings, own.verbose || s.verbose, action⟩
        | _, _ => .invalid

/-- Reads the words of the program up to its verb. -/
def programWords (s : Scan) : List String → Request
  | [] => .invalid
  | w :: ws =>
      match if s.trailing || s.awaitsValue then none else Topic.ofVerb? w with
      | some topic => verbRequest s topic ws
      | none =>
          match word .program s w with
          | .next s => programWords s ws
          | .answer request => request

/-- What a command line asks for. -/
def Request.ofWords (words : List String) : Request :=
  programWords {} words

end Fiction.CommandLine
