import Adventure.Content

/-!
# Options of the command line

* `Options`: language, slot and tracing of a session;
* `Switch`, `Word`: the four switches, and what a word of the command line is taken for;
* `Word.ofText?`: a word by itself; a switch may be cut short as long as it is clear which one is
  meant;
* `Options.read`: the options of a command line, or the status with which it ends the program.
-/

namespace Adventure.CommandLine

/-! ## 1. Options -/

/-- Where notes go. -/
inductive Tracing where
  | off
  | console
  /-- The notes go to a file, and what is said goes there too. -/
  | file (name : String)
deriving DecidableEq, Repr

/-- What the command line asks for. A value that consists of the separator alone is none. -/
structure Options where
  language : Option String := some "it"
  slot : Option Int := some 1
  tracing : Tracing := .off
deriving DecidableEq, Repr

/-- The slot that the command line asks for, an empty list if it asks for none. -/
def Options.slotContent (o : Options) : Content :=
  match o.slot with
  | some n => .int n
  | none => .list []

/-! ## 2. Words -/

inductive Switch where
  | help
  | language
  | slot
  | debug
deriving DecidableEq, Repr

namespace Switch

def all : List Switch := [.help, .language, .slot, .debug]

/-- The long name of a switch. -/
def name : Switch → List Char
  | .help => "--help".toList
  | .language => "--language".toList
  | .slot => "--slot".toList
  | .debug => "--debug".toList

/-- The switches whose long names begin with a text. -/
def beginningWith (s : List Char) : List Switch := all.filter (fun w => s.isPrefixOf w.name)

end Switch

/-- What a word of the command line is taken for. -/
inductive Word where
  /-- A value of the switch before it, or one that nothing asks for. -/
  | value (s : String)
  /-- A switch with the value that is written in the same word, if one is. -/
  | switch (w : Switch) (value : Option String)
  /-- The short name for help, with what stands after it in the same word. -/
  | shortHelp (after : Option (List Char))
  /-- A switch that there is not. -/
  | unknown
  /-- Two strokes alone: no switches come after them. -/
  | separator
deriving DecidableEq, Repr

namespace Word

/-- The text without a line break at its end. -/
def dropLineBreak (s : List Char) : List Char :=
  if s.getLast? = some '\n' then s.dropLast else s

/-- A number below zero: digits, perhaps with a point before the last of them, and perhaps a line
    break at the end. -/
def isNegativeNumber (s : List Char) : Bool :=
  let digits := fun cs : List Char => cs.all (fun c => (Text.digitValue? c).isSome)
  match dropLineBreak s with
  | '-' :: cs =>
    let part := cs.dropWhile (· ≠ '.')
    if part = [] then cs ≠ [] && digits cs
    else digits (cs.takeWhile (· ≠ '.')) && part.length ≠ 1 && digits (part.drop 1)
  | _ => false

/-- The part of a word before the first `=`, and what comes after it if there is one. -/
def splitValue (s : List Char) : List Char × Option (List Char) :=
  match s.dropWhile (· ≠ '=') with
  | [] => (s, none)
  | _ :: given => (s.takeWhile (· ≠ '='), some given)

/-- A word with a stroke that names no switch. -/
def ofStray (s : List Char) : Word :=
  if isNegativeNumber s || s.contains ' ' then .value (String.ofList s) else .unknown

/-- **What a word is taken for**; `none` if it could be several switches. -/
def ofText? (s : List Char) : Option Word :=
  match s with
  | ['-', '-'] => some .separator
  | '-' :: '-' :: _ =>
    let (name, given) := splitValue s
    match Switch.beginningWith name with
    | [] => some (ofStray s)
    | [w] => some (.switch w (given.map String.ofList))
    | _ => none
  | ['-', 'h'] => some (.shortHelp none)
  | '-' :: 'h' :: '=' :: letters => some (.shortHelp (some letters))
  | '-' :: 'h' :: letters => some (.shortHelp (some letters))
  | '-' :: _ :: _ => some (ofStray s)
  | _ => some (.value (String.ofList s))

/-- What the words of a command line are taken for; after a separator all are values. -/
def ofTexts? : List String → Option (List Word)
  | [] => some []
  | s :: rest => do
    match ← ofText? s.toList with
    | .separator => return .separator :: rest.map .value
    | w => return w :: (← ofTexts? rest)

end Word

/-! ## 3. Reading -/

/-- Two strokes alone. -/
def separator : String := "--"

/-- How the program is used. -/
def usage : String :=
  "usage: adventure [--help] [--language LANGUAGE] [--slot SLOT] [--debug [FILE]]"

/-- The status of a command line that cannot be read. -/
def misused : Nat := 2

namespace Options

/-- The options with the value of a switch. -/
def withValue (o : Options) : Switch → String → Except Nat Options
  | .help, _ => .error misused
  | .language, s => .ok { o with language := if s = separator then none else some s }
  | .slot, s =>
    if s = separator then .ok { o with slot := none }
    else match Text.readInt? s.toList with
      | some n => .ok { o with slot := some n }
      | none => .error misused
  | .debug, s => .ok { o with tracing := if s = separator then .console else .file s }

/-- The options with a switch that has no value. -/
def withoutValue (o : Options) : Switch → Except Nat Options
  | .help => .error 0
  | .debug => .ok { o with tracing := .console }
  | _ => .error misused

/-- The status after the short name for help: what stands after it in the same word has to be the
    letter of help, once or more often. -/
def helpStatus : Option (List Char) → Nat
  | none => 0
  | some letters => if letters ≠ [] ∧ letters.all (· = 'h') then 0 else misused

/-- Whether a switch takes the word after it as its value. -/
def takesValue : Switch → Bool
  | .help => false
  | _ => true

/-- Reads on. `stray` tells whether there was a word that nothing asked for. -/
def readFrom (o : Options) (stray : Bool) : List Word → Except Nat Options
  | [] => if stray then .error misused else .ok o
  | .switch w (some s) :: rest => do (← o.withValue w s).readFrom stray rest
  | [.switch w none] => do (← o.withoutValue w).readFrom stray []
  | .switch w none :: .value s :: rest =>
    if takesValue w then do (← o.withValue w s).readFrom stray rest
    else do (← o.withoutValue w).readFrom stray (.value s :: rest)
  | .switch w none :: next :: rest => do (← o.withoutValue w).readFrom stray (next :: rest)
  | .shortHelp after :: _ => .error (helpStatus after)
  | .value _ :: rest => o.readFrom true rest
  | .unknown :: rest => o.readFrom true rest
  | .separator :: rest => o.readFrom true rest

/-- **The options of a command line**, or the status with which it ends the program. -/
def read (args : List String) : Except Nat Options :=
  match Word.ofTexts? args with
  | some words => ({} : Options).readFrom false words
  | none => .error misused

example : (read ["--s", "4", "--deb=q"]).toOption = some ⟨some "it", some 4, .file "q"⟩ := by
  decide +kernel
example : (read ["--slot"]).toOption = none := by decide +kernel

end Options

end Adventure.CommandLine
