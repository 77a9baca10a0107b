import HelpCenter.Json.Display
import HelpCenter.Number.Reading
import HelpCenter.Text.Search

/-!
# Options of commands

A command takes options and one positional argument. An option can be written with any beginning
of its name that no other option shares, its value after an equals sign or as the next argument,
and options of one letter can be written together. After two hyphens every argument is positional.
-/

namespace HelpCenter

/-- What an option takes. -/
inductive OptionKind where
  | help
  | flag
  | text
  | integer
  | choice (allowed : List Text)

/-- An option with all its names. -/
structure CommandOption where
  names : List Text
  kind : OptionKind

/-- The positional argument of a command. -/
inductive Positional where
  /-- One argument, which may be left out. -/
  | single
  /-- An argument from a list, which has to be there, and all arguments after it. -/
  | command (name : Text) (choices : List Text)

/-- What a command takes. -/
structure CommandShape where
  program : Text
  options : List CommandOption
  positional : Positional

/-- Why arguments cannot be used. -/
inductive UsageFault where
  | required (name : Text)
  | unknown (arguments : List Text)
  | ambiguous (argument : Text) (names : List Text)
  | needsValue (option : Text)
  | ignoredValue (option value : Text)
  | badInteger (option value : Text)
  | badChoice (option value : Text) (allowed : List Text)
deriving DecidableEq

/-- Why a command is not run. -/
inductive Refusal where
  /-- Help was asked for. -/
  | help (program : Text)
  | usage (program : Text) (fault : UsageFault)
deriving DecidableEq

/-- The text of a usage fault. -/
def UsageFault.message : UsageFault → Text
  | .required name => lit "the following arguments are required: " ++ name
  | .unknown arguments => lit "unrecognized arguments: " ++ Text.joinWith (lit " ") arguments
  | .ambiguous argument names =>
    lit "ambiguous option: " ++ argument ++ lit " could match " ++ Text.joinWith (lit ", ") names
  | .needsValue option => lit "argument " ++ option ++ lit ": expected one argument"
  | .ignoredValue option value =>
    lit "argument " ++ option ++ lit ": ignored explicit argument " ++ Json.displayQuoted value
  | .badInteger option value =>
    lit "argument " ++ option ++ lit ": invalid int value: " ++ Json.displayQuoted value
  | .badChoice option value allowed =>
    lit "argument " ++ option ++ lit ": invalid choice: " ++ Json.displayQuoted value ++
      lit " (choose from " ++ Text.joinWith (lit ", ") (allowed.map Json.displayQuoted) ++ lit ")"

/-- A value that an option was given. -/
inductive OptionValue where
  | on
  | text (t : Text)
  | integer (n : Int)

namespace CommandOption

/-- The option's names as messages show them. -/
def label (o : CommandOption) : Text := Text.joinWith (lit "/") o.names

/-- The name under which the option's value is kept: the last one. -/
def key (o : CommandOption) : Text := o.names.getLast?.getD []

/-- Whether the option takes a value. -/
def takesValue (o : CommandOption) : Bool :=
  match o.kind with
  | .help | .flag => false
  | .text | .integer | .choice _ => true

/-- The value that an argument stands for. -/
def readValue (o : CommandOption) (argument : Text) : Except UsageFault OptionValue :=
  match o.kind with
  | .integer =>
    match Text.readInteger? argument with
    | some n => .ok (.integer n)
    | none => .error (.badInteger o.label argument)
  | .choice allowed =>
    if allowed.contains argument then .ok (.text argument)
    else .error (.badChoice o.label argument allowed)
  | .help | .flag | .text => .ok (.text argument)

end CommandOption

/-! ## Kinds of arguments -/

/-- What one argument writes behind the name of an option. -/
structure JoinedValue where
  /-- Whether an equals sign stands between the name and the value. -/
  afterEquals : Bool
  text : Text

/-- An option that an argument may mean, by one of its names and maybe with a value. -/
structure OptionMatch where
  option : CommandOption
  name : Text
  value : Option JoinedValue

/-- What an argument is at first sight. -/
inductive ArgumentKind where
  /-- Two hyphens. -/
  | separator
  | plain
  | known (m : OptionMatch)
  /-- Something that looks like an option and is none. -/
  | unknown

namespace CommandShape

/-- All names of options, each with its option. -/
def named (s : CommandShape) : List (Text × CommandOption) :=
  s.options.flatMap fun o => o.names.map fun name => (name, o)

/-- The option of a name. -/
def option? (s : CommandShape) (name : Text) : Option CommandOption := s.named.lookup name

/-- What stands before and after the first equals sign, if there is one. -/
def cutValue (argument : Text) : Text × Option JoinedValue :=
  if argument.contains '=' then
    let (name, value) := Text.cutAtFirst '=' argument
    (name, some ⟨true, value⟩)
  else (argument, none)

/-- The options whose names begin with what an argument says. -/
def longMatches (s : CommandShape) (argument : Text) : List OptionMatch :=
  let (start, value) := cutValue argument
  s.named.filterMap fun (name, o) =>
    if Text.startsWith name start then some ⟨o, name, value⟩ else none

/-- The options that an argument with one hyphen may mean: that of its letter, or one whose name
begins with the argument. -/
def shortMatches (s : CommandShape) (argument : Text) : List OptionMatch :=
  s.named.filterMap fun (name, o) =>
    if name = argument.take 2 then some ⟨o, name, some ⟨false, argument.drop 2⟩⟩
    else if Text.startsWith name argument then some ⟨o, name, none⟩
    else none

/-- The options that an argument may mean without being exactly their name. -/
def candidates (s : CommandShape) (argument : Text) : List OptionMatch :=
  if Text.startsWith argument (lit "--") then s.longMatches argument else s.shortMatches argument

/-- Whether an argument is a negative number without an exponent. -/
def isNegativeNumber (argument : Text) : Bool :=
  match argument with
  | [] => false
  | c :: t =>
    let digit := fun d : CodePoint => (Text.asciiDigits [d]).all CodePoint.isDigit
    let whole := t.takeWhile digit
    c.is '-' &&
      match t.dropWhile digit with
      | [] => !whole.isEmpty
      | d :: fraction => d.is '.' && !fraction.isEmpty && fraction.all digit

/-- What an argument is that stands before any two hyphens. -/
def kindOf (s : CommandShape) (argument : Text) : Except UsageFault ArgumentKind :=
  if !Text.startsWith argument (lit "-") || argument = lit "-" then .ok .plain
  else
    match s.option? argument with
    | some o => .ok (.known ⟨o, argument, none⟩)
    | none =>
      let (start, value) := cutValue argument
      match s.option? start, s.candidates argument with
      | some o, _ => .ok (.known ⟨o, start, value⟩)
      | none, [m] => .ok (.known m)
      | none, [] =>
        if isNegativeNumber argument || argument.contains ' ' then .ok .plain else .ok .unknown
      | none, ms => .error (.ambiguous argument (ms.map (·.name)))

/-- The arguments with their kinds. -/
def kinds (s : CommandShape) : List Text → Except UsageFault (List (Text × ArgumentKind))
  | [] => .ok []
  | a :: rest =>
    if a = lit "--" then .ok ((a, .separator) :: rest.map fun b => (b, .plain))
    else do
      let k ← s.kindOf a
      return (a, k) :: (← s.kinds rest)

end CommandShape

end HelpCenter
