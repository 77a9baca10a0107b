import HelpCenter.Command.Option

/-!
# Reading the arguments of a command

The arguments are gone through from the left. Options take what belongs to them, the positional
argument takes its share as soon as it is met, and what nobody takes is left over.
-/

namespace HelpCenter

/-- What the arguments of a command say. -/
structure ArgumentReading where
  /-- The values of options, the latest first. -/
  values : List (Text × OptionValue) := []
  /-- What the positional argument took, if it was met. -/
  positional : Option (List Text) := none
  leftOver : List Text := []

namespace ArgumentReading

/-- The reading with an option set. -/
def set (r : ArgumentReading) (o : CommandOption) (v : OptionValue) : ArgumentReading :=
  { r with values := (o.key, v) :: r.values }

/-- The reading with more arguments left over. -/
def leave (r : ArgumentReading) (arguments : List Text) : ArgumentReading :=
  { r with leftOver := r.leftOver ++ arguments }

/-- Whether an option was given. -/
def isOn (r : ArgumentReading) (name : String) : Bool := (r.values.lookup (lit name)).isSome

/-- The text that an option was given. -/
def text? (r : ArgumentReading) (name : String) : Option Text :=
  match r.values.lookup (lit name) with
  | some (.text t) => some t
  | _ => none

/-- The integer that an option was given. -/
def integer? (r : ArgumentReading) (name : String) : Option Int :=
  match r.values.lookup (lit name) with
  | some (.integer n) => some n
  | _ => none

end ArgumentReading

namespace CommandShape

/-- A refusal because of a usage fault. -/
def refuse {α : Type} (s : CommandShape) (fault : UsageFault) : Except Refusal α :=
  .error (.usage s.program fault)

/-- Sets an option that takes no value. -/
def setFlag (s : CommandShape) (r : ArgumentReading) (o : CommandOption) :
    Except Refusal ArgumentReading :=
  match o.kind with
  | .help => .error (.help s.program)
  | _ => .ok (r.set o .on)

/-- Sets an option to what an argument stands for. -/
def setValue (s : CommandShape) (r : ArgumentReading) (o : CommandOption) (argument : Text) :
    Except Refusal ArgumentReading :=
  match o.readValue argument with
  | .ok v => .ok (r.set o v)
  | .error fault => s.refuse fault

/-- How an argument that names options ends. -/
inductive GroupEnd where
  /-- With an option whose value is not in this argument. -/
  | bare (o : CommandOption)
  /-- With an option and its value. -/
  | valued (o : CommandOption) (value : Text)
  /-- With letters of which the first is no option; a hyphen is put before them. -/
  | unread (rest : Text)

/-- The options of one letter that are written together: the option `o` with `value` behind it, in
which further letters follow if `o` takes no value and has a name of one letter (`short`). The
options before the end take no value. -/
def letters (s : CommandShape) (o : CommandOption) (short afterEquals : Bool) (value : Text) :
    Except UsageFault (List CommandOption × GroupEnd) :=
  if o.takesValue then .ok ([], .valued o value)
  else
    match value with
    | [] => .error (.ignoredValue o.label [])
    | c :: t =>
      if !short || afterEquals || c.is '-' then .error (.ignoredValue o.label (c :: t))
      else
        match s.option? (lit "-" ++ [c]), t with
        | none, _ => .ok ([o], .unread (lit "-" ++ c :: t))
        | some p, [] => .ok ([o], .bare p)
        | some p, d :: u => do
          let (before, last) ←
            if d.is '=' then s.letters p true true u else s.letters p true false (d :: u)
          return (o :: before, last)
termination_by value.length

/-- The options that an argument names. -/
def group (s : CommandShape) (m : OptionMatch) : Except UsageFault (List CommandOption × GroupEnd) :=
  match m.value with
  | none => .ok ([], .bare m.option)
  | some v => s.letters m.option (!Text.startsWith m.name (lit "--")) v.afterEquals v.text

/-- Whether an argument is or looks like an option. -/
def isOption : Text × ArgumentKind → Bool
  | (_, .known ..) | (_, .unknown) => true
  | (_, .plain) | (_, .separator) => false

/-- Whether an argument is two hyphens before which there are none. -/
def isSeparator : Text × ArgumentKind → Bool
  | (_, .separator) => true
  | _ => false

/-- Gives the positional argument its share of arguments among which are no options. -/
def finish (s : CommandShape) (r : ArgumentReading) (args : List (Text × ArgumentKind)) :
    ArgumentReading :=
  let texts := args.map (·.1)
  match r.positional, s.positional with
  | some _, _ => r.leave texts
  | none, .single =>
    let front := args.takeWhile isSeparator
    let taken := args.take (front.length + 1)
    let behind := (args.drop taken.length).takeWhile isSeparator
    let rest := args.drop (taken.length + behind.length)
    let given := (taken.map (·.1)).erase (lit "--")
    ArgumentReading.leave { r with positional := some given } (rest.map (·.1))
  | none, .command .. =>
    if args.all isSeparator then r.leave texts else { r with positional := some texts }

/-- Goes through the arguments. -/
def readFrom (s : CommandShape) (r : ArgumentReading) : List (Text × ArgumentKind) →
    Except Refusal ArgumentReading
  | [] => .ok (s.finish r [])
  | (a, .unknown) :: rest => s.readFrom (r.leave [a]) rest
  | (_, .known m) :: rest =>
    match s.group m with
    | .error fault => s.refuse fault
    | .ok (before, .unread letters) => do
      s.readFrom (← before.foldlM s.setFlag (r.leave [letters])) rest
    | .ok (before, .valued o value) => do
      s.readFrom (← s.setValue (← before.foldlM s.setFlag r) o value) rest
    | .ok (before, .bare o) =>
      if o.takesValue then
        match rest with
        | (b, .plain) :: rest => do
          s.readFrom (← s.setValue (← before.foldlM s.setFlag r) o b) rest
        | _ => s.refuse (.needsValue o.label)
      else do
        s.readFrom (← s.setFlag (← before.foldlM s.setFlag r) o) rest
  | (a, k) :: rest =>
    if !rest.any isOption then .ok (s.finish r ((a, k) :: rest))
    else
      match r.positional, s.positional with
      | some _, _ => s.readFrom (r.leave [a]) rest
      | none, .single => s.readFrom { r with positional := some [a] } rest
      | none, .command .. => .ok { r with positional := some (a :: rest.map (·.1)) }

/-- The first of several positional arguments has to be one of the choices. -/
def checkChoice (s : CommandShape) (r : ArgumentReading) : Except Refusal Unit :=
  match s.positional, r.positional with
  | .single, _ => .ok ()
  | .command name choices, some (a :: _) =>
    if choices.contains a then .ok () else s.refuse (.badChoice name a choices)
  | .command name _, _ => s.refuse (.required name)

/-- Reads the arguments of a command. -/
def read (s : CommandShape) (arguments : List Text) : Except Refusal ArgumentReading :=
  match s.kinds arguments with
  | .error fault => s.refuse fault
  | .ok args => do
    let r ← s.readFrom {} args
    s.checkChoice r
    return r

end CommandShape

end HelpCenter
