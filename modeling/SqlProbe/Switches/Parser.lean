import SqlProbe.Number.Decimal
import SqlProbe.Switches.Usage

/-!
# Reading a command line

A command line is read one argument at a time, from left to right. Between two
arguments at most one switch is *open*: it waits for its value, or holds a value
that was an argument of its own and is examined only when the next switch
begins or the line ends. An error found before that moment is therefore the one
reported.

* `Arguments.parse`: reads a command line.
* `Progress.step`: the effect of one argument.

An argument is a long switch (`--name` or `--name=value`), a cluster of letters
(`-v`, `-vq`, `-w5`, `-w=5`), or neither. A switch whose value may start with a
hyphen takes whatever argument comes next. After `--` no argument is accepted.
-/

namespace SqlProbe

/-! ### Values -/

namespace Port

/-- One more digit of a number, unless it leaves the 64-bit range. -/
def pushDigit (negative : Bool) (n : Nat) (c : Char) : Except PortError Nat :=
  if !Digit.isDecimal c then .error .invalidDigit
  else
    let n := n * 10 + Digit.value c
    if negative then (if n ≤ 0x8000000000000000 then .ok n else .error .tooSmall)
    else (if n < 0x8000000000000000 then .ok n else .error .tooLarge)

/-- Reads a decimal integer of 64 bits with an optional sign. -/
def parseInt (s : List Char) : Except PortError Int :=
  let (negative, digits) := match s with
    | '-' :: rest => (true, rest)
    | '+' :: rest => (false, rest)
    | rest => (false, rest)
  if s.isEmpty then .error .empty
  else if digits.isEmpty then .error .invalidDigit
  else
    (digits.foldlM (pushDigit negative) 0).map fun (n : Nat) =>
      if negative then -(n : Int) else (n : Int)

/-- Reads a port number. -/
def parse (s : String) : Except PortError UInt16 :=
  match parseInt s.toList with
  | .error e => .error e
  | .ok n => if 0 ≤ n ∧ n ≤ 65535 then .ok (UInt16.ofNat n.toNat) else .error (.outOfRange n)

end Port

namespace Arguments

/-- The text of a value that has to be UTF-8. -/
def textOf (value : RawText) : Except UsageError String :=
  match value.toString? with
  | some s => .ok s
  | .none => .error .invalidUtf8

/-- The arguments with the value of a switch that takes one. -/
def setValue (a : Arguments) (s : Switch) (value : RawText) : Except UsageError Arguments :=
  match s with
  | .query => (textOf value).map fun t => { a with query := some t }
  | .result => (textOf value).map fun t => { a with result := some t }
  | .regex => (textOf value).map fun t => { a with regex := some t }
  | .warn => (textOf value).map fun t => { a with warn := some t }
  | .crit => (textOf value).map fun t => { a with crit := some t }
  | .file =>
    if value.isEmpty then .error (.valueRequired .file) else .ok { a with file := some value }
  | .host => (textOf value).map fun t => { a with host := some t }
  | .port =>
    match textOf value with
    | .error e => .error e
    | .ok t =>
      match Port.parse t with
      | .ok p => .ok { a with port := some p }
      | .error cause => .error (.invalidPort t cause)
  | .database => (textOf value).map fun t => { a with database := some t }
  | .user => (textOf value).map fun t => { a with user := some t }
  | .pass => (textOf value).map fun t => { a with pass := some t }
  | .logFormat =>
    match textOf value with
    | .error e => .error e
    | .ok t =>
      match LogFormat.parse t with
      | .ok f => .ok { a with logFormat := some f }
      | .error cause => .error (.invalidLogFormat t cause)
  | .verbose => .ok { a with verbose := true }
  | .help => .ok { a with help := true }

/-- The arguments with one more switch, which must not have been used before. -/
def use (a : Arguments) (s : Switch) (value : RawText) : Except UsageError Arguments :=
  if a.uses s then .error (.repeated s) else a.setValue s value

end Arguments

/-! ### Between two arguments -/

/-- What is known between two arguments. -/
structure Progress where
  /-- What the finished switches set. -/
  done : Arguments
  /-- The switch that is not finished yet, with its value if it has one. -/
  opened : Option (Switch × Option RawText)
  /-- Whether no further argument is accepted. -/
  closed : Bool
deriving DecidableEq, Repr

namespace Progress

/-- Before the first argument. -/
def start : Progress := ⟨Arguments.none, none, false⟩

/-- The switch that waits for its value. -/
def waiting? (r : Progress) : Option Switch :=
  match r.opened with
  | some (s, none) => some s
  | _ => none

/-- Whether the next argument is a value whatever it looks like. -/
def takesAny (r : Progress) : Bool := r.waiting?.any Switch.takesHyphen

/-- Finishes the open switch, if there is one. -/
def finish (r : Progress) : Except UsageError Progress :=
  match r.opened with
  | none => .ok r
  | some (s, none) => .error (.valueRequired s)
  | some (s, some value) => (r.done.use s value).map fun a => { r with done := a, opened := none }

/-- Gives the waiting switch its value. -/
def supply (r : Progress) (value : RawText) : Progress :=
  { r with opened := r.opened.map fun (s, _) => (s, some value) }

/-- A switch begins that takes a value, which may be attached to it. -/
def beginValue (r : Progress) (s : Switch) (attached : Option RawText) :
    Except UsageError Progress := do
  let r ← r.finish
  match attached with
  | none => .ok { r with opened := some (s, none) }
  | some value => (r.done.use s value).map fun a => { r with done := a }

/-- A switch begins that takes no value. -/
def beginFlag (r : Progress) (s : Switch) : Except UsageError Progress := do
  let r ← r.finish
  (r.done.use s ⟨[]⟩).map fun a => { r with done := a }

/-! ### The kinds of arguments -/

/-- The effect of a long switch, given what follows its two hyphens. -/
def long (r : Progress) (body : List RawPiece) : Except UsageError Progress :=
  let name : RawText := ⟨body.takeWhile (· != .char '=')⟩
  let value : Option RawText :=
    match body.dropWhile (· != .char '=') with
    | [] => none
    | _ :: rest => some ⟨rest⟩
  match name.toString?.bind Switch.ofLongName? with
  | none => .error (.unexpectedArgument ("--" ++ name.readable))
  | some s =>
    if s.takesValue then r.beginValue s value
    else
      match value with
      | some v => .error (.unexpectedValue s v.readable)
      | none => r.beginFlag s

/-- The value attached to a letter, given what follows the letter. -/
def attached? : List RawPiece → Option RawText
  | [] => none
  | .char '=' :: rest => some ⟨rest⟩
  | rest => some ⟨rest⟩

/-- The effect of a cluster of letters. -/
def cluster (r : Progress) : List RawPiece → Except UsageError Progress
  | [] => .ok r
  | .broken bytes :: rest =>
    .error (.unexpectedArgument ("-" ++ (⟨.broken bytes :: rest⟩ : RawText).readable))
  | .char c :: rest =>
    match Switch.ofLetter? c with
    | none => .error (.unexpectedArgument (String.ofList ['-', c]))
    | some s =>
      if s.takesValue then r.beginValue s (attached? rest)
      else
        match r.beginFlag s with
        | .ok r => r.cluster rest
        | .error e => .error e

/-- The effect of an argument that is no switch. -/
def plainArgument (r : Progress) (arg : RawText) : Except UsageError Progress :=
  if r.waiting?.isSome then .ok (r.supply arg)
  else .error (.unexpectedArgument arg.readable)

/-- The effect of one argument. -/
def step (r : Progress) (arg : RawText) : Except UsageError Progress :=
  if r.closed then .error (.unexpectedArgument arg.readable)
  else if r.takesAny then .ok (r.supply arg)
  else
    match arg.pieces with
    | [.char '-', .char '-'] => .ok { r with closed := true }
    | .char '-' :: .char '-' :: body => r.long body
    | [.char '-'] => r.plainArgument arg
    | .char '-' :: letters => r.cluster letters
    | _ => r.plainArgument arg

end Progress

namespace Arguments

/-- Reads a command line, given without the name of the program. -/
def parse (args : List RawText) : Except UsageError Arguments := do
  let r ← args.foldlM Progress.step Progress.start
  let r ← r.finish
  return r.done

end Arguments

end SqlProbe
