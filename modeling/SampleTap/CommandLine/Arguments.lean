import SampleTap.Text.Numeral
import SampleTap.Text.Terminal

/-!
# Command line arguments

The options of the program and how arguments are read. Options have a long name, and most a short
one; short ones can stand together behind one dash, and a value can follow as the next argument,
behind `=`, or directly behind a short option.

A value is checked when the option after it is taken, or at the end, so an unknown argument is
reported before a bad value in front of it. Conflicts between options are looked for last. The
requests for help and for the version take effect as soon as they are reached.
-/

namespace SampleTap.CommandLine

/-! ## Options -/

/-- An option of the program. -/
inductive Flag
  | listGroups
  | group
  | monitor
  | write
  | json
  | count
  | verbose
  | help
  | version
deriving DecidableEq, Repr

namespace Flag

/-- Every option. -/
def all : List Flag :=
  [listGroups, group, monitor, write, json, count, verbose, help, version]

/-- The option's name behind two dashes. -/
def long : Flag → String
  | listGroups => "list-groups"
  | group => "group"
  | monitor => "monitor"
  | write => "write"
  | json => "json"
  | count => "count"
  | verbose => "verbose"
  | help => "help"
  | version => "version"

/-- The option's letter behind one dash. -/
def short : Flag → Char
  | listGroups => 'l'
  | group => 'g'
  | monitor => 'm'
  | write => 'w'
  | json => 'j'
  | count => 'c'
  | verbose => 'v'
  | help => 'h'
  | version => 'V'

/-- What stands for the option's value in messages. -/
def valueName? : Flag → Option String
  | group => some "GROUP"
  | write => some "FILE"
  | count => some "N"
  | _ => none

/-- The option as messages show it. -/
def display (f : Flag) : String :=
  match f.valueName? with
  | some value => "--" ++ f.long ++ " <" ++ value ++ ">"
  | none => "--" ++ f.long

/-- The options that an option rules out. -/
def excludes : Flag → List Flag
  | listGroups => [group, monitor, write, count]
  | write => [json, count, monitor]
  | _ => []

/-- Whether two options cannot stand together. -/
def conflicts (f g : Flag) : Bool := f.excludes.contains g || g.excludes.contains f

end Flag

/-- What the options ask for. -/
structure Options where
  listGroups : Bool := false
  group : Option UInt32 := none
  monitor : Bool := false
  write : Option String := none
  json : Bool := false
  count : Option Nat := none
  verbose : Bool := false
deriving DecidableEq, Repr

/-! ## Refusals -/

/-- Why a value is refused. -/
inductive ValueFault
  | numeral (fault : Numeral.Fault)
  /-- The number is above or below what the option takes. -/
  | outOfRange (value : Int) (most : Nat)
deriving DecidableEq, Repr

/-- The wording of a value fault. -/
def ValueFault.message : ValueFault → String
  | numeral fault => fault.message
  | outOfRange value most => toString value ++ " is not in 0..=" ++ toString most

/-- Why arguments are refused. -/
inductive Refusal
  | unexpectedArgument (argument : String)
  /-- An option that takes no value was given one. -/
  | unexpectedValue (flag : Flag) (value : String)
  | missingValue (flag : Flag)
  | repeated (flag : Flag)
  | invalidValue (flag : Flag) (value : String) (fault : ValueFault)
  | conflict (flag : Flag) (others : List Flag)
deriving DecidableEq, Repr

/-- The wording of a refusal. What the caller wrote is quoted as plain text. -/
def Refusal.message : Refusal → String
  | unexpectedArgument argument =>
    "unexpected argument '" ++ Terminal.plain argument ++ "' found"
  | unexpectedValue flag value =>
    "unexpected value '" ++ Terminal.plain value ++ "' for '" ++ flag.display ++
      "' found; no more were expected"
  | missingValue flag =>
    "a value is required for '" ++ flag.display ++ "' but none was supplied"
  | repeated flag => "the argument '" ++ flag.display ++ "' cannot be used multiple times"
  | invalidValue flag value fault =>
    "invalid value '" ++ Terminal.plain value ++ "' for '" ++ flag.display ++ "': " ++ fault.message
  | conflict flag [other] =>
    "the argument '" ++ flag.display ++ "' cannot be used with '" ++ other.display ++ "'"
  | conflict flag others =>
    "the argument '" ++ flag.display ++ "' cannot be used with:" ++
      String.join (others.map fun other => "\n  " ++ other.display)

/-- What ends the reading of arguments before their end. -/
inductive Stop
  | refused (refusal : Refusal)
  | help
  | version
deriving DecidableEq, Repr

/-! ## Values -/

/-- The most that a count can be. -/
def maxCount : Nat := 0xffffffffffffffff

/-- The number of a sampling group. -/
def readGroup (value : String) : Except Refusal UInt32 :=
  match Numeral.read (some 0x8000000000000000) 0x7fffffffffffffff value with
  | .error fault => .error (.invalidValue .group value (.numeral fault))
  | .ok n =>
    if 0 ≤ n ∧ n < 0x100000000 then .ok (UInt32.ofNat n.toNat)
    else .error (.invalidValue .group value (.outOfRange n 0xffffffff))

/-- A number of events. -/
def readCount (value : String) : Except Refusal Nat :=
  match Numeral.read none maxCount value with
  | .error fault => .error (.invalidValue .count value (.numeral fault))
  | .ok n => .ok n.toNat

/-- The name of a file. -/
def readFile (value : String) : Except Refusal String :=
  if value.isEmpty then .error (.missingValue .write) else .ok value

/-! ## Reading -/

/-- What has been read so far. -/
structure Reading where
  options : Options := {}
  /-- The options that were taken, in order. -/
  taken : List Flag := []
  /-- An option whose value has not been checked, or not been reached. -/
  awaiting : Option (Flag × Option String) := none

namespace Reading

/-- The options with one more, whose value is there when it takes one. -/
def assign (o : Options) (flag : Flag) (value : String) : Except Stop Options :=
  let refuse {α : Type} (result : Except Refusal α) (f : α → Options) : Except Stop Options :=
    match result with
    | .ok a => .ok (f a)
    | .error refusal => .error (.refused refusal)
  match flag with
  | .listGroups => .ok { o with listGroups := true }
  | .group => refuse (readGroup value) fun group => { o with group := some group }
  | .monitor => .ok { o with monitor := true }
  | .write => refuse (readFile value) fun file => { o with write := some file }
  | .json => .ok { o with json := true }
  | .count => refuse (readCount value) fun count => { o with count := some count }
  | .verbose => .ok { o with verbose := true }
  | .help => .error .help
  | .version => .error .version

/-- Takes an option, with its value when there is one. -/
def take (r : Reading) (flag : Flag) (value? : Option String) : Except Stop Reading := do
  if flag.valueName?.isSome && value?.isNone then throw (.refused (.missingValue flag))
  if r.taken.contains flag then throw (.refused (.repeated flag))
  let options ← assign r.options flag (value?.getD "")
  return { r with options, taken := r.taken ++ [flag] }

/-- Takes the option that waits, if one does. -/
def settle (r : Reading) : Except Stop Reading :=
  match r.awaiting with
  | some (flag, value?) => take { r with awaiting := none } flag value?
  | none => .ok r

/-- Takes an option behind the one that waits; one that takes a value and has none waits in turn. -/
def occur (r : Reading) (flag : Flag) (value? : Option String) : Except Stop Reading := do
  let r ← r.settle
  if flag.valueName?.isSome && value?.isNone then return { r with awaiting := some (flag, none) }
  r.take flag value?

/-- Reads what stands behind two dashes. -/
def long (r : Reading) (text : List Char) : Except Stop Reading :=
  let name := String.ofList (text.takeWhile (· ≠ '='))
  let value? :=
    match text.dropWhile (· ≠ '=') with
    | [] => none
    | _ :: value => some (String.ofList value)
  match Flag.all.find? (·.long = name), value? with
  | none, _ => .error (.refused (.unexpectedArgument ("--" ++ name)))
  | some flag, some value =>
    if flag.valueName?.isSome then r.occur flag (some value)
    else .error (.refused (.unexpectedValue flag value))
  | some flag, none => r.occur flag none

/-- Reads what stands behind one dash. -/
def short (r : Reading) : List Char → Except Stop Reading
  | [] => .ok r
  | c :: rest =>
    match Flag.all.find? (·.short = c) with
    | none => .error (.refused (.unexpectedArgument ("-" ++ c.toString)))
    | some flag =>
      if flag.valueName?.isSome then
        match rest with
        | [] => r.occur flag none
        | '=' :: value => r.occur flag (some (String.ofList value))
        | value => r.occur flag (some (String.ofList value))
      else do
        let r ← r.occur flag none
        r.short rest

/-- Reads arguments in order. Behind `--` none is expected. -/
def arguments (r : Reading) : List String → Except Stop Reading
  | [] => r.settle
  | argument :: rest =>
    match argument.toList with
    | ['-', '-'] =>
      match rest with
      | [] => r.settle
      | argument :: _ => .error (.refused (.unexpectedArgument argument))
    | '-' :: '-' :: text => do (← r.long text).arguments rest
    | '-' :: c :: text => do (← r.short (c :: text)).arguments rest
    | _ =>
      match r.awaiting with
      | some (flag, none) =>
        { r with awaiting := some (flag, some argument) : Reading }.arguments rest
      | _ => .error (.refused (.unexpectedArgument argument))

/-- The first option that was taken together with others that it cannot stand with. -/
def conflict? (taken : List Flag) : Option Refusal :=
  taken.findSome? fun flag =>
    match taken.filter flag.conflicts with
    | [] => none
    | others => some (.conflict flag others)

end Reading

/-- What the arguments ask for. -/
def Options.read (arguments : List String) : Except Stop Options := do
  let r ← ({} : Reading).arguments arguments
  match Reading.conflict? r.taken with
  | some refusal => throw (.refused refusal)
  | none => return r.options

/-! ## Texts -/

/-- The name and version of the program. -/
def versionText : String := "psample 0.3.0\n"

/-- How the program is called. -/
def usage : String := "Usage: psample [OPTIONS]\n"

/-- What the program tells about itself. -/
def helpText : String :=
  "Packet sampling monitor\n\n" ++ usage ++ "\n" ++
  "Options:\n" ++
  "  -l, --list-groups    List sampling groups and exit\n" ++
  "  -g, --group <GROUP>  Only receive samples of this group\n" ++
  "  -m, --monitor        Also print group create and delete events\n" ++
  "  -w, --write <FILE>   Write raw notifications to a pcap file (\"-\" for stdout)\n" ++
  "  -j, --json           Output JSON\n" ++
  "  -c, --count <N>      Stop after this many events\n" ++
  "  -v, --verbose        Show debug logs\n" ++
  "  -h, --help           Print help\n" ++
  "  -V, --version        Print version\n"

end SampleTap.CommandLine
