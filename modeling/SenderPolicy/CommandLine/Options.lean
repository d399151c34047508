import SenderPolicy.CommandLine.Reading
import SenderPolicy.Evaluation
import SenderPolicy.Settings
import SenderPolicy.Text.Numeral

/-!
The commands and their options. An invocation is a command with everything that the command line set;
the last setting of a switch holds. A switch that takes a value may still be left blank: that is no
error by itself, but only where the value is needed.
-/
namespace SenderPolicy.CommandLine

def program : Text := "checkspf"

inductive Setting
  | help | format | outputs | nameservers | timeout | timeoutRetries | maxLookups | version | debug
  | command | domains | domain | record | address | sender | helo | wait

inductive Stop
  | help (program : Text)
  | version
  | refused (program : Text) (r : Refusal)

def helpSwitch : Switch Setting := { key := .help, names := ["-h", "--help"], arity := .flag }

def formatSwitch : Switch Setting := { key := .format, names := ["-f", "--format"] }

def timeoutSwitch : Switch Setting := { key := .timeout, names := ["-t", "--timeout"] }

def retriesSwitch : Switch Setting := { key := .timeoutRetries, names := ["--timeout-retries"] }

def lookupsSwitch : Switch Setting := { key := .maxLookups, names := ["--max-lookups"] }

def waitSwitch : Switch Setting := { key := .wait, names := ["-w", "--wait"] }

def domainSwitch : Switch Setting := { key := .domain, names := ["-d", "--domain"] }

/-- The switches that stand before the command; the command takes all that follows it. -/
def usage : Usage Setting where
  switches := [helpSwitch,
    formatSwitch,
    { key := .outputs, names := ["-o", "--output"], arity := .values },
    { key := .nameservers, names := ["-n", "--nameserver"], arity := .values },
    timeoutSwitch, retriesSwitch, lookupsSwitch,
    { key := .version, names := ["-v", "--version"], arity := .flag },
    { key := .debug, names := ["--debug"], arity := .flag }]
  operands := [{ key := .command, name := "command", arity := .rest }]

def settle {κ σ : Type} (program : Text) (set : σ → κ → List Text → Except Stop σ) (s : σ) :
    List (Event κ) → Except Stop (σ × List Text)
  | [] => .ok (s, [])
  | .refused r :: _ => .error (.refused program r)
  | .stray t :: rest => do
    let (s, strays) ← settle program set s rest
    return (s, t :: strays)
  | .setting key values :: rest => do
    let s ← set s key values
    settle program set s rest

def seconds (program : Text) (s : Switch Setting) : Option Text → Except Stop (Option Text)
  | none => .ok none
  | some value =>
    if Text.isNumeral value then .ok (some value)
    else .error (.refused program (.malformed s.title "float" value))

def integer (program : Text) (s : Switch Setting) : Option Text → Except Stop (Option Int)
  | none => .ok none
  | some value =>
    match Text.readInteger value with
    | .ok n => .ok (some n)
    | .error _ => .error (.refused program (.malformed s.title "int" value))

/-! Options -/

/-- The options before the command; nothing stands for one that is left blank. Times are kept as they
were written. -/
structure Options where
  format : Option Text := some "json"
  outputs : Option (List Text) := none
  nameservers : Option (List Text) := none
  timeout : Option Text := some "2.0"
  timeoutRetries : Option Int := some defaultTimeoutRetries
  maxLookups : Option Int := some ({} : Limits).lookups
  isDebugging : Bool := false
  /-- The name of the command and the arguments after it. -/
  words : List Text := []

def Options.set (o : Options) (key : Setting) (values : List Text) : Except Stop Options :=
  match key with
  | .help => .error (.help program)
  | .version => .error .version
  | .format => .ok { o with format := values.head? }
  | .outputs => .ok { o with outputs := some values }
  | .nameservers => .ok { o with nameservers := some values }
  | .timeout => do return { o with timeout := ← seconds program timeoutSwitch values.head? }
  | .timeoutRetries => do
    return { o with timeoutRetries := ← integer program retriesSwitch values.head? }
  | .maxLookups => do return { o with maxLookups := ← integer program lookupsSwitch values.head? }
  | .debug => .ok { o with isDebugging := true }
  | .command => .ok { o with words := values }
  | _ => .ok o

/-! Commands -/

/-- A command with its arguments. The wait of a check may be left blank, and so may the domain of a
record to validate, if one is named at all. -/
inductive Command
  | check (lines : List Text) (wait : Option Text)
  | parse (record : Text)
  | validate (record : Text) (domain : Option (Option Text))
  | simulate (request : Evaluation.Request)
  | graph (domain : Text)
  | flatten (domain : Text)

namespace Command

def blanks : List Command :=
  [.check [] (some "0.0"), .parse [], .validate [] none,
    .simulate { domain := [], ip := [], sender := none, helo := none }, .graph [], .flatten []]

def name : Command → Text
  | .check _ _ => "check"
  | .parse _ => "parse"
  | .validate _ _ => "validate"
  | .simulate _ => "simulate"
  | .graph _ => "graph"
  | .flatten _ => "flatten"

def ofName? (name : Text) : Option Command := blanks.find? (fun c => c.name = name)

def title (c : Command) : Text := Text.phrase [program, " ", c.name]

def usage : Command → Usage Setting
  | .check _ _ =>
    { switches := [helpSwitch, waitSwitch]
      operands := [{ key := .domains, name := "domain", arity := .values }] }
  | .parse _ => { switches := [helpSwitch], operands := [{ key := .record, name := "record" }] }
  | .validate _ _ =>
    { switches := [helpSwitch, domainSwitch]
      operands := [{ key := .record, name := "record" }] }
  | .simulate _ =>
    { switches := [helpSwitch, { key := .sender, names := ["-s", "--sender"] },
        { key := .helo, names := ["--helo"] }]
      operands := [{ key := .domain, name := "domain" }, { key := .address, name := "ip" }] }
  | .graph _ => { switches := [helpSwitch], operands := [{ key := .domain, name := "domain" }] }
  | .flatten _ => { switches := [helpSwitch], operands := [{ key := .domain, name := "domain" }] }

/-- An address that consists of nothing but a second `--` is an empty list, and no address. -/
def addressOf : List Text → Text
  | [t] => t
  | _ => "[]"

def set (c : Command) (key : Setting) (values : List Text) : Except Stop Command :=
  match c, key, values with
  | c, .help, _ => .error (.help c.title)
  | .check _ wait, .domains, all => .ok (.check all wait)
  | .check lines _, .wait, all => do
    return .check lines (← seconds c.title waitSwitch all.head?)
  | .parse _, .record, [t] => .ok (.parse t)
  | .validate _ domain, .record, [t] => .ok (.validate t domain)
  | .validate record _, .domain, all => .ok (.validate record (some all.head?))
  | .simulate r, .domain, [t] => .ok (.simulate { r with domain := t })
  | .simulate r, .address, all => .ok (.simulate { r with ip := addressOf all })
  | .simulate r, .sender, all => .ok (.simulate { r with sender := some (all.head?.getD []) })
  | .simulate r, .helo, all => .ok (.simulate { r with helo := some (all.head?.getD []) })
  | .graph _, .domain, [t] => .ok (.graph t)
  | .flatten _, .domain, [t] => .ok (.flatten t)
  | c, _, _ => .ok c

def ofWords : List Text → Except Stop (Command × List Text)
  | [] => .error (.refused program (.missing ["command"]))
  | name :: arguments =>
    match ofName? name with
    | none => .error (.refused program (.noChoice "command" name (blanks.map (·.name))))
    | some blank => settle blank.title set blank (blank.usage.read arguments)

end Command

structure Invocation where
  options : Options
  command : Command

def Invocation.ofArguments (arguments : List Text) : Except Stop Invocation := do
  let (options, strays) ← settle program Options.set {} (usage.read arguments)
  let (command, more) ← Command.ofWords options.words
  if (strays ++ more).isEmpty then return ⟨options, command⟩
  else .error (.refused program (.unrecognized (strays ++ more)))

end SenderPolicy.CommandLine
