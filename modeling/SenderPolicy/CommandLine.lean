import SenderPolicy.CommandLine.Options
import SenderPolicy.Dns.Resolver
import SenderPolicy.Report

/-!
Commands, from the arguments to what they show: a document for each command, as text on the screen or in
files. A command fails when it needs the value of a switch that was left blank, and not before.
-/
namespace SenderPolicy.CommandLine

/-! What stops early -/

namespace Stop

def code : Stop → Nat
  | .refused _ _ => 2
  | _ => 0

def overview {κ : Type} (program : Text) (u : Usage κ) : Text :=
  Text.phrase ["usage: ", program, u.operands.flatMap (fun o => ' ' :: o.name),
    u.switches.flatMap (fun s => '\n' :: ' ' :: s.title), "\n"]

def usageOf (title : Text) : Usage Setting :=
  match Command.blanks.find? (fun c => c.title = title) with
  | some c => c.usage
  | none => CommandLine.usage

def screen : Stop → Text
  | .help title => overview title (usageOf title)
  | .version => SenderPolicy.version ++ ['\n']
  | .refused _ _ => []

def errorLine : Stop → Text
  | .refused program r => Text.phrase [program, ": error: ", r.message]
  | _ => []

end Stop

/-! What fails later -/

/-- Why a command comes to nothing: a fault, or a switch left blank whose value is needed. -/
inductive Failure
  | fault (f : Fault)
  | blank (s : Switch Setting)

def Failure.message : Failure → Text
  | .fault f => f.message
  | .blank s => aboutArgument s.title ["left blank"]

def needed {α : Type} (s : Switch Setting) : Option α → Except Failure α
  | some a => .ok a
  | none => .error (.blank s)

namespace Options

/-- The limits of a check. If there is none on lookups, the first lookup is one too many. -/
def limits (o : Options) : Limits := { lookups := o.maxLookups.getD 0 }

/-- A limit is needed as soon as a lookup is counted. -/
def allow (o : Options) : Nat → Except Failure Unit
  | 0 => .ok ()
  | _ + 1 => (needed lookupsSwitch o.maxLookups).map (fun _ => ())

end Options

/-! Documents of commands -/

def linesOf (contents : Text) : List Text :=
  Text.pieces (fun c => c == '\n' || c == '\r') contents

namespace Command

/-- The file that a check names if its only name is that of a file. -/
def listName? : Command → Option Text
  | .check [name] _ => some name
  | _ => none

def withList (contents : Text) : Command → Command
  | .check _ wait => .check (linesOf contents) wait
  | c => c

def parsed (text : Text) : Document :=
  match Record.parse? text with
  | none => .fields [("record", .null), ("mechanisms", .items [])]
  | some r =>
    .fields [("record", .text r.compose), ("mechanisms", .items (r.terms.map Document.ofTerm))]

def flattened (domain : Text) : Dns.Plan Document := do
  let record := (← published domain).toOption.map (·.record)
  let flat ← Reference.flatten Reference.defaultFlatteningDepth domain record
  return .fields [("domain", .text domain), ("record", Document.ofOption .text record),
    ("flattened", Document.ofOption (fun r => .text r.compose) flat)]

/-- A report passes if its lookups could be counted. The time to wait is looked at after each one. -/
def pass (o : Options) (wait : Option Text) (outcome : Except Fault Report) :
    Except Failure Report := do
  let report ← outcome.mapError .fault
  o.allow report.lookups
  let _ ← needed waitSwitch wait
  return report

def assessed (o : Options) (outcome : Except Fault Audit.Assessment) : Except Failure Document := do
  let assessment ← outcome.mapError .fault
  o.allow (assessment.lookups.getD 0)
  return .ofAssessment assessment

def evaluated (o : Options) (outcome : Except Fault Evaluation.Result) : Except Failure Document := do
  let result ← outcome.mapError .fault
  o.allow result.tally.lookups
  return .ofResult result

def document (o : Options) (rules : List Domain.SuffixRule) (now : Int) : Command → Dns.Plan (Except Failure Document)
  | .check lines wait => do
    return (← Report.ofDomains rules o.limits (pass o wait) (Report.domainsOfLines lines)).map
      Document.ofReports
  | .parse record => return .ok (parsed record)
  | .validate record none => return assessed o (Audit.auditText record)
  | .validate _ (some none) => return .error (.blank domainSwitch)
  | .validate record (some (some domain)) => do
    return assessed o (← Audit.auditContent o.limits record domain)
  | .simulate request => do return evaluated o (← Evaluation.evaluate o.limits now request)
  | .graph domain => do
    return .ok (Document.ofGraph (← Reference.graphOfDomain Reference.defaultDepth domain))
  | .flatten domain => do return .ok (← flattened domain)

end Command

/-! Output -/

structure Outcome where
  screen : Text := []
  files : List (Text × Text) := []
  complaints : List Text := []

inductive Form
  | json | csv

def Form.write (d : Document) : Form → Text
  | .json => d.print
  | .csv => (Table.ofDocument d).toOption.getD []

def Form.ofPath? (path : Text) : Option Form :=
  if Text.endsWith ".json" (Text.lower path) then some .json
  else if Text.endsWith ".csv" (Text.lower path) then some .csv
  else none

namespace Invocation

def allowsTable (i : Invocation) : Bool :=
  match i.command with
  | .check _ _ => true
  | _ => false

def screenForm (i : Invocation) (format : Text) : Form :=
  if Text.lower format = "csv" ∧ i.allowsTable then .csv else .json

def addFile (i : Invocation) (d : Document) (o : Outcome) (path : Text) : Outcome :=
  let complain (parts : List Text) : Outcome :=
    { o with complaints := o.complaints ++ [Text.phrase ("ERROR: " :: parts)] }
  match Form.ofPath? path with
  | none => complain ["Output path ", path, " must end in .json or .csv"]
  | some .json => { o with files := o.files ++ [(path, Form.write d .json)] }
  | some .csv =>
    if i.allowsTable then { o with files := o.files ++ [(path, Form.write d .csv)] }
    else complain ["CSV output is only supported by the check command"]

/-- The document goes to the files that are named, or else to the screen, for which a format is needed. -/
def outcome (i : Invocation) (d : Document) : Except Failure Outcome :=
  match i.options.outputs with
  | none => do
    let format ← needed formatSwitch i.options.format
    return { screen := (i.screenForm format).write d ++ ['\n'] }
  | some paths => .ok (paths.foldl (i.addFile d) {})

/-- What the command comes to. Nothing begins without a timeout. -/
def plan (rules : List Domain.SuffixRule) (now : Int) (i : Invocation) : Dns.Plan (Except Failure Outcome) := do
  match needed timeoutSwitch i.options.timeout with
  | .error f => return .error f
  | .ok _ => return (← i.command.document i.options rules now).bind i.outcome

def listName? (i : Invocation) : Option Text :=
  if i.options.timeout.isNone then none else i.command.listName?

/-! The resolver -/

def resolver (i : Invocation) : Dns.Resolver :=
  { timeoutRetries := i.options.timeoutRetries.getD 0 }

/-- The wire as the resolver sees it. Without a number of retries it cannot tell whether to ask again
after a timeout, which fails the query. -/
def wire {σ : Type} (i : Invocation) (w : Dns.Wire σ) : Dns.Wire σ :=
  match i.options.timeoutRetries with
  | some _ => w
  | none => fun type name s =>
    match w type name s with
    | (.timeout, s) =>
      (.failed .value "'>' not supported between instances of 'int' and 'list'", s)
    | answered => answered

end Invocation
end SenderPolicy.CommandLine
