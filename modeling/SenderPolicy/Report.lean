import SenderPolicy.Audit.Walk
import SenderPolicy.Domain.PublicSuffix
import SenderPolicy.Evaluation
import SenderPolicy.Reference.Flattening
import SenderPolicy.Reference.Graph
import SenderPolicy.Report.Table

/-!
Reports on domains, for one domain and for many at once, and the documents that show them.
-/
namespace SenderPolicy

/-- What is known of a domain's record: why there is none, or its audit and its graph. -/
inductive Details
  | failed (message : Text)
  | audited (record : Text) (assessment : Audit.Assessment) (warnings : List SizeWarning)
      (graph : Reference.Graph)

structure Report where
  domain : Text
  base : Text
  details : Details

namespace Report

def ofDomain (rules : List Domain.SuffixRule) (limits : Limits) (domain : Text) :
    Dns.Plan (Except Fault Report) := do
  let domain := Domain.normalized domain
  let base := Domain.base rules domain
  match ← published domain with
  | .error u => return .ok ⟨domain, base, .failed (u.report domain)⟩
  | .ok publication =>
    match ← Audit.auditContent limits publication.record domain with
    | .error f => return .error f
    | .ok assessment =>
      let graph ← Reference.graphOf Reference.defaultDepth domain (some publication.record)
      return .ok ⟨domain, base, .audited publication.record assessment publication.warnings graph⟩

/-- The domain that a line of a list names: what stands before its first comma. -/
def domainOfLine (line : Text) : Text :=
  let line := Text.trim (Text.dropTrailing (fun c => c == '.' || c == '\r' || c == '\n') line)
  Domain.normalized (Text.cutAtFirst (· == ',') line).1

def insertOrdered (t : Text) : List Text → List Text
  | [] => [t]
  | u :: rest =>
    if t = u then u :: rest
    else if Text.precedes t u then t :: u :: rest
    else u :: insertOrdered t rest

/-- The domains that the lines name, each one once and in order; names without a dot are left out. -/
def domainsOfLines (lines : List Text) : List Text :=
  ((lines.map domainOfLine).foldr insertOrdered []).filter (·.contains '.')

/-- Reports on one domain after the other, as long as each report passes. -/
def ofDomains {ε : Type} (rules : List Domain.SuffixRule) (limits : Limits)
    (pass : Except Fault Report → Except ε Report) : List Text → Dns.Plan (Except ε (List Report))
  | [] => return .ok []
  | domain :: rest => do
    match pass (← ofDomain rules limits domain) with
    | .error e => return .error e
    | .ok report =>
      match ← ofDomains rules limits pass rest with
      | .error e => return .error e
      | .ok reports => return .ok (report :: reports)

def ofLines (rules : List Domain.SuffixRule) (limits : Limits) (lines : List Text) :
    Dns.Plan (Except Fault (List Report)) :=
  ofDomains rules limits id (domainsOfLines lines)

def lookups (r : Report) : Nat :=
  match r.details with
  | .failed _ => 0
  | .audited _ assessment _ _ => assessment.lookups.getD 0

end Report

/-! Documents -/

namespace Document

def ofTerm (t : Term) : Document :=
  .fields [("mechanism", .text t.kind.name), ("qualifier", .text [t.qualifier.symbol]),
    ("value", ofOption .text t.value), ("cidr", ofOption .text t.cidr), ("name", ofOption .text t.name)]

def ofAssessment (a : Audit.Assessment) : Document :=
  .fields [("ok", .flag a.isValid), ("problems", texts (a.problems Audit.defaultMarker)),
    ("dns_lookups", ofOption (fun n => .number (Int.ofNat n)) a.lookups)]

def ofResult (r : Evaluation.Result) : Document :=
  .fields [("result", .text r.verdict.name), ("trail", texts r.trail),
    ("dns_lookups", .number r.tally.lookups), ("void_dns_lookups", .number r.tally.voids),
    ("explanation", ofOption .text r.explanation)]

def ofNode (n : Reference.Node) : Document :=
  .fields [("domain", .text n.domain), ("record", ofOption .text n.record)]

def ofEdge (e : Reference.Edge) : Document :=
  .fields [("from", .text e.source), ("to", .text e.target), ("type", .text e.kind.name)]

def ofGraph (g : Reference.Graph) : Document :=
  .fields [("nodes", .items (g.nodes.map ofNode)), ("edges", .items (g.edges.map ofEdge)),
    ("lookups", .number g.lookups), ("cyclic", .flag g.isCyclic)]

def headOf (r : Report) (record : Document) (isValid : Bool) : List (Text × Document) :=
  [("domain", .text r.domain), ("base_domain", .text r.base), ("record", record), ("valid", .flag isValid)]

def auditOf (assessment : Audit.Assessment) (warnings : List SizeWarning) (graph : Reference.Graph) :
    List (Text × Document) :=
  [("dns_lookups", ofOption (fun n => .number (Int.ofNat n)) assessment.lookups),
    ("problems", texts (assessment.problems Audit.defaultMarker)),
    ("warnings", texts (warnings.map (·.message))), ("graph", ofGraph graph)]

def ofReport (r : Report) : Document :=
  match r.details with
  | .failed message => .fields (headOf r .null false ++ ([("error", .text message)] : List (Text × Document)))
  | .audited record assessment warnings graph =>
    .fields (headOf r (.text record) assessment.isValid ++ auditOf assessment warnings graph)

def ofReports : List Report → Document
  | [r] => ofReport r
  | rs => .items (rs.map ofReport)

end Document
end SenderPolicy
