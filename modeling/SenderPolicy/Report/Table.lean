import SenderPolicy.Report.Document

/-!
Tables of reports: a header and one row for each report, with commas between cells. A cell with a comma,
a quote or an end of line stands in quotes, where each of its own quotes is written twice.
-/
namespace SenderPolicy.Table

def needsQuotes (cell : Text) : Bool :=
  cell.any (fun c => c == ',' || c == '"' || c == '\r' || c == '\n')

def cell (t : Text) : Text :=
  if needsQuotes t then '"' :: t.flatMap (fun c => if c = '"' then ['"', '"'] else [c]) ++ ['"'] else t

def row (cells : List Text) : Text := Text.joined [','] (cells.map cell) ++ ['\r', '\n']

def header : List Text := [
  "domain", "base_domain", "spf_valid", "spf_record", "spf_dns_lookups", "spf_includes", "spf_error",
  "spf_problems", "spf_warnings"]

/-- Why a document is no report: a field is missing, or a value is not of the kind that it should be. -/
inductive Misfit
  | missing (field : Text)
  | kind
  deriving DecidableEq

mutual

/-- A value within a cell: absent values are empty at the top, and named inside of lists. -/
def inner : Document → Text
  | .null => "None"
  | .flag b => if b then "True" else "False"
  | .number n => Text.signedDecimal n
  | .text t => Text.quoted t
  | .items all => '[' :: innerItems true all ++ [']']
  | .fields all => '\x7b' :: innerFields true all ++ ['\x7d']

def innerItems (first : Bool) : List Document → Text
  | [] => []
  | d :: rest => (if first then [] else [',', ' ']) ++ inner d ++ innerItems false rest

def innerFields (first : Bool) : List (Text × Document) → Text
  | [] => []
  | (name, d) :: rest =>
    (if first then [] else [',', ' ']) ++ Text.quoted name ++ [':', ' '] ++ inner d ++
      innerFields false rest

end

def cellText : Document → Text
  | .null => []
  | .text t => t
  | d => inner d

def field (name : Text) (d : Document) : Except Misfit Document :=
  match d with
  | .fields all =>
    match Document.find? name all with
    | some v => .ok v
    | none => .error (.missing name)
  | _ => .error .kind

/-- The members of a value; a text has its characters as members. -/
def members : Document → Except Misfit (List Document)
  | .items all => .ok all
  | .text t => .ok (t.map (fun c => .text [c]))
  | .fields all => .ok (all.map (fun (name, _) => .text name))
  | _ => .error .kind

def textOf : Document → Except Misfit Text
  | .text t => .ok t
  | _ => .error .kind

def barred (d : Document) : Except Misfit Text := do
  let texts ← (← members d).mapM textOf
  return Text.joined ['|'] texts

def barredTargets (graph : Document) : Except Misfit Text := do
  let edges ← members (← field "edges" graph)
  let targets ← edges.mapM (field "to")
  return Text.joined ['|'] (← targets.mapM textOf)

def cells (report : Document) : Except Misfit (List Text) := do
  let domain ← field "domain" report
  let base ← field "base_domain" report
  let record ← field "record" report
  let isValid ← field "valid" report
  let front := [cellText domain, cellText base, cellText isValid, cellText record]
  match field "error" report with
  | .ok message => return front ++ [[], [], cellText message, [], []]
  | .error _ =>
    let lookups ← field "dns_lookups" report
    let problems ← barred (← field "problems" report)
    let warnings ← barred (← field "warnings" report)
    let targets ← barredTargets (← field "graph" report)
    return front ++ [cellText lookups, targets, [], problems, warnings]

def ofDocument (d : Document) : Except Misfit Text := do
  let reports ← match d with
    | .fields all => pure [Document.fields all]
    | other => members other
  let rows ← reports.mapM cells
  return (row header :: rows.map row).flatten

end SenderPolicy.Table
