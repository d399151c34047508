import SenderPolicy.CommandLine
import SenderPolicy.Dns.Resolver

/-!
The program. It has no network: every question over the wire fails, so that only records given as
arguments can be looked into. Nor has it a list of public suffixes.
-/
namespace SenderPolicy

def deadWire : Dns.Wire Unit := fun _ _ s => (.failed .dns "There is no network.", s)

def resolverOf (s : Settings) (i : CommandLine.Invocation) : Dns.Resolver :=
  { i.resolver with
    cache := { capacity := s.resolverCacheLength.toNat, age := s.resolverCacheAge } }

def runOver {α : Type} (wire : Dns.Wire Unit) (now : Int) (r : Dns.Resolver) (p : Dns.Plan α) : α :=
  (p.run (fun q r => let (reply, r, _) := Dns.Resolver.reply wire now q r (); (reply, r)) r).1

def readEnvironment : List Text → IO (List (Text × Text))
  | [] => return []
  | name :: rest => do
    let value ← IO.getEnv (String.ofList name)
    let others ← readEnvironment rest
    return (value.toList.map (fun t => (name, t.toList))) ++ others

def complain (t : Text) : IO Unit := IO.eprintln (String.ofList t)

def existsPath (path : String) : IO Bool := do
  try
    let _ ← IO.FS.realPath path
    return true
  catch _ => return false

def readList (i : CommandLine.Invocation) : IO CommandLine.Invocation := do
  match i.listName? with
  | none => return i
  | some name =>
    let path := String.ofList name
    if ← existsPath path then
      return { i with command := i.command.withList (← IO.FS.readFile path).toList }
    else return i

def present (o : CommandLine.Outcome) : IO Unit := do
  IO.print (String.ofList o.screen)
  for (path, contents) in o.files do
    IO.FS.writeFile (String.ofList path) (String.ofList contents)
  for t in o.complaints do
    complain t

/-- Carries out an invocation; a failure ends the program with the code 1. -/
def carryOut (s : Settings) (i : CommandLine.Invocation) : IO UInt32 := do
  if i.options.isDebugging then complain "DEBUG: Debug output enabled"
  let i ← readList i
  let now := Int.ofNat ((← IO.monoMsNow) / 1000)
  match runOver (i.wire deadWire) now (resolverOf s i) (i.plan [] now) with
  | .error f =>
    complain f.message
    return 1
  | .ok outcome =>
    present outcome
    return 0

def runProgram (arguments : List Text) : IO UInt32 := do
  let environment ← readEnvironment Settings.variableNames
  match Settings.ofEnvironment (fun name => environment.lookup name) with
  | .error f =>
    complain f.message
    return 1
  | .ok s =>
    match CommandLine.Invocation.ofArguments arguments with
    | .error stop =>
      IO.print (String.ofList stop.screen)
      if !stop.errorLine.isEmpty then complain stop.errorLine
      return stop.code.toUInt32
    | .ok i => carryOut s i

end SenderPolicy

def main (arguments : List String) : IO UInt32 :=
  SenderPolicy.runProgram (arguments.map String.toList)
