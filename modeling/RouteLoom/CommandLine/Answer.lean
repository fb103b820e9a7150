import RouteLoom.Assembly.Assembler
import RouteLoom.CommandLine.Arguments
import RouteLoom.Format.Context
import RouteLoom.Route.Outline

/-!
# What the command line answers

A file is loaded as a context, and what is printed for it is a function of its bytes. The exit code
is zero on success, one if the command fails or validation finds an error, and two for arguments
that ask for nothing sensible. The log, whose lines carry the time, is not part of the answer, and
of what is said about misuse only the first paragraph is: the usage and the tips behind it are those
of a library.
-/

namespace RouteLoom

/-- The bytes of a file, or why there are none. -/
abbrev FileContent := Except FileFault ByteArray

def Context.load (content : FileContent) : Except Fault Context :=
  match content with
  | .error f => .error (.file f)
  | .ok bytes =>
    match String.fromUTF8? bytes with
    | some source => Context.parse source
    | none => .error (.file .undecodable)

structure Answer where
  exit : Nat
  out : String
  err : String
deriving DecidableEq, Repr

namespace Answer

def success (out : String) : Answer := ⟨0, out, ""⟩

/-- A cause, set in by its number if it has one. All its lines are set in alike. -/
def causeText (number : Option Nat) (cause : String) : String :=
  let lines := cause.splitOn "\n"
  match number with
  | none => "\n    " ++ "\n    ".intercalate lines
  | some n => "\n" ++ "".pushn ' ' (5 - (toString n).length) ++ toString n ++ ": "
    ++ "\n       ".intercalate lines

/-- What lies behind a fault, as it follows its message. A single cause has no number. -/
def causesText : List String → String
  | [] => ""
  | [cause] => "\n\nCaused by:" ++ causeText none cause
  | causes => "\n\nCaused by:" ++ String.join (causes.zipIdx.map fun (cause, i) =>
      causeText (some i) cause)

def failure (f : Fault) : Answer := ⟨1, "", "Error: " ++ f.message ++ causesText f.sources ++ "\n"⟩

def refusal (err : String) : Answer := ⟨2, "", err⟩

def line (parts : List String) : String := String.join parts ++ "\n"

/-! ### Weaving -/

def reportText (r : Report) : String :=
  (match r.points.current with
    | some a => line ["  (insertion point ", a.text, ")"]
    | none => "")
  ++ if 0 < r.dropped then line ["  (WARNING: ", toString r.dropped, " node(s) dropped)"] else ""

def routeText (a : Assembled) (r : Route) : String :=
  "\n" ++ r.render ++ match a.report? r.id with
    | some report => reportText report
    | none => ""

def assembledText (a : Assembled) : String :=
  line ["Context: ", a.id]
  ++ (match a.errorHandler with
    | some handler => line ["Error handler: ", handler]
    | none => "")
  ++ String.join (a.routes.map (routeText a))

def weave (json lenient : Bool) (c : Context) : Answer :=
  let c := if lenient then { c with options := .lenient } else c
  match (c.assemble []).outcome with
  | .error f => failure f
  | .ok a =>
    success (if json then (Json.array (a.routes.map Route.toJson)).pretty ++ "\n"
      else assembledText a)

/-! ### Validating -/

def severityText : Severity → String
  | .error => "ERROR"
  | .warning => "WARN"
  | .info => "INFO"

def findingText (f : Finding) : String :=
  line ["[", severityText f.severity, "] ", f.rule.name, ": ", f.message]
  ++ match f.fix with
    | some fix => line ["        fix: ", fix]
    | none => ""

def validate (c : Context) : Answer :=
  match c.findings with
  | [] => success "Context is valid\n"
  | findings =>
    { exit := if findings.any fun f => f.severity = .error then 1 else 0
      out := String.join (findings.map findingText)
      err := "" }

/-! ### Showing -/

def interceptText (i : Intercept) : String :=
  line ["  ", i.id, " outputs=", toString i.template.length, " proceed_markers=",
    toString (Forest.markerCount i.template), " requires=", toString i.requirements.length]

/-- The id under which a route is shown: its own, or its place in parentheses. -/
def shownId (r : Route) (i : Nat) : String :=
  if r.id = "" then "(route" ++ toString (i + 1) ++ ")" else r.id

def info (c : Context) : Answer :=
  success <| String.join [
    line ["Context: ", c.id],
    line ["Beans: ", toString c.beans.size],
    line ["Exception clauses: ", toString c.clauses.length],
    line ["Intercepts: ", toString c.intercepts.length],
    line ["Routes: ", toString c.routes.length],
    match c.trace with
      | some trace => line ["Trace: ", if trace then "true" else "false"]
      | none => "",
    match c.delay with
      | some delay => line ["Delay: ", toString delay, "ms"]
      | none => "",
    if c.intercepts.isEmpty then ""
      else "\nIntercepts (innermost first):\n" ++ String.join (c.intercepts.map interceptText),
    "\nRoutes:\n",
    String.join (c.routes.zipIdx.map fun (r, i) =>
      line ["  ", shownId r i, " outputs=", toString r.outputs.length])]

/-! ### Help -/

def helpText : Option Verb → String
  | none =>
    "Assemble message routes with woven intercepts\n\n"
    ++ "Usage: routeweave [OPTIONS] <COMMAND>\n\n"
    ++ "Commands:\n"
    ++ "  weave     Assemble every route of a context file and print the woven trees\n"
    ++ "  validate  Validate a context file\n"
    ++ "  info      Show information about a context file\n"
    ++ "  help      Print this message or the help of the given subcommand(s)\n\n"
    ++ "Options:\n"
    ++ "  -v, --verbose  Enable verbose logging\n"
    ++ "  -h, --help     Print help\n"
    ++ "  -V, --version  Print version\n"
  | some .weave =>
    "Assemble every route of a context file and print the woven trees\n\n"
    ++ "Usage: routeweave weave [OPTIONS] <DEFINITION>\n\n"
    ++ "Arguments:\n"
    ++ "  <DEFINITION>  Path to the context .json file\n\n"
    ++ "Options:\n"
    ++ "      --json                   Print the assembled routes as JSON instead of a tree\n"
    ++ "      --allow-missing-proceed  Drop the wrapped outputs of intercepts without a proceed "
    ++ "marker instead of failing\n"
    ++ "  -v, --verbose                Enable verbose logging\n"
    ++ "  -h, --help                   Print help\n"
  | some .validate =>
    "Validate a context file\n\n"
    ++ "Usage: routeweave validate [OPTIONS] <DEFINITION>\n\n" ++ fileHelp
  | some .info =>
    "Show information about a context file\n\n"
    ++ "Usage: routeweave info [OPTIONS] <DEFINITION>\n\n" ++ fileHelp
where
  fileHelp : String :=
    "Arguments:\n"
    ++ "  <DEFINITION>  Path to the context .json file\n\n"
    ++ "Options:\n"
    ++ "  -v, --verbose  Enable verbose logging\n"
    ++ "  -h, --help     Print help\n"

/-! ### All requests -/

def ofVerb (json lenient : Bool) : Verb → Context → Answer
  | .weave => weave json lenient
  | .validate => validate
  | .info => info

/-- The answer to a request, where `content` is what the file that it names holds. -/
def ofRequest (content : FileContent) : Request → Answer
  | .run verb _ json lenient =>
    match Context.load content with
    | .ok c => ofVerb json lenient verb c
    | .error f => failure f
  | .version => success "routeweave 0.5.0\n"
  | .help topic => success (helpText topic)
  | .nothing => refusal (helpText none)
  | .misuse m => refusal ("error: " ++ m.message ++ "\n")

end Answer

def Request.file? : Request → Option String
  | .run _ file _ _ => some file
  | _ => none

end RouteLoom
