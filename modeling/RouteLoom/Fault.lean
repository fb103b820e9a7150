import RouteLoom.Json.Fault
import RouteLoom.Tree.Address

/-!
# Faults

Everything that can go wrong between a context's text and its assembled routes. A fault is terminal
if the same input will fail again whatever the surroundings do; files and texts may be mended, so
their faults are not.
-/

namespace RouteLoom

inductive FileFault
  | absent
  /-- The file's bytes are no UTF-8 text. -/
  | undecodable
  | reported (text : String)
deriving DecidableEq, Repr

def FileFault.message : FileFault → String
  | .absent => "No such file or directory (os error 2)"
  | .undecodable => "stream did not contain valid UTF-8"
  | .reported text => text

/-- What is said of a text that does not bind. Where the text itself is at fault, the words are only
those of its category, and the place in the text is not told. -/
def JsonFault.message : JsonFault → String
  | .incomplete => "unexpected end of the text"
  | .malformed => "the text is not JSON"
  | .mismatch m => m.message

inductive Fault
  | configuration (intercept message : String)
  | missingProceed (route intercept : String)
  | dependencyNotFound (lookup : String)
  | ambiguousDependency (type : String) (candidates : List String)
  | validation (text : String)
  | invalidAddress (route : String) (address : Address)
  | assembly (route : String) (cause : Fault)
  | file (fault : FileFault)
  | json (fault : JsonFault)
  | other (text : String)
deriving DecidableEq, Repr

namespace Fault

def message : Fault → String
  | .configuration intercept message =>
    "Intercept '" ++ intercept ++ "' could not be prepared: " ++ message
  | .missingProceed route intercept =>
    "Proxy for intercept '" ++ intercept ++ "' on route '" ++ route
      ++ "' has no proceed marker; the wrapped outputs would be unreachable"
  | .dependencyNotFound lookup => "No bean found for " ++ lookup
  | .ambiguousDependency type candidates =>
    "Ambiguous lookup for type '" ++ type ++ "': " ++ toString candidates.length ++ " candidates ("
      ++ ", ".intercalate candidates ++ ")"
  | .validation text => "Route definition validation failed: " ++ text
  | .invalidAddress route address =>
    "Node path " ++ address.listed ++ " does not resolve on route '" ++ route ++ "'"
  | .assembly route cause => "Route '" ++ route ++ "' failed to assemble: " ++ cause.message
  | .file fault => "IO error: " ++ fault.message
  | .json fault => "JSON error: " ++ fault.message
  | .other text => text

def isTerminal : Fault → Bool
  | .assembly _ cause => cause.isTerminal
  | .file _ | .json _ | .other _ => false
  | _ => true

def route : Fault → Option String
  | .missingProceed route _ | .invalidAddress route _ | .assembly route _ => some route
  | _ => none

/-- The messages of what lies behind a fault, nearest first. -/
def sources : Fault → List String
  | .assembly _ cause => cause.message :: cause.sources
  | .file fault => [fault.message]
  | .json fault => [fault.message]
  | _ => []

end Fault

end RouteLoom
