import RouteLoom.CommandLine.Answer

/-!
# The command line tool
-/

namespace RouteLoom

def fileFault : IO.Error → FileFault
  | .noFileOrDirectory .. => .absent
  | .unexpectedEof => .reported "unexpected end of file"
  | .userError text => .reported text
  | .alreadyExists _ code details | .invalidArgument _ code details
  | .permissionDenied _ code details | .resourceExhausted _ code details
  | .inappropriateType _ code details | .noSuchThing _ code details
  | .interrupted _ code details | .otherError code details | .resourceBusy code details
  | .resourceVanished code details | .unsupportedOperation code details
  | .hardwareFault code details | .unsatisfiedConstraints code details
  | .illegalOperation code details | .protocolError code details | .timeExpired code details =>
    .reported (details ++ " (os error " ++ toString code ++ ")")

def readContent (file : String) : IO FileContent := do
  try
    return .ok (← IO.FS.readBinFile file)
  catch e =>
    return .error (fileFault e)

def runTool (args : List String) : IO UInt32 := do
  let request := Request.parse args
  let content ← match request.file? with
    | some file => readContent file
    | none => pure (.error .absent)
  let answer := Answer.ofRequest content request
  IO.print answer.out
  IO.eprint answer.err
  return answer.exit.toUInt32

end RouteLoom

def main (args : List String) : IO UInt32 := RouteLoom.runTool args
