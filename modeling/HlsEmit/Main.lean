import HlsEmit.CommandLine.Run

/-! # The program

The command line on the files, the environment and the streams of the system.
-/

namespace HlsEmit

/-- The reason behind an error of the system. Error numbers come with either
    sign, depending on the operation. -/
def FileError.ofSystem (failure : IO.Error) : FileError :=
  let number (code : UInt32) : UInt32 := min code (0 - code)
  match failure with
  | .noFileOrDirectory .. => .notFound
  | .inappropriateType _ code _ => if number code = 20 then .notDirectory else .isDirectory
  | .invalidArgument _ code _ =>
      if number code = 36 then .nameTooLong else .other (toString failure)
  | _ => .other (toString failure)

def systemFiles : FileAccess IO where
  read path := do
    match ← (IO.FS.readBinFile path).toBaseIO with
    | .error failure => return .error (.ofSystem failure)
    | .ok bytes =>
        match String.fromUTF8? bytes with
        | none => return .error .notText
        | some text => return .ok text
  write path text := do
    match ← (IO.FS.writeFile path text).toBaseIO with
    | .error failure => return .error (.ofSystem failure)
    | .ok () => return .ok ()

end HlsEmit

/-- Run the command line. -/
def main (arguments : List String) : IO UInt32 := do
  let environment ← IO.getEnv "RUST_LOG"
  let outcome ← HlsEmit.CommandLine.run HlsEmit.systemFiles environment arguments
  IO.print outcome.stdout
  IO.eprint outcome.stderr
  return outcome.exitCode
