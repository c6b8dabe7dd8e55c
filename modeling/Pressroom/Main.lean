import Pressroom.Command

/-!
The program: the command line on the disk of the machine. It has no network, so that what is not on
the disk stays where it is.
-/

namespace Pressroom

def FileFault.ofNumber (number : UInt32) (message : String) : FileFault :=
  match (if number < 4096 then number else 0 - number).toNat with
  | 2 => .notFound
  | 17 => .alreadyExists
  | 20 => .notFolder
  | 21 => .isFolder
  | 36 => .nameTooLong
  | _ => .other message

def FileFault.ofError (error : IO.Error) : FileFault :=
  match error with
  | .noFileOrDirectory _ number _ | .alreadyExists _ number _ | .inappropriateType _ number _
  | .invalidArgument _ number _ => .ofNumber number error.toString
  | error => .other error.toString

def attempt {α : Type} (step : IO α) : IO (Except FileFault α) := do
  try return .ok (← step)
  catch error => return .error (.ofError error)

def machineDisk : Disk IO where
  read path := attempt (IO.FS.readBinFile path.toString)
  isFolder path := attempt do
    return (← ((← IO.currentDir) / path.toString).metadata).type == .dir
  makeFolder path := attempt (IO.FS.createDir path.toString)
  write path bytes := attempt (IO.FS.writeBinFile path.toString bytes)

def noNetwork : Inline.Fetcher IO := fun url =>
  return .error (.failed s!"connection refused: {url}")

end Pressroom

/-- One run of the command; what it says goes to the error stream. -/
def main (arguments : List String) : IO UInt32 := do
  let outcome ← Pressroom.Command.run Pressroom.machineDisk Pressroom.noNetwork
    Pressroom.Inline.MediaGuess.common "forge" arguments
  for line in outcome.lines do
    IO.eprintln line
  return outcome.exitCode.toUInt32
