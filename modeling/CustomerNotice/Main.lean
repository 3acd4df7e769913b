import CustomerNotice.Log.Line
import CustomerNotice.Program
import CustomerNotice.Sink.Bounded

/-!
The command: it takes the variables and the settings files from the system, runs the program, and
hands what came of it to the two outputs of the process. Arguments have no meaning.
-/

namespace CustomerNotice
namespace Command

def variablesFile : String := "/proc/self/environ"

def readFile? (path : String) : IO (Option Bytes) := do
  try
    return some (← IO.FS.readBinFile path).toList
  catch _ => return none

def readVariables : IO Variables := do
  return Variables.ofBlock ((← readFile? variablesFile).getD [])

def fileNames : List String :=
  [Loading.baseStem, Environment.development.name, Environment.production.name].flatMap fun stem =>
    stem :: Format.extensions.map fun (extension, _) => stem ++ "." ++ extension

def hasDirectory : IO Bool := do
  try
    let _ ← IO.currentDir
    return true
  catch _ => return false

def readFiles : IO Files := do
  let mut files := { Files.empty with present := ← hasDirectory }
  for name in fileNames do
    match ← readFile? (Files.settingsFolder ++ "/" ++ name) with
    | some content => files := files.put [Files.settingsFolder, name] (.file content)
    | none => pure ()
  return files

def failureOf (error : IO.Error) : IoError :=
  let ofCode (code : UInt32) : IoError :=
    ((OsError.ofCode? code.toNat).map IoError.os).getD (.plain .other)
  match error with
  | .resourceVanished code _ => ofCode code
  | .resourceExhausted _ code _ => ofCode code
  | _ => .plain .other

/-- Hands octets to the standard output; the failure if it does not take them. -/
def printAll (bytes : Bytes) : IO (Option IoError) := do
  try
    let output ← IO.getStdout
    output.write bytes.toByteArray
    output.flush
    return none
  catch error => return some (failureOf error)

def drawId : IO String := do
  let bytes := (← IO.getRandomBytes 16).toList
  let digits := bytes.flatMap fun byte =>
    let digits := Nat.toDigits 16 byte.toNat
    List.replicate (2 - digits.length) '0' ++ digits
  let digits := (digits.set 12 '4').set 16 'a'
  let part (start count : Nat) : String := String.ofList ((digits.drop start).take count)
  return "-".intercalate [part 0 8, part 8 4, part 12 4, part 16 4, part 20 12]

end Command
end CustomerNotice

open CustomerNotice in
def main : IO UInt32 := do
  let exported ← Command.readVariables
  let files ← Command.readFiles
  let started ← IO.monoMsNow
  let wished := Program.run Patterns.words files exported BoundedSink.sink (.start .unlimited)
  let exit ←
    match ← Command.printAll wished.outlet.output with
    | none => pure wished
    | some error =>
        pure (Program.run Patterns.words files exported BoundedSink.sink (.start (.refusing error)))
  let circumstances : Circumstances := ⟨← Command.drawId, (← IO.monoMsNow) - started⟩
  for record in exit.records do
    IO.eprint (record.line circumstances)
  match exit.report with
  | some report => IO.eprint report
  | none => pure ()
  return UInt32.ofNat exit.status
