import Autoscaler.CommandLine.Run
import Std.Time

/-!
# The program

Reads what a run starts from, and puts what it leaves where it belongs: the files that the command
line names, the console, and the exit code.
-/

namespace Autoscaler

namespace Main

/-- The string that shows a text. A surrogate shows as the escape that stands for it. -/
def shown (s : Text) : String :=
  let escaped := s.flatMap fun c =>
    if c.isSurrogate then ("\\u" : Text) ++ Text.hex 4 c.val else [c]
  String.ofList (escaped.filterMap CodePoint.toChar?)

/-- The current time, as log lines show it. -/
def now : IO Text := do
  let t ← Std.Time.PlainDateTime.now
  let two := fun (n : Int) => Text.padded 2 n.toNat
  let date := Text.join "-" [Text.ofInt t.year.toInt, two t.month.val, two t.day.val]
  let time := Text.join ":" [two t.hour.val, two t.minute.val, two t.second.val]
  return date ++ (" " : Text) ++ time

/-- What stands at a path. -/
def entryAt? (path : Path) : IO (Option Entry) := do
  try
    return some (.file (← IO.FS.readBinFile (shown path.text)).toList)
  catch
    | .noFileOrDirectory .. => return none
    | _ => return some .directory

/-- The files at some paths. -/
def filesAt : List Path → IO Files
  | [] => return []
  | path :: paths => do
      let files ← filesAt paths
      match ← entryAt? path with
      | none => return files
      | some e => return files.put (Files.lexical path).reverse e

/-- The paths that a command line names. -/
def namedPaths (args : List Text) : List Path :=
  match (Request.ofArguments args).result with
  | .ok r => r.configFile?.toList ++ r.logFile?.toList
  | .error _ => []

/-- Writes the files that a run has changed. -/
def save (before after : Files) : IO Unit :=
  for (names, e) in after do
    match e with
    | .directory => pure ()
    | .file bytes =>
        if before.lookup names ≠ some e then
          let parent := names.dropLast
          if parent ≠ [] then IO.FS.createDirAll (shown (Text.join "/" parent))
          IO.FS.writeBinFile (shown (Text.join "/" names)) ⟨bytes.toArray⟩

/-- Shows why a run has no exit code, or that its command line is not understood. -/
def report (outcome : Outcome) (stderr : IO.FS.Stream) : IO Unit :=
  match outcome with
  | .exit _ => pure ()
  | .usage e => stderr.putStrLn ("Error: " ++ shown e.message)
  | .crash .tooDeep => stderr.putStrLn (shown ParamsError.tooDeep.message)
  | .crash (.logging e) => stderr.putStrLn (shown e.message)
  | .crash (.load e) => stderr.putStrLn (shown (e.message {}))
  | .crash (.display e) => stderr.putStrLn (shown e.message)

end Main

end Autoscaler

open Autoscaler in
/-- Runs the command line that the program is started with. -/
def main (args : List String) : IO UInt32 := do
  let args := args.map Text.ofString
  let podNamespace ← IO.getEnv "MY_POD_NAMESPACE"
  let environment := podNamespace.toList.map fun s =>
    (Environment.namespaceVariable, Text.ofString s)
  let consoleWidth := ((← IO.getEnv "COLUMNS").bind String.toNat?).getD 80
  let files ← Main.filesAt (Main.namedPaths args)
  let stamp : Stamp := ⟨← Main.now, "autoscaler"⟩
  let run := Invocation.run { environment, screen.width := consoleWidth, args, files, stamp }
  let stderr ← IO.getStderr
  for r in run.early do stderr.putStr (Main.shown (r.line .initial stamp))
  for r in run.records do stderr.putStr (Main.shown (r.line .configured stamp))
  (← IO.getStdout).putStr (Main.shown run.output)
  Main.save files run.files
  Main.report run.outcome stderr
  return (run.outcome.exitCode?.getD 1).toUInt32
