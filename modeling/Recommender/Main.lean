import Recommender.Http.App

/-!
# The service as a program

The service is built from the variables of its environment, keeps its rules in memory, and answers
the requests on the lines of standard input.  A line holds a method, a target and, behind them, a
body in JSON; the answer is the status and the content of the response.
-/

namespace Recommender

/-- The variables of the environment that set settings. -/
def readEnvironment : IO (List (String × String)) :=
  Settings.names.filterMapM fun name => do
    let value ← IO.getEnv (Settings.variableOf name)
    return value.map fun v => (Settings.variableOf name, v)

/-- The request that a line describes. -/
def requestOfLine (line : String) : Except Failure Http.Request :=
  let words := (textOfCharacters line.trimAscii.toString).splitOn " "
  Http.Request.compose ⟨"http", "localhost", none⟩ (words.headD "") (words.getD 1 "/")
    [("Content-Type", "application/json")] (" ".intercalate (words.drop 2))

/-- Answer the requests on the lines of a stream. -/
partial def serve (input output : IO.FS.Stream) (number : Nat) (app : Http.App) : IO Unit := do
  let line ← input.getLine
  if line.isEmpty then return
  match requestOfLine line with
  | .error _ =>
    output.putStrLn "400 "
    output.flush
    serve input output (number + 1) app
  | .ok request =>
    let (answer, app) := app.respond { request, freshId := toString number }
    output.putStrLn (toString answer.response.status ++ " " ++ answer.response.content.text)
    output.flush
    serve input output (number + 1) app.settle

/-- Start the service on standard input and output. -/
def runService : IO UInt32 := do
  match Settings.forRecommendations (← readEnvironment) with
  | .error e =>
    IO.eprintln ("the service cannot be built: " ++ e.text)
    return 1
  | .ok settings =>
    let revision := (← IO.getEnv "GIT_COMMIT").getD "unknown"
    serve (← IO.getStdin) (← IO.getStdout) 1 (Http.App.start settings .memory revision {})
    return 0

end Recommender

/-- The program. -/
def main : IO UInt32 :=
  Recommender.runService
