import SqlWriter.CommandLine.Run

/-! The program: it reads what a run needs and prints what the run leaves behind. -/

namespace SqlWriter

/-- The number of a system error, which may come with its sign turned around. -/
def systemNumber (code : UInt32) : UInt32 :=
  if code < 0x80000000 then code else 0 - code

/-- The fault behind an error of the file system. -/
def faultOfError : IO.Error → FileFault
  | .noFileOrDirectory .. => .notFound
  -- One kind of error covers both sides of taking a file for a directory.
  | .inappropriateType _ code _ => if systemNumber code = 20 then .notDirectory else .isDirectory
  | .invalidArgument _ code reason =>
    if systemNumber code = 36 then .nameTooLong else .other reason
  | error => .other (toString error)

/-- The contents of the file at a path. -/
def readFileText (path : Text) : IO (Except FileFault Text) := do
  try
    let contents ← IO.FS.readFile (String.ofList path)
    return .ok contents.toList
  catch error =>
    return .error (faultOfError error)

/-- The path of the user's own settings document. -/
def userConfigPath : IO (Option Text) := do
  let file := "/sql-stringify/config.toml".toList
  match ← IO.getEnv "XDG_CONFIG_HOME", ← IO.getEnv "HOME" with
  | some folder, home =>
    if folder.startsWith "/" then return some (folder.toList ++ file)
    else return home.map fun home => home.toList ++ "/.config".toList ++ file
  | none, home => return home.map fun home => home.toList ++ "/.config".toList ++ file

/-- The variable of the environment with a name. -/
def environmentText (name : String) : IO (Option Text) := do
  return (← IO.getEnv name).map String.toList

end SqlWriter

open SqlWriter in
/-- Runs the program on its arguments. -/
def main (arguments : List String) : IO UInt32 := do
  let arguments := arguments.map String.toList
  let configVariable ← environmentText "SQL_STRINGIFY_CONFIG"
  let colorVariable ← environmentText "CLICOLOR_FORCE"
  let userConfig ← userConfigPath
  let given := match Invocation.ofArguments configVariable arguments with
    | .ok invocation => invocation.config
    | .error _ => none
  -- Every file that the run can look at is read before it.
  let paths := given.toList ++ [localConfig] ++ userConfig.toList
  let files ← paths.mapM fun path => return (path, ← readFileText path)
  let input ←
    if arguments.contains ['-'] then pure (← (← IO.getStdin).readToEnd).toList else pure []
  let outcome := runArguments
    { input := input
      configVariable := configVariable
      colorVariable := colorVariable
      userConfig := userConfig
      contents := fun path => (files.lookup path).getD (.error .notFound) }
    arguments
  IO.print (String.ofList outcome.output)
  IO.eprint (String.ofList outcome.errors)
  return outcome.exitCode
