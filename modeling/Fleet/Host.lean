import Fleet.Outside

/-!
# The host

What the program asks of the machine it runs on: to write log lines and text, to read the clock
and to keep files. Paths are texts in which a slash parts the names.
-/

namespace Fleet

/-- What writing a file comes to. -/
inductive WriteOutcome where
  | written
  /-- The file could not be opened. -/
  | notOpened
  /-- The file was opened, but its content could not be written. -/
  | notWritten
  deriving DecidableEq, Repr

/-- A question to the host. -/
inductive HostRequest where
  /-- Write a log line. -/
  | log (entry : LogEntry)
  /-- Write to the standard output. -/
  | print (text : String)
  /-- Read the clock, in milliseconds. -/
  | clock
  /-- Create a folder and those it lies in. -/
  | createFolders (path : String)
  /-- Whether a folder exists. -/
  | isFolder (path : String)
  /-- Make a file with the given content, replacing one that exists. -/
  | write (path data : String)
  /-- Where a path leads from the root. -/
  | absolute (path : String)

/-- The host. -/
@[reducible] def host : Interface where
  Question := HostRequest
  Answer
    | .log _ | .print _ => Unit
    | .clock => Int
    | .createFolders _ => Except String Unit
    | .isFolder _ => Bool
    | .write .. => WriteOutcome
    | .absolute _ => String

/-- A conversation with the host. -/
abbrev Hosted := Session host

namespace Host

/-- Ask the host. -/
def ask (question : HostRequest) : Hosted (host.Answer question) :=
  Session.query (Q := host) question

/-- Write a log line. -/
def log (level : LogLevel) (trace component event message : String) : Hosted Unit :=
  ask (.log { level, trace, component, event, message })

end Host

/-- Whether a path starts at the root. -/
def isAbsolutePath (path : String) : Bool :=
  path.startsWith "/"

/-- A path continued by another; one that starts at the root stands for itself. -/
def joinPath (path more : String) : String :=
  if isAbsolutePath more || path.isEmpty then more
  else if path.endsWith "/" then path ++ more
  else path ++ "/" ++ more

end Fleet
