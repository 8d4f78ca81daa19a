import Fleet.Host

/-!
# Log stores

Keeps each log in a file of its own. A file is named for its log, with a number that grows from
log to log, in 32 bits; characters that do not belong into a file name are replaced byte by byte, so
a name never leads out of the folder of the store.
-/

namespace Fleet

/-- A folder for logs. -/
structure LogStore where
  folder : String
  /-- The number of the next log. -/
  next : UInt32 := 0
  deriving DecidableEq, Repr

namespace LogStore

/-- Whether a character may stand in a file name. -/
def isPlain (c : Char) : Bool :=
  c.isAlphanum || c = '-' || c = '_' || c = '.'

/-- A character in a file name: itself, or one underscore for each byte of it. -/
def plainForm (c : Char) : List Char :=
  if isPlain c then [c] else List.replicate c.utf8Size '_'

/-- The name of a log in the name of its file. -/
def stem (log : String) : String :=
  String.ofList ((if log.isEmpty then "log" else log).toList.flatMap plainForm)

/-- How the name of a file of this kind ends. -/
def ending : LogKind → String
  | .text | .logcat | .bugreport => "txt"
  | .png => "png"
  | .zip => "zip"
  | .unknown => "dat"

/-- The name of the file for the log with a number. -/
def fileName (log : String) (kind : LogKind) (number : Nat) : String :=
  stem log ++ "_" ++ toString number ++ "." ++ ending kind

/-- The path of the file for the next log. -/
def nextPath (store : LogStore) (log : String) (kind : LogKind) : String :=
  joinPath store.folder (fileName log kind store.next.toNat)

/-- An error of the store. -/
def failure (code : Int) (message : String) : TaskError :=
  { category := .internal, code, message, origin := "log_saver" }

/-- Keep a log. A number is used up once the folder exists, whether or not the file can be
written. -/
def save (store : LogStore) (log : String) (kind : LogKind) (data : String) :
    Hosted (Except TaskError LogFile × LogStore) := do
  match ← Host.ask (.createFolders store.folder) with
  | .error reason =>
    let message := "Cannot create log dir " ++ store.folder ++ ": " ++ reason
    return (.error (failure 501 message), store)
  | .ok () =>
    let path := store.nextPath log kind
    let after := { store with next := store.next + 1 }
    match ← Host.ask (.write path data) with
    | .notOpened => return (.error (failure 502 ("Cannot open " ++ path ++ " for writing")), after)
    | .notWritten => return (.error (failure 503 ("Failed writing " ++ path)), after)
    | .written =>
      Host.log .debug log "log_saver" "log_saved"
        ("Saved " ++ kind.label ++ " log to " ++ path)
      let file : LogFile :=
        { path, url := "file://" ++ (← Host.ask (.absolute path)),
          isText := kind = .text || kind = .logcat || kind = .bugreport,
          isCompressed := kind = .zip }
      return (.ok file, after)

end LogStore

end Fleet
