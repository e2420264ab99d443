/-
  CodecForge — loading declarations.

  Declarations are loaded as JSON from a file or from the answer to a request.

  * `Reply` is what came of a request;
  * `loadJson` gives the value with a description of its source, or a
    `LoadError`, and the log of what was noted on the way;
  * `loadDeclarations` goes on to declarations.
-/
import CodecForge.Declaration
import CodecForge.Obstacle
import CodecForge.Text.Encoding
import CodecForge.Url

namespace CodecForge

/-! ## Logs -/

/-- How serious a record is. -/
inductive LogLevel where
  | debug
  | info
  | warning
  | error
  | critical
  | notSet
deriving DecidableEq, Repr

namespace LogLevel

def number : LogLevel → Nat
  | notSet => 0
  | debug => 10
  | info => 20
  | warning => 30
  | error => 40
  | critical => 50

/-- The level with a name, in any letter case; two levels have a second name. -/
def ofName? (name : String) : Option LogLevel :=
  match String.ofList (name.toList.flatMap Text.upperChar) with
  | "DEBUG" => some debug
  | "INFO" => some info
  | "WARNING" | "WARN" => some warning
  | "ERROR" => some error
  | "CRITICAL" | "FATAL" => some critical
  | "NOTSET" => some notSet
  | _ => none

end LogLevel

/-- The name of a logger: names outside the package are put below it. -/
def loggerName (name : String) : String :=
  if name = "autocodable" || "autocodable.".toList.isPrefixOf name.toList then name
  else "autocodable." ++ name

/-- A record of a log. -/
structure LogRecord where
  level : LogLevel
  text : String
deriving DecidableEq, Repr

/-! ## Requests -/

/-- Why a request brought no answer. -/
inductive RequestFault where
  | timeout
  | connection
  /-- a bad status, reported by the request itself, perhaps without the answer that had it -/
  | status (code : Option Int)
  /-- an answer that is no JSON, reported by the request itself -/
  | unreadable
  | other
deriving DecidableEq, Repr

/-- What came of a request. -/
inductive Reply where
  | failed (fault : RequestFault) (detail : String)
  | answered (status : Int) (contentType : Option String) (body : String)
deriving DecidableEq, Repr

/-! ## Errors -/

/-- Why nothing is loaded. -/
inductive LoadError where
  | noSource
  | twoSources
  | fileNotFound (path : String)
  | fileJson (path : String) (e : Json.ReadError)
  | fileSystem (path : String) (e : SystemError)
  | badUrl (url : String)
  | timeout (url : String)
  | connection (url detail : String)
  | status (code : Int) (url : String)
  | urlJson (url : String) (e : Json.ReadError)
  | unreadable (url detail : String)
  | request (url detail : String)
  | obstacle (o : Obstacle)
  | declarations (source : String) (e : DeclarationError)
deriving DecidableEq, Repr

namespace LoadError

/-- What a caller can tell errors apart by. -/
inductive Kind where
  | loader
  /-- what is loaded declares nothing; whoever expects `loader` gets these too -/
  | declarations
  | missingFile
  | obstacle
deriving DecidableEq, Repr

def kind : LoadError → Kind
  | fileNotFound _ => .missingFile
  | obstacle _ => .obstacle
  | declarations .. => .declarations
  | _ => .loader

/-- The text of an error. -/
def message : LoadError → String
  | noSource => "Either file_path or url must be provided"
  | twoSources => "Cannot specify both file_path and url"
  | fileNotFound path => s!"File not found: {path}"
  | fileJson path e => s!"Invalid JSON in file {path}: {e.message}"
  | fileSystem path e => s!"Error reading file {path}: {e.message}"
  | badUrl url => s!"Invalid URL: {url}"
  | timeout url => s!"Request timeout for URL: {url}"
  | connection url _ => s!"Connection error for URL: {url}"
  | status code url => s!"HTTP error {code} for URL: {url}"
  | urlJson url e => s!"Invalid JSON response from URL {url}: {e.message}"
  | unreadable url detail => s!"Invalid JSON response from URL {url}: {detail}"
  | request url detail => s!"Request error for URL {url}: {detail}"
  | obstacle o => o.message
  | declarations source e => s!"{source}: {e.message}"

/-- The record that goes with an error. -/
def record? : LoadError → Option LogRecord
  | noSource | twoSources | obstacle _ | declarations .. => none
  | badUrl url => some ⟨.error, s!"Invalid URL format: {url}"⟩
  | connection url detail => some ⟨.error, s!"Connection error for URL {url}: {detail}"⟩
  | e => some ⟨.error, e.message⟩

end LoadError

/-! ## Loading -/

/-- A result with the log of how it came about. -/
abbrev Logged (α : Type) := Except LoadError α × List LogRecord

/-- A refusal with its record. -/
def refuse {α : Type} (log : List LogRecord) (e : LoadError) : Logged α :=
  (.error e, log ++ e.record?.toList)

/-- Why a text is not read, with what is said of a flaw in it. -/
def readError (ofFlaw : Json.ReadError → LoadError) (e : Json.ReadError) : LoadError :=
  match Obstacle.ofRead? e with
  | some o => .obstacle o
  | none => ofFlaw e

/-- The value in a file. -/
def loadFile (files : Files) (name : String) : Logged (String × Json) :=
  let path := Path.ofString name
  match files.exists_ path with
  | .error e => refuse [] (.obstacle (.system e))
  | .ok false => refuse [] (.fileNotFound path.text)
  | .ok true =>
  let log := if path.isJson then []
    else [⟨.warning, s!"File does not have .json extension: {path.text}"⟩]
  match files.read path with
  | .error e => refuse log (.fileSystem path.text e)
  | .ok text =>
    match Json.read text with
    | .ok v => (.ok (path.text, v), log)
    | .error e => refuse log (readError (.fileJson path.text) e)

/-- Whether `word` stands somewhere in a text. -/
def holds (word : List Char) : List Char → Bool
  | [] => word.isEmpty
  | c :: cs => word.isPrefixOf (c :: cs) || holds word cs

/-- The text of the body of an answer: without a byte order mark, and in the
    encoding that it shows. -/
def bodyText (body : String) : String :=
  match body.toList with
  | c :: cs => if c.toNat = 0xFEFF then String.ofList cs else Text.unwidened body
  | [] => body

/-- The value in an answer. -/
def loadAnswer (url : String) (status : Int) (contentType : Option String) (body : String) :
    Logged (String × Json) :=
  if 400 ≤ status && status < 600 then refuse [] (.status status url) else
  let kind := Text.lowerString (contentType.getD "")
  let log :=
    if holds "application/json".toList kind.toList || ".json".toList.isSuffixOf url.toList then []
    else [⟨.warning, s!"URL {url} does not have JSON content type: {kind}"⟩]
  match Json.read (bodyText body) with
  | .ok v => (.ok (url, v), log)
  | .error e => refuse log (readError (.urlJson url) e)

/-- The value at a URL. -/
def loadUrl (reply : Reply) (url : String) : Logged (String × Json) :=
  match Url.isComplete? url with
  | none => refuse [] (.obstacle .host)
  | some false => refuse [] (.badUrl url)
  | some true =>
    match reply with
    | .failed .timeout _ => refuse [] (.timeout url)
    | .failed .connection detail => refuse [] (.connection url detail)
    | .failed (.status (some code)) _ => refuse [] (.status code url)
    | .failed (.status none) _ => refuse [] (.obstacle .noAnswer)
    | .failed .unreadable detail => refuse [] (.unreadable url detail)
    | .failed .other detail => refuse [] (.request url detail)
    | .answered status contentType body => loadAnswer url status contentType body

/-- The value in a file or at a URL; an empty name counts as none. -/
def loadJson (files : Files) (reply : Reply) (file url : Option String) :
    Logged (String × Json) :=
  match file.filter (!·.isEmpty), url.filter (!·.isEmpty) with
  | none, none => refuse [] .noSource
  | some _, some _ => refuse [] .twoSources
  | some name, none => loadFile files name
  | none, some url => loadUrl reply url

/-- The declarations that a value from a source holds. -/
def parseDeclarations (source : String) (data : Json) : Except LoadError (List Declaration) :=
  (declarationsOf data).mapError (.declarations source)

/-- The declarations in a file or at a URL. -/
def loadDeclarations (files : Files) (reply : Reply) (file url : Option String) :
    Logged (String × List Declaration) :=
  match loadJson files reply file url with
  | (.error e, log) => (.error e, log)
  | (.ok (source, data), log) =>
    match parseDeclarations source data with
    | .ok ds => (.ok (source, ds), log)
    | .error e => (.error e, log)

end CodecForge
