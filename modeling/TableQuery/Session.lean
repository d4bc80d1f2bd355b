import TableQuery.Filter.Outline
import TableQuery.Resource
import TableQuery.Sql.Statement

/-!
# Session — a query built by commands

A session holds one query.  A line is a command and, behind the first space, its argument.  Commands
set parts of the query, clear it, or show something; a command that fails changes nothing.
-/

namespace TableQuery

open TableQuery.Number TableQuery.Text

namespace Session

/-- The commands, one line each. -/
def help : String := String.intercalate "\n" [
  "commands:",
  "  filter <text>      set $filter",
  "  orderby <text>     set $orderby",
  "  top <n> | skip <n> set paging",
  "  count on|off       toggle $count",
  "  tokens <text>      show the tokens of <text>",
  "  ast <text>         show the filter tree of <text>",
  "  show               print the SQL for the current query",
  "  reset              clear the current query",
  "  help | quit"]

/-- What becomes of a session behind a line. -/
inductive Verdict where
  | goOn
  | stop
  | failed (message : String)
  deriving DecidableEq

/-- The effect of a line: the lines it prints, the query behind it, and whether the session goes
on. -/
structure Effect where
  output : List String
  query : Query
  verdict : Verdict

/-- Prints and changes nothing. -/
def shows (query : Query) (output : List String) : Effect := ⟨output, query, .goOn⟩

/-- Changes the query and prints nothing. -/
def sets (query : Query) : Effect := ⟨[], query, .goOn⟩

/-- Sets a number. -/
def setsNumber (query : Query) (name arg : String) (set : Nat → Query) : Effect :=
  match readUnsigned arg with
  | .ok n => sets (set n)
  | .error e => ⟨[], query, .failed s!"{name} expects a number: {e.message}"⟩

/-- A token as it is shown. -/
def tokenText (t : Token) : String :=
  t.kind.name ++ " " ++ quoted t.text ++ " " ++ naturalText t.span.start ++ ".." ++
    naturalText t.span.stop

/-- The tree of a filter, or why there is none. -/
def treeText (arg : String) : String :=
  match Filter.read arg with
  | .ok filter => filter.outline.text
  | .error e => s!"invalid filter: {e.message}"

/-- The statement of a query, and the one that counts if that is asked for. -/
def statements (resource : Resource) (query : Query) : List String :=
  let applied := query.apply resource.schema.resolve resource.options Sql.Statement.backend none
    (.select resource.schema.table)
  match applied with
  | .ok a => a.query.inlined .postgres :: (a.count.map (·.inlined .postgres)).toList
  | .error e => [s!"error: {e.message}"]

/-- Command and argument of a line; the argument has no white space at its ends. -/
def split (line : String) : String × String :=
  let cs := line.toList
  (String.ofList (cs.takeWhile (· != ' ')),
    String.ofList (trim ((cs.dropWhile (· != ' ')).drop 1)))

/-- Obeys a command. -/
def obey (resource : Resource) (query : Query) (command arg : String) : Effect :=
  match command with
  | "filter" => sets { query with filter := arg }
  | "orderby" => sets { query with orderBy := arg }
  | "top" => setsNumber query "top" arg fun n => { query with top := n }
  | "skip" => setsNumber query "skip" arg fun n => { query with skip := n }
  | "count" => sets { query with count := eqIgnoreCase arg "on" }
  | "tokens" => shows query ((Token.tokenize arg).map tokenText)
  | "ast" => shows query [treeText arg]
  | "show" => shows query (statements resource query)
  | "reset" => sets {}
  | "help" => shows query [help]
  | "quit" => ⟨[], query, .stop⟩
  | "exit" => ⟨[], query, .stop⟩
  | other => shows query [s!"unknown command '{other}', try 'help'"]

/-- The effect of a line. -/
def handle (resource : Resource) (query : Query) (line : String) : Effect :=
  let (command, arg) := split line
  obey resource query command arg

/-! ## Whole sessions -/

/-- The resource of a session, and the line that says where it came from. -/
def openResource (path : String) (file : Resource.File) : Resource × String :=
  match Resource.load path file with
  | .ok resource => (resource, s!"loaded resource '{resource.schema.table}' from {path}")
  | .error e => (.sample, s!"{e.message}; using the sample 'users' resource")

/-- The file that is opened if none is named. -/
def defaultPath : String := "resource.json"

/-- The effect of a line as it was typed: white space around it does not count, an empty line has no
effect, and a failure is printed. -/
def handleTyped (resource : Resource) (query : Query) (typed : String) : Effect :=
  let line := trim typed.toList
  if line.isEmpty then sets query
  else
    let effect := handle resource query (String.ofList line)
    match effect.verdict with
    | .failed message => { effect with output := effect.output ++ [s!"error: {message}"] }
    | _ => effect

/-- The lines that a session prints behind its beginning, up to the line that stops it. -/
def respond (resource : Resource) : Query → List String → List String
  | _, [] => []
  | query, line :: lines =>
    let effect := handleTyped resource query line
    effect.output ++
      if effect.verdict = .stop then [] else respond resource effect.query lines

/-- The lines of a text. -/
def linesOf (input : String) : List String :=
  let lines := (input.splitOn "\n")
  if lines.getLast? = some "" then lines.dropLast else lines

/-- All that a session prints. -/
def transcript (path : String) (file : Resource.File) (input : String) : List String :=
  let (resource, greeting) := openResource path file
  greeting :: help :: respond resource {} (linesOf input)

end Session

end TableQuery
