import WebTrip.Operation

/-!
# Documentation of the query language

The texts that the command line shows: an overview of all operations, and one page per operation.

* `Docs.overview` is the overview.
* `Docs.page` is the page of an operation.
-/

namespace WebTrip.Docs

/-- A text given by its lines. -/
def lines (texts : List String) : String :=
  String.join (texts.map (· ++ "\n"))

/-! ## §1 Overview -/

/-- The listing of all operations. -/
def overview : String := lines [
  "LSD DOCUMENTATION",
  "",
  "A trip is an ordered list of instructions compiled into one LSD program.",
  "Bindings (assignments, function definitions, the execution target) are",
  "hoisted to the top, one per line; everything else runs as a flow joined",
  "with |>.",
  "",
  "OPERATIONS",
  "",
  "  according     Imitate a published skill",
  "  assign        Bind a variable or define a function",
  "  click         Click on an element",
  "  dive          Follow every link in a column",
  "  enter         Type text into an input",
  "  from          Navigate to a page",
  "  group         Declare the repeating container",
  "  run           Invoke a defined function",
  "  select        Extract one or more columns",
  "  target        Choose where the trip executes",
  "  when          Branch between two sub-programs",
  "  with          Restrict results to a time window",
  "  distinct      Deduplicate rows on a column",
  "",
  "QUICK REFERENCE",
  "",
  "  x <| value |              Binding",
  "  f <|> a b <| ... |        Function definition",
  "  A |> B                    Flow",
  "  |> A |> B                 Nested sub-program",
  "",
  "Run 'lsd docs <operation>' for detailed documentation.",
  "Run 'lsd compile <plan.json>' to compile an instruction log."]

/-! ## §2 Pages -/

/-- The page on `ACCORDING`. -/
def accordingPage : String := lines [
  "ACCORDING - Imitate a Skill",
  "",
  "  ACCORDING TO <skill>",
  "    Replays a published skill, given as <author>/<name>.",
  "",
  "    Example:",
  "      Builder:  .imitate(\"yev/hacker_news\")",
  "      Program:  ACCORDING TO yev/hacker_news",
  "",
  "    Constraints:",
  "      - Defaults to yev/hn when no skill is recorded"]

/-- The page on `ASSIGN`. -/
def assignPage : String := lines [
  "ASSIGN - Bindings and Functions",
  "",
  "VARIABLES",
  "  <name> <| <value> |",
  "    Binds a name to a value. Bindings are hoisted above the flow.",
  "",
  "    Example:",
  "      Builder:  .assign(\"next_button\", \"li.pagination-next a\")",
  "      Program:  next_button <| li.pagination-next a |",
  "",
  "FUNCTIONS",
  "  <name> <|> [<params> <|] <body> |",
  "    Defines a function whose body is a nested sub-program.",
  "",
  "    Example:",
  "      Builder:  .define(\"f\", [\"n\"], |t| t.click(\"#x\"))",
  "      Program:  f <|> n <| ",
  "                |> CLICK ON #x |",
  "",
  "    Constraints:",
  "      - Without parameters the parameter list is omitted entirely",
  "      - Values are emitted verbatim, nothing is escaped"]

/-- The page on `CLICK`. -/
def clickPage : String := lines [
  "CLICK - Click on an Element",
  "",
  "  CLICK ON <selector>",
  "    Clicks the first element matching the selector.",
  "",
  "    Example:",
  "      Builder:  .click(\"#download\")",
  "      Program:  CLICK ON #download",
  "",
  "    Repeated clicks:",
  "      Builder:  .click_times(\"a.more\", 3)",
  "      Program:  CLICK ON a.more |> CLICK ON a.more |> CLICK ON a.more",
  "",
  "    Constraints:",
  "      - Defaults to the selector a when no selector is recorded"]

/-- The page on `DIVE`. -/
def divePage : String := lines [
  "DIVE - Follow Links",
  "",
  "  DIVE INTO <column>",
  "    Evaluates the rest of the trip against every page a column links to.",
  "",
  "    Example:",
  "      Builder:  .dive(\"post_link\")",
  "      Program:  DIVE INTO post_link"]

/-- The page on `ENTER`. -/
def enterPage : String := lines [
  "ENTER - Type Text",
  "",
  "  ENTER INTO <selector> <text>",
  "    Types text into the matching input. Quote the text yourself if it",
  "    contains spaces; nothing is escaped.",
  "",
  "    Example:",
  "      Builder:  .enter(\"input[name=q]\", \"\\\"rust\\\"\")",
  "      Program:  ENTER INTO input[name=q] \"rust\""]

/-- The page on `FROM`. -/
def navigatePage : String := lines [
  "FROM - Navigate",
  "",
  "  FROM <url>",
  "    Loads a page. Usually the first instruction of a trip.",
  "",
  "    Example:",
  "      Builder:  .navigate(\"https://news.ycombinator.com\")",
  "      Program:  FROM https://news.ycombinator.com",
  "",
  "    Constraints:",
  "      - Defaults to https://lsd.so when no url is recorded"]

/-- The page on `GROUP`. -/
def groupPage : String := lines [
  "GROUP - Repeating Container",
  "",
  "  GROUP BY <selector>",
  "    Produces one output row per element matching the selector. Selections",
  "    that follow are evaluated relative to each match.",
  "",
  "    Example:",
  "      Builder:  .group(\"span.titleline\")",
  "      Program:  GROUP BY span.titleline"]

/-- The page on `RUN`. -/
def runPage : String := lines [
  "RUN - Invoke a Function",
  "",
  "  <name> [<args>...]",
  "    Calls a function bound earlier with <|>. No keyword is emitted.",
  "",
  "    Example:",
  "      Builder:  .apply_with(\"paginate\", [\"3\"])",
  "      Program:  paginate 3"]

/-- The page on `SELECT`. -/
def selectPage : String := lines [
  "SELECT - Extract Columns",
  "",
  "  SELECT <selector> [AS <alias>][, ...]",
  "    Extracts one column per selector. A batch selection is emitted as a",
  "    single SELECT.",
  "",
  "    Example:",
  "      Builder:  .select([(\"h1\", \"title\"), (\"p\", \"body\")])",
  "      Program:  SELECT h1 AS title, p AS body"]

/-- The page on `TARGET`. -/
def targetPage : String := lines [
  "TARGET - Execution Target",
  "",
  "  TARGET <| BROWSER | TRAVERSER |",
  "    Chooses whether the trip runs in a full browser or the lightweight",
  "    traverser. Hoisted with the bindings.",
  "",
  "    Example:",
  "      Builder:  .on(Target::Browser)",
  "      Program:  TARGET <| BROWSER |"]

/-- The page on `WHEN`. -/
def branchPage : String := lines [
  "WHEN - Conditional Branch",
  "",
  "  WHEN <condition> THEN <sub-program> [ELSE <sub-program>]",
  "    Runs one of two nested sub-programs.",
  "",
  "    Example:",
  "      Builder:  .when(\"n > 0\", |t| t.click(\"#next\"))",
  "      Program:  WHEN n > 0 THEN |> CLICK ON #next",
  "",
  "    Constraints:",
  "      - The condition defaults to 1 = 1",
  "      - ELSE is omitted when no alternative is given"]

/-- The page on `WITH`. -/
def windowPage : String := lines [
  "WITH - Time Window",
  "",
  "  WITH TIME <AFTER|BEFORE|AROUND> <timestamp> [<radius>]",
  "    Restricts results relative to a point in time.",
  "",
  "    Example:",
  "      Builder:  .around(\"ANYTIME\", None)",
  "      Program:  WITH TIME AROUND ANYTIME"]

/-- The page on `DISTINCT`. -/
def distinctPage : String := lines [
  "DISTINCT - Deduplicate Rows",
  "",
  "  DISTINCT <column>",
  "    Keeps the first row for every value of a column.",
  "",
  "    Example:",
  "      Builder:  .distinct(\"link\")",
  "      Program:  DISTINCT link"]

/-- The page of an operation. -/
def page : Operation → String
  | .according => accordingPage
  | .assign => assignPage
  | .click => clickPage
  | .dive => divePage
  | .enter => enterPage
  | .navigate => navigatePage
  | .group => groupPage
  | .run => runPage
  | .select => selectPage
  | .target => targetPage
  | .branch => branchPage
  | .window => windowPage
  | .distinct => distinctPage

end WebTrip.Docs
