/-!
# The words of the policy language

Keywords, operators and built-in functions in the order in which they are offered, with the help
that is shown for them.
-/

namespace PolicyEditing

/-- The grammatical role of a word. -/
inductive WordKind where
  | keyword
  | operator
  | function
deriving DecidableEq, Repr

/-- What a built-in function does, and an example of its use. -/
structure FunctionHelp where
  name : String
  purpose : String
  usage : String
deriving DecidableEq, Repr

/-- The help of a built-in function, in Markdown. -/
def FunctionHelp.text (help : FunctionHelp) : String :=
  help.purpose ++ "\n\nUsage: `" ++ help.usage ++ "`"

/-- A word that is explained in place: its title, a summary and the details below. -/
structure ExplainedWord where
  word : String
  title : String
  summary : String
  details : String
deriving DecidableEq, Repr

/-- The explanation of a word, in Markdown. -/
def ExplainedWord.help (explained : ExplainedWord) : String :=
  "**" ++ explained.title ++ "** - " ++ explained.summary ++ "\n\n" ++ explained.details

namespace Vocabulary

/-- The keywords, in the order in which they are offered. -/
def keywords : List String :=
  ["rule", "let", "when", "some", "this", "or", "not"]

/-- The operators, in the order in which they are offered. -/
def operators : List String :=
  ["exists", "empty", "keys", "is_string", "is_list", "is_struct", "is_bool", "is_int", "is_float",
    "is_null", "IN"]

/-- The built-in functions, in the order in which they are offered. -/
def functions : List String :=
  ["json_parse", "regex_replace", "join", "to_lower", "to_upper", "substring", "url_decode",
    "count", "parse_int", "parse_float", "parse_string", "parse_boolean", "parse_char",
    "parse_epoch", "now"]

def functionHelps : List FunctionHelp :=
  [⟨"count", "Count items in a collection", "let c = count(Resources.*)"⟩,
    ⟨"json_parse", "Parse JSON string into object", "let obj = json_parse(%json_string)"⟩,
    ⟨"regex_replace", "Replace regex pattern",
      "let result = regex_replace(%string, %pattern, %replacement)"⟩,
    ⟨"join", "Join collection with delimiter", "let str = join(%collection, \",\")"⟩,
    ⟨"to_lower", "Convert to lowercase", "let lower = to_lower(%string)"⟩,
    ⟨"to_upper", "Convert to uppercase", "let upper = to_upper(%string)"⟩,
    ⟨"substring", "Extract substring", "let sub = substring(%string, 0, 10)"⟩,
    ⟨"url_decode", "URL decode string", "let decoded = url_decode(%encoded)"⟩,
    ⟨"parse_int", "Convert to integer", "let num = parse_int(%value)"⟩,
    ⟨"parse_float", "Convert to float", "let num = parse_float(%value)"⟩,
    ⟨"parse_string", "Convert to string", "let str = parse_string(%value)"⟩,
    ⟨"parse_boolean", "Convert to boolean", "let bool = parse_boolean(%value)"⟩,
    ⟨"parse_char", "Convert to character", "let c = parse_char(%value)"⟩,
    ⟨"parse_epoch", "Parse RFC3339 datetime to epoch", "let ts = parse_epoch(%datetime)"⟩,
    ⟨"now", "Get current epoch timestamp", "let ts = now()"⟩]

def explained : List ExplainedWord :=
  [⟨"rule", "rule", "Define a named rule",
      "Syntax: `rule rule_name when condition \x7b ... \x7d`"⟩,
    ⟨"let", "let", "Variable assignment", "Syntax: `let variable_name = value`"⟩,
    ⟨"when", "when", "Conditional execution", "Syntax: `when condition \x7b ... \x7d`"⟩,
    ⟨"exists", "exists", "Check if property exists", "Usage: `Properties.BucketName exists`"⟩,
    ⟨"empty", "empty", "Check if collection is empty", "Usage: `Resources !empty`"⟩,
    ⟨"keys", "keys", "Filter by map keys in queries",
      "Usage: `this[ keys == /pattern/ ]` or `Condition[ keys == /String(Equals|Like)/ ]`"⟩,
    ⟨"count", "count()", "Count items in collection",
      "Returns the number of items. Must be used in variable assignment."⟩]

/-- The line beside a built-in function in a list of completions. -/
def functionDetail : String := "Guard built-in function"

/-- Every word with its kind: keywords, then operators, then functions. -/
def entries : List (WordKind × String) :=
  keywords.map (.keyword, ·) ++ operators.map (.operator, ·) ++
    functions.map (.function, ·)

/-- The help of a built-in function, by its name. -/
def functionHelp? (name : String) : Option String :=
  (functionHelps.find? (·.name = name)).map FunctionHelp.text

/-- The explanation of a word.  The word must match exactly, also in case. -/
def explanation? (word : String) : Option String :=
  (explained.find? (·.word = word)).map ExplainedWord.help

end Vocabulary

end PolicyEditing
