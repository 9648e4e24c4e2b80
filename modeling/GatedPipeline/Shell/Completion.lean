namespace GatedPipeline.Shell

namespace Completion

inductive Source where
  | aliases
  | lists
  | bindings
  | builtins
  | disabled
  | enabled
  | exported
  | functions
  | topics
  | hosts
  | jobs
  | keywords
  | running
  | options
  | extras
  | signals
  | stopped
  | variables
  | commands
  | files
  | users
  | groups
  | services
  | directories
deriving DecidableEq, Repr

/-- The sources in the order in which they are asked, with their names and letters. -/
def Source.table : List (Source × String × Option Char) :=
  [(.aliases, "alias", some 'a'), (.lists, "arrayvar", none), (.bindings, "binding", none),
    (.builtins, "builtin", some 'b'), (.disabled, "disabled", none), (.enabled, "enabled", none),
    (.exported, "export", some 'e'), (.functions, "function", none),
    (.topics, "helptopic", none), (.hosts, "hostname", none), (.jobs, "job", some 'j'),
    (.keywords, "keyword", some 'k'), (.running, "running", none), (.options, "setopt", none),
    (.extras, "shopt", none), (.signals, "signal", none), (.stopped, "stopped", none),
    (.variables, "variable", some 'v'), (.commands, "command", some 'c'),
    (.files, "file", some 'f'), (.users, "user", some 'u'), (.groups, "group", some 'g'),
    (.services, "service", some 's'), (.directories, "directory", some 'd')]

def Source.named? (name : String) : Option Source :=
  (Source.table.find? (·.2.1 == name)).map (·.1)

def Source.lettered? (c : Char) : Option Source :=
  (Source.table.find? (·.2.2 == some c)).map (·.1)

def allWishes : List String :=
  ["bashdefault", "default", "dirnames", "filenames", "noquote", "nosort", "nospace", "plusdirs"]

end Completion

structure Completion where
  wishes : List String
  sources : List Completion.Source
  pattern : Option String
  words : Option String
  front : Option String
  back : Option String
  excluded : Option String
  command : Option String
  function : Option String
deriving Repr

namespace Completion

def has (c : Completion) (wish : String) : Bool := c.wishes.contains wish

def shown (quote : String → String) (c : Completion) : String :=
  let lettered (s : Source × String × Option Char) : Option String :=
    if c.sources.contains s.1 then s.2.2.map fun l => "-" ++ String.singleton l ++ " " else none
  let named (s : Source × String × Option Char) : Option String :=
    if c.sources.contains s.1 && s.2.2.isNone then some ("-A " ++ s.2.1 ++ " ") else none
  let letters := (Source.table.filterMap lettered).mergeSort (· ≤ ·)
  let given (letter : String) (value : Option String) : String :=
    (value.map fun v => letter ++ " " ++ quote v ++ " ").getD ""
  String.join ((allWishes.filter c.has).map fun w => "-o " ++ w ++ " ") ++
    String.join letters ++ String.join (Source.table.filterMap named) ++
    given "-G" c.pattern ++ given "-W" c.words ++ given "-P" c.front ++ given "-S" c.back ++
    given "-X" c.excluded ++ given "-C" c.command ++
    ((c.function.map fun f => "-F " ++ f ++ " ").getD "")

end Completion

end GatedPipeline.Shell
