import TemplateGrep.Template.Listing

namespace TemplateGrep.Help

open Template (Table)

def version : String := "0.1.0"

def searchName : String := "tgrep"

def expandName : String := "tg"

def versionLine (program : String) : String := program ++ " " ++ version ++ "\n"

def configVariableName : String := "TGREP_CONFIG"

def variableNote (value : Option String) : String :=
  "[env: " ++ configVariableName ++ "=" ++ value.getD "" ++ "]"

def unlines (lines : List String) : String := String.join (lines.map (· ++ "\n"))

def about : String :=
  "Grep with templated regular expressions: literal text is escaped, \x7b\x7b \x7d\x7d " ++
    "blocks are raw regex or named templates"

def afterOptions (table : Table) : String :=
  unlines
    ["tgrep provides templating for regular expressions. The input argument is escaped to be",
     "safe to use as a regex. Wrap regular expressions in \x7b\x7b \x7d\x7d and they will not be escaped.",
     "",
     "Examples:",
     "    tgrep '(hello \x7b\x7b(world|bob)\x7d\x7d)'               " ++
       "# \x7b\x7b \x7d\x7d is a regex, everything else is escaped",
     "    tgrep -e email /tmp/example.txt                " ++
       "# shorthand: a bare template name is its regex",
     "    tgrep 'My email is \x7b\x7bemail\x7d\x7d' /tmp/example.txt  " ++
       "# a template inside a longer pattern",
     "",
     "Templates supplied:"] ++
  Template.Listing.render table

def search (inherited : Option String) : String :=
  unlines
    [about,
     "",
     "Usage: tgrep [OPTIONS] [ARGS]...",
     "",
     "Arguments:",
     "  [ARGS]...  Files to search. Without -e, the first argument is the pattern. " ++
       "Standard input is read when no files are given",
     "",
     "Options:",
     "  -w, --word-boundary     Regex should match at word boundaries",
     "  -i, --ignore-case       Case insensitive search",
     "  -E, --no-template       Patterns are plain regexes and are not templated (like egrep)",
     "  -e, --regexp <PATTERN>  Pattern to use. May be repeated; " ++
       "a line is printed if any pattern matches",
     "  -c, --config <PATH>     YAML config file with extra templates and default flags " ++
       variableNote inherited,
     "      --list-templates    Print the available templates and exit",
     "  -h, --help              Print help",
     "  -V, --version           Print version",
     ""] ++
  afterOptions .builtin

def expand (inherited : Option String) : String :=
  unlines
    [about,
     "",
     "Usage: tg [OPTIONS] <PATTERN>...",
     "",
     "Arguments:",
     "  <PATTERN>...  Patterns to expand",
     "",
     "Options:",
     "  -c, --config <PATH>  YAML config file with extra templates " ++ variableNote inherited,
     "  -h, --help           Print help",
     "  -V, --version        Print version"]

end TemplateGrep.Help
