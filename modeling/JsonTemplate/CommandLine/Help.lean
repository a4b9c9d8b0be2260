/-!
# Usage and help
-/

namespace JsonTemplate.CommandLine

def programName : String := "jsonatr"

def usageText : String :=
  "usage: jsonatr [-h] [--use FILE] [--stdin] [--in FILE] [--out FILE] [--usage]\n" ++
  "               [--max-depth MAX_DEPTH] [--timeout SECONDS] [--verbose]\n" ++
  "               [--quiet]\n" ++
  "               [output_spec]\n"

def helpText : String :=
  usageText ++
  "\n" ++
  "Transform JSON using a spec of named inputs and an output template\n" ++
  "\n" ++
  "positional arguments:\n" ++
  "  output_spec           Inline output template (JSON; plain text is used as a\n" ++
  "                        string template)\n" ++
  "\n" ++
  "options:\n" ++
  "  -h, --help            show this help message and exit\n" ++
  "  --use FILE            Spec file to merge in (repeatable)\n" ++
  "  --stdin               Read the main input JSON from standard input\n" ++
  "  --in FILE             Read the main input JSON from FILE\n" ++
  "  --out FILE            Write the result to FILE instead of standard output\n" ++
  "  --usage               Show a short usage line and exit\n" ++
  "  --max-depth MAX_DEPTH\n" ++
  "                        Maximum nesting of input resolutions (default: 64)\n" ++
  "  --timeout SECONDS     Time limit for each COMMAND input (default: none)\n" ++
  "  --verbose             Trace input resolution on stderr\n" ++
  "  --quiet               Suppress warnings about expressions left unevaluated\n" ++
  "\n" ++
  "Examples:\n" ++
  "    jsonatr --use spec.json\n" ++
  "    jsonatr --use lib.json --in data.json '\x7b\"first\": \"$[0] | unwrap\"\x7d'\n" ++
  "    cat data.json | jsonatr --use spec.json --stdin --out result.json\n" ++
  "\n" ++
  "Expressions:\n" ++
  "    $input.jsonpath | transform(arg, ...) | ...\n" ++
  "    Builtin transforms: unwrap, map(input), ifelse(then, else)\n" ++
  "        \n"

end JsonTemplate.CommandLine
