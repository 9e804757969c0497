import NodeSchema.Config
/-!
# Usage and help

The texts that explain the command line.
-/

namespace NodeSchema.CommandLine

def programName : String := "ast-typegen"

def usage : List String :=
  ["usage: " ++ programName ++ " [-h] [--root ROOT] [--declarations DECLARATIONS]",
   "                   [--wrapper WRAPPER] [-v]",
   "                   registry"]

def help : List String :=
  usage ++
  ["",
   "Generate Flow node declarations and builder wrappers from a node-schema",
   "registry.",
   "",
   "positional arguments:",
   "  registry              JSON document with NODE_FIELDS/BUILDER_KEYS/ALIAS_KEYS",
   "",
   "options:",
   "  -h, --help            show this help message and exit",
   "  --root ROOT           Output root directory (default: .)",
   "  --declarations DECLARATIONS",
   "                        Declarations destination under root (default: flow-",
   "                        typed/babel-nodes.js)",
   "  --wrapper WRAPPER     Wrapper destination under root (default:",
   "                        src/lib/babel-types.js)",
   "  -v, --verbose         Enable debug logging"]

end NodeSchema.CommandLine
