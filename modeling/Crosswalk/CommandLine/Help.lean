/-!
# Help

The texts that the command line shows instead of a run.
-/

namespace Crosswalk.CommandLine

/-- What `--help` shows. -/
def helpText : String :=
  "usage: python-tree-bridge [-h] [-o OUT | --in-place | --list]
                          [--seed-table SEED_TABLE]
                          [--declaration DECLARATION] [--param PARAM]
                          [--log-level \x7bDEBUG,INFO,WARNING,ERROR\x7d] [--version]
                          input

Expand node mapping declarations into A->B and B->A conversion functions.

positional arguments:
  input                 Declaration source file

options:
  -h, --help            show this help message and exit
  -o OUT, --out OUT     Write the compiled source here (default: stdout)
  --in-place            Overwrite the input file with the compiled source
  --list                List the declarations found in the input, without
                        compiling
  --seed-table SEED_TABLE
                        Name of the dispatch table seed (default: A_TO_B)
  --declaration DECLARATION
                        Name of the mapping declaration function (default:
                        map)
  --param PARAM         Parameter name of generated functions (default: node)
  --log-level \x7bDEBUG,INFO,WARNING,ERROR\x7d
                        Logging level (default: WARNING)
  --version             show program's version number and exit
"

/-- What `--version` shows. -/
def versionText : String := "python-tree-bridge 0.1.0\n"

end Crosswalk.CommandLine
