import CellScript.Text.Line

set_option autoImplicit false

/-! # Help

What the program says about itself. -/

namespace CellScript.Command

/-- The line that names the program and its version. -/
def versionText : Text := "herzog 0.1.0\n".toList

/-- What is said about arguments that are not understood. -/
def usageText : Text :=
  "error: invalid arguments\n\nUsage: herzog [OPTIONS] <COMMAND>\n\n".toList ++
    "For more information, try '--help'.\n".toList

/-- The lines of the help. -/
def helpLines : List String :=
  ["Convert between herzog Python scripts and Jupyter notebooks",
    "",
    "Usage: herzog [OPTIONS] <COMMAND>",
    "",
    "Commands:",
    "  convert  Convert a script to a notebook or a notebook to a script",
    "  init     Write a sample configuration file",
    "  help     Print this message or the help of the given subcommand(s)",
    "",
    "Options:",
    "  -v, --verbose  Verbose output",
    "  -q, --quiet    Quiet mode - only show errors",
    "  -h, --help     Print help",
    "  -V, --version  Print version",
    "",
    "Examples:",
    "  herzog convert analysis.py -o analysis.ipynb   # Script to notebook",
    "  herzog convert analysis.ipynb                  # Notebook to script on stdout",
    "  cat analysis.py | herzog convert - --to ipynb  # Read from stdin",
    "  herzog convert notebooks/ -o scripts/ --to py  # Convert a directory",
    "  herzog init                                    # Write a sample _herzog.toml"]

/-- The help. -/
def helpText : Text := helpLines.flatMap fun l => l.toList ++ ['\n']

end CellScript.Command
