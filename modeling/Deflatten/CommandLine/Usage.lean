import Deflatten.CommandLine.Flag
/-!
# Usage

The texts that explain the command line.
-/

namespace Deflatten.CommandLine.Usage

/-- The name of the program. -/
def programName : String := "js_unflatten.py"

/-- Lines as text, each with its line end. -/
def lines (ls : List String) : String := String.join (ls.map (· ++ "\n"))

/-- The synopsis. -/
def synopsis : String := lines [
  "usage: js_unflatten.py [-h] [--config CONFIG] [--output-dir OUTPUT_DIR]",
  "                       [--source-type \x7bscript,module\x7d] [--tolerant]",
  "                       [--no-simplify] [-v | -q]",
  "                       [input_file] [control_flow_var] [condition_var]"]

/-- What the program is for. -/
def purpose : String := lines [
  "",
  "Command-line interface for the control-flow deflattener.",
  ""]

/-- The plain words. -/
def plainWords : String := lines [
  "positional arguments:",
  "  input_file            Flattened JavaScript file",
  "  control_flow_var      Name of the order array variable",
  "  condition_var         Name of the discriminant variable tested by the if",
  "                        chains",
  ""]

/-- The flags. -/
def flags : String := lines [
  "options:",
  "  -h, --help            show this help message and exit",
  "  --config CONFIG       JSON file with default options; command-line values",
  "                        take precedence",
  "  --output-dir OUTPUT_DIR",
  "                        Directory for the generated files",
  "  --source-type \x7bscript,module\x7d",
  "                        Parse the input as a classic script or as an ES module",
  "  --tolerant            Let the parser recover from some syntax errors",
  "  --no-simplify         Keep '<' comparisons instead of rewriting them into",
  "                        '==='",
  "  -v, --verbose         Log debug details",
  "  -q, --quiet           Only log warnings",
  ""]

/-- An example, and the files that are written. -/
def closing : String := lines [
  "example:",
  "  js_unflatten.py demo.js _$fl _$hC",
  "",
  "outputs (next to the input unless --output-dir is given):",
  "  <name>_processed.js           normalized source",
  "  <name>_condition_mapping.json condition and code block mapping",
  "  <name>_simple_mapping.json    index to code block mapping",
  "  <name>_control_flow.json      control flow sequence",
  "  <name>_reordered.js           code reordered by control flow"]

/-- The whole help. -/
def help : String := synopsis ++ purpose ++ plainWords ++ flags ++ closing

/-- The answer to a command line that is refused. -/
def refusal (error : UsageError) : String := synopsis ++ programName ++ ": error: " ++ error.message ++ "\n"

end Deflatten.CommandLine.Usage
