/-!
# Overview

What is shown when no command is given.
-/

namespace CourseCatalog.CommandLine

/-- The overview, line by line. -/
def overviewLines : List String := [
  "Read-only query layer over an academic catalog: colleges, majors, courses and their prerequisite graph",
  "",
  "Usage: coursegraph [OPTIONS] [COMMAND]",
  "",
  "Commands:",
  "  course      Show a course and its prerequisite expression",
  "  courses     List courses matching all given attributes (all courses without filters)",
  "  majors      List majors matching all given attributes (all majors without filters)",
  "  colleges    List colleges",
  "  faculty     List a college's faculty",
  "  prereqs     Transitive strict prerequisites of a course, breadth first",
  "  requires    Check whether PREREQUISITE is a strict prerequisite of COURSE",
  "  org         Show a student organization",
  "  parse       Parse catalog prerequisite text into dataset JSON",
  "  config      Manage settings",
  "  completion  Generate shell completions",
  "  help        Print this message or the help of the given subcommand(s)",
  "",
  "Options:",
  "  -d, --debug...           Log verbosity: -d info, -dd debug, -ddd trace",
  "      --dataset <DATASET>  Catalog dataset (default: bundled sample catalog)",
  "      --config <CONFIG>    Config file (default: $XDG_CONFIG_HOME/coursegraph/coursegraph.toml)",
  "  -h, --help               Print help",
  "  -V, --version            Print version"]

/-- The version of the program. -/
def version : String :=
  "coursegraph 0.1.0"

end CourseCatalog.CommandLine
