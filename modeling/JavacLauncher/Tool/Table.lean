import JavacLauncher.Tool.Batches
import JavacLauncher.Tool.Edit.Run
import JavacLauncher.Tool.Expr
import JavacLauncher.Tool.Files
import JavacLauncher.Tool.Records
import JavacLauncher.Tool.Report.Run
import JavacLauncher.Tool.Search
import JavacLauncher.Tool.Seq
import JavacLauncher.Tool.Sort

/-!
# The tools by name
-/

namespace JavacLauncher.Tool

/-- The tools that start no other programs, by name. -/
def table : List (Text × Body) :=
  [("cat", cat), ("tac", tac), ("rev", rev), ("nl", nl), ("fold", fold), ("head", head), ("tail", tail), ("wc", wc),
    ("tee", tee), ("yes", yes), ("sort", sort), ("uniq", uniq), ("cut", cut), ("paste", paste), ("comm", comm),
    ("join", join), ("tr", tr), ("basename", basename), ("dirname", dirname), ("readlink", readlink),
    ("realpath", realpath), ("pwd", pwd), ("printenv", printenv), ("echo", echo), ("printf", printf),
    ("test", test false), ("[", test true), ("true", succeed), ("false", failAlways), ("sleep", sleep),
    ("sync", succeed), ("uname", uname), ("arch", arch), ("hostname", hostname), ("whoami", whoami),
    ("logname", logname), ("groups", groups), ("id", id_), ("tty", tty), ("nproc", nproc), ("which", which),
    ("mktemp", mktemp), ("touch", touch), ("mkdir", mkdir), ("mkfifo", mkfifo), ("ln", ln), ("rmdir", rmdir),
    ("rm", rm), ("unlink", unlink), ("cp", cp), ("mv", mv), ("chmod", chmod), ("truncate", truncate),
    ("expr", expr), ("seq", seq), ("grep", grep), ("egrep", grepWith ['-', 'E']), ("fgrep", grepWith ['-', 'F'])].map fun e => (e.1.toList, e.2)

/-- The tools that start other programs, by name. -/
def startingTable : List (Text × (Starter → Body)) :=
  [("env", env), ("nohup", nohup), ("setsid", setsid), ("stdbuf", stdbuf), ("nice", nice), ("timeout", timeout),
    ("xargs", xargs), ("sed", sed), ("mawk", awk)].map fun e => (e.1.toList, e.2)

/-- The names of all tools. -/
def names : List Text := table.map (·.1) ++ startingTable.map (·.1)

end JavacLauncher.Tool
