/-
All programs by their names.
-/
import PageScript.Shell.Edit.Run
import PageScript.Shell.Program.Blocks
import PageScript.Shell.Program.Columns
import PageScript.Shell.Program.Copy
import PageScript.Shell.Program.Digest
import PageScript.Shell.Program.Encoding
import PageScript.Shell.Program.Files
import PageScript.Shell.Program.Listing
import PageScript.Shell.Program.Moment
import PageScript.Shell.Program.Names
import PageScript.Shell.Program.Order
import PageScript.Shell.Program.Paragraph
import PageScript.Shell.Program.Precedence
import PageScript.Shell.Program.Removal
import PageScript.Shell.Program.Replace
import PageScript.Shell.Program.Search
import PageScript.Shell.Program.Tabs
import PageScript.Shell.Program.Test
import PageScript.Shell.Program.Transfer
import PageScript.Shell.Program.Units

namespace PageScript.Shell.Program

def table : List (String × (Call → Effect)) :=
  [("[", test .program), ("arch", saying "x86_64"), ("base32", encodingIn .base32),
    ("base64", encodingIn .base64), ("basename", basename), ("cat", cat), ("chmod", chmod),
    ("cksum", cksum), ("cp", cp), ("cut", cut), ("date", date), ("dd", dd), ("dir", dir),
    ("dirname", dirname), ("echo", echo .program), ("egrep", grep), ("expr", expr),
    ("false", ending 1), ("fgrep", grep), ("fmt", fmt), ("grep", grep), ("groups", groups),
    ("head", head), ("id", identity), ("logname", logname), ("ls", ls),
    ("md5sum", digestProgram "md5"), ("mkdir", mkdir), ("mv", mv), ("nproc", nproc),
    ("numfmt", numfmt), ("od", od), ("printenv", printenv), ("printf", printf .program),
    ("pwd", pwd), ("rev", rev), ("rm", rm), ("rmdir", rmdir), ("sed", Edit.sed), ("seq", seq),
    ("sha256sum", digestProgram "sha256"), ("sleep", sleep), ("sort", sort), ("sync", ending 0),
    ("tac", tac), ("tail", tail), ("tee", tee), ("test", test .program), ("touch", touch),
    ("tr", tr), ("true", ending 0), ("truncate", truncate), ("tsort", tsort),
    ("tty", saying "not a tty" 1), ("uname", uname), ("unexpand", unexpand), ("uniq", uniq),
    ("vdir", vdir), ("wc", wc), ("whoami", saying "root"), ("yes", yes)]

def starters : List String :=
  ["awk", "dash", "env", "find", "kill", "mawk", "nawk", "nice", "nohup", "sh", "timeout", "which"]

def names : List String :=
  starters ++ table.map Prod.fst

end PageScript.Shell.Program
