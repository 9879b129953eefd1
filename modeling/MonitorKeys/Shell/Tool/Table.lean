import MonitorKeys.Shell.Tool.Awk
import MonitorKeys.Shell.Tool.Characters
import MonitorKeys.Shell.Tool.Columns
import MonitorKeys.Shell.Tool.Counting
import MonitorKeys.Shell.Tool.Digest
import MonitorKeys.Shell.Tool.Dump
import MonitorKeys.Shell.Tool.Expr
import MonitorKeys.Shell.Tool.Files
import MonitorKeys.Shell.Tool.Listing
import MonitorKeys.Shell.Tool.Saying
import MonitorKeys.Shell.Tool.Searching
import MonitorKeys.Shell.Tool.Sed
import MonitorKeys.Shell.Tool.Sorting
import MonitorKeys.Shell.Tool.Starting
import MonitorKeys.Shell.Tool.Xargs

/-!
# The programs of the system

All programs that shell commands can start, under their names.
-/

namespace MonitorKeys.Shell.Tool

/-- The programs by their names. -/
def all : List (String × Tool) :=
  [("[", Saying.test true), ("awk", Awk.awk), ("base32", Dump.inLetters Dump.fiveBits),
   ("base64", Dump.inLetters Dump.sixBits), ("basename", Listing.basename), ("cat", cat),
   ("chmod", Files.chmod), ("cksum", Digest.cksum), ("cp", Files.cp), ("cut", Columns.cut),
   ("dd", dd), ("dirname", Listing.dirname), ("echo", Saying.echo), ("egrep", Grep.grep 'E'),
   ("env", Starting.env), ("expand", Columns.expand), ("expr", Expr.expr),
   ("false", Saying.failing), ("fgrep", Grep.grep 'F'), ("find", Listing.find),
   ("fold", Columns.fold), ("grep", Grep.grep 'G'), ("head", head), ("kill", Saying.kill),
   ("ln", Files.ln), ("ls", Listing.ls), ("mawk", Awk.awk),
   ("md5sum", Digest.program "MD5" 32 Digest.md5), ("mkdir", Files.mkdir),
   ("mktemp", Files.mktemp), ("mv", Files.mv), ("nice", Starting.nice), ("nl", Counting.nl),
   ("nohup", Starting.nohup), ("od", Dump.od), ("paste", Columns.paste),
   ("printenv", Starting.printenv), ("printf", Saying.printf), ("pwd", Saying.pwd),
   ("readlink", Listing.readlink), ("realpath", Listing.realpath), ("rev", rev), ("rm", Files.rm),
   ("rmdir", Files.rmdir), ("sed", Sed.sed), ("seq", Counting.seq), ("setsid", Starting.setsid),
   ("sha1sum", Digest.program "SHA1" 40 Digest.sha1),
   ("sha224sum", Digest.program "SHA224" 56 Digest.sha224),
   ("sha256sum", Digest.program "SHA256" 64 Digest.sha256),
   ("sha384sum", Digest.program "SHA384" 96 Digest.sha384),
   ("sha512sum", Digest.program "SHA512" 128 Digest.sha512), ("sleep", Saying.sleep),
   ("sort", Sorting.sort), ("stat", Listing.stat), ("stdbuf", Starting.stdbuf),
   ("strings", Dump.strings), ("sum", Digest.sum), ("tac", tac), ("tail", tail), ("tee", tee),
   ("test", Saying.test false), ("timeout", Starting.timeout), ("touch", Files.touch),
   ("tr", Characters.tr), ("true", Saying.succeed), ("truncate", Files.truncate),
   ("unexpand", Columns.unexpand), ("uniq", Sorting.uniq), ("unlink", Files.unlink),
   ("wc", Counting.wc), ("which", Listing.which), ("xargs", Xargs.xargs), ("yes", yes)]

/-- The program of a name. -/
def find? (name : String) : Option Tool :=
  all.lookup name

end MonitorKeys.Shell.Tool
