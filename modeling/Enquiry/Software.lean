import Enquiry.Host.World
import Enquiry.Shell.Session
import Enquiry.Tool.Awk.Run
import Enquiry.Tool.Bytes
import Enquiry.Tool.Characters
import Enquiry.Tool.Copying
import Enquiry.Tool.Counting
import Enquiry.Tool.Difference
import Enquiry.Tool.Extent
import Enquiry.Tool.Facts
import Enquiry.Tool.Grep
import Enquiry.Tool.Launching
import Enquiry.Tool.Listing
import Enquiry.Tool.Names
import Enquiry.Tool.Order
import Enquiry.Tool.Places
import Enquiry.Tool.Script.Run
import Enquiry.Tool.Sed.Editor
import Enquiry.Tool.Sums
import Enquiry.Tool.Values

/-!
# Software

The programs of a machine by name: the shells, and the tools that scripts call. They stand in for
what is installed where an engine is run, and they are reached through `Engine.hosted` alone.
-/

namespace Enquiry

open Host

/-- The tools by name. -/
def tools : List (String × (List Octets → Tool Unit)) :=
  [("cat", Tool.cat), ("tac", Tool.tac), ("rev", Tool.rev), ("tee", Tool.tee), ("yes", Tool.yes),
    ("head", Tool.head), ("tail", Tool.tail), ("wc", Tool.wc), ("uniq", Tool.uniq),
    ("nl", Tool.nl), ("seq", Tool.seq), ("tr", Tool.tr), ("cut", Tool.cut), ("paste", Tool.paste),
    ("fold", Tool.fold), ("expand", Tool.expand), ("sort", Tool.sort), ("comm", Tool.comm),
    ("join", Tool.join), ("grep", Tool.grep), ("egrep", Tool.egrep), ("fgrep", Tool.fgrep),
    ("basename", Tool.basename), ("dirname", Tool.dirname), ("readlink", Tool.readlink),
    ("realpath", Tool.realpath), ("pwd", Tool.pwd), ("env", Tool.env),
    ("printenv", Tool.printenv), ("sleep", Tool.sleep), ("timeout", Tool.timeout),
    ("nohup", Tool.nohup), ("nice", Tool.nice), ("setsid", Tool.setsid),
    ("stdbuf", Tool.stdbuf), ("xargs", Tool.xargs), ("kill", Tool.kill), ("mkdir", Tool.mkdir),
    ("rmdir", Tool.rmdir), ("rm", Tool.rm), ("unlink", Tool.unlink), ("cp", Tool.cp),
    ("mv", Tool.mv), ("ln", Tool.ln), ("chmod", Tool.chmod), ("touch", Tool.touch),
    ("truncate", Tool.truncate), ("mktemp", Tool.mktemp), ("ls", Tool.ls), ("stat", Tool.stat),
    ("find", Tool.find), ("date", Tool.date), ("id", Tool.showIdentity), ("whoami", Tool.whoami),
    ("uname", Tool.uname), ("hostname", Tool.hostname), ("nproc", Tool.nproc), ("tty", Tool.tty),
    ("od", Tool.od), ("base64", Tool.base64), ("dd", Tool.dd), ("cmp", Tool.cmp),
    ("diff", Tool.diff), ("cksum", Tool.cksum), ("md5sum", Tool.sums Tool.sum128),
    ("sha1sum", Tool.sums Tool.sum160), ("sha256sum", Tool.sums Tool.sum256),
    ("echo", Tool.echo), ("printf", Tool.printf), ("test", Tool.test), ("[", Tool.bracket),
    ("expr", Tool.expr), ("sed", Tool.sed), ("awk", Tool.awk), ("mawk", Tool.awk),
    ("factor", Tool.factor), ("which", Tool.which), ("python3", Tool.script),
    ("python3.11", Tool.script)]

/-- All programs. -/
def software : Programs :=
  [("true", fun _ _ => .exit 0), ("false", fun _ _ => .exit 1), ("sh", Shell.Session.task false),
    ("dash", Shell.Session.task false), ("bash", Shell.Session.task true)] ++
    tools.map fun (name, run) => (name, Tool.task run)

end Enquiry
