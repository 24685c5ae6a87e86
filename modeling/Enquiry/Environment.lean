import Enquiry.Assignment
import Enquiry.Text.Search
import Enquiry.Text.Utf8

/-!
# Environments

The variables of a process. A variable is looked up by its exact name.

An environment is one of texts. The block that a process is started with may hold any bytes, and
a variable of it whose name or value is not UTF-8 has no place here: it is left out when the block
is read (`Environment.ofBlock`), so it is not handed on to an engine either, which otherwise gets
every variable as it is.
-/

namespace Enquiry

open Text

/-- The variables of a process, by name. -/
structure Environment where
  entries : List (String × String)
  deriving DecidableEq, Repr

namespace Environment

/-- No variables. -/
def empty : Environment := ⟨[]⟩

/-- The value of a variable. -/
def get? (env : Environment) (name : String) : Option String := env.entries.lookup name

/-- The environment with a variable set. -/
def set (env : Environment) (name value : String) : Environment :=
  ⟨assign name value env.entries⟩

/-- The environment with some variables set, one after another. -/
def setAll (env : Environment) (pairs : List (String × String)) : Environment :=
  pairs.foldl (fun env (name, value) => env.set name value) env

/-- The variables in the block of a process: each ends with a zero byte. One whose name or value
is not UTF-8 is left out, and with it what a process started in this environment would have been
given under that name. -/
def ofBlock (block : List UInt8) : Environment :=
  ⟨(List.splitOn 0 block).filterMap fun entry =>
    (Utf8.decode? entry).bind fun chars =>
      let (name, value) := breakOn '=' chars
      if name.isEmpty then none else some (String.ofList name, String.ofList value)⟩

/-- The home directory of the account when the environment names none. -/
def accountHome : String := "/root"

/-- The home directory. -/
def home (env : Environment) : String :=
  match env.get? "HOME" with
  | some home => if home.isEmpty then accountHome else home
  | none => accountHome

end Environment

end Enquiry
