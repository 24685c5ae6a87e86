import Enquiry.Host.Octets
import Enquiry.Text.Search

/-!
# Accounts

The users that a machine knows.
-/

namespace Enquiry.Host

open Text

structure Account where
  name : String
  number : Nat
  home : String
  shell : String
  deriving DecidableEq, Repr

namespace Account

/-- The accounts of a machine. -/
def all : List Account :=
  [⟨"root", 0, "/root", "/bin/bash"⟩, ⟨"daemon", 1, "/usr/sbin", "/usr/sbin/nologin"⟩,
    ⟨"bin", 2, "/bin", "/usr/sbin/nologin"⟩, ⟨"sys", 3, "/dev", "/usr/sbin/nologin"⟩,
    ⟨"sync", 4, "/bin", "/bin/sync"⟩, ⟨"man", 6, "/var/cache/man", "/usr/sbin/nologin"⟩,
    ⟨"mail", 8, "/var/mail", "/usr/sbin/nologin"⟩,
    ⟨"www-data", 33, "/var/www", "/usr/sbin/nologin"⟩,
    ⟨"nobody", 65534, "/nonexistent", "/usr/sbin/nologin"⟩]

/-- The line of an account in the list of the machine. -/
def line (a : Account) : Octets :=
  let number := decimal a.number
  List.intercalate [':']
    [a.name.toList, ['x'], number, number, a.name.toList, a.home.toList, a.shell.toList] ++ ['\n']

/-- The home of the user with some name. -/
def home? (name : Octets) : Option Octets :=
  (all.find? fun a => octets a.name == name).map fun a => octets a.home

end Account

end Enquiry.Host
