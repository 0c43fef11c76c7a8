import Rpn.Bytes

/-! The users and groups that the system knows by name.  Part of the test environment. -/

namespace Rpn.Host

structure Account where
  name : String
  number : Nat
  group : Nat
  home : String
  title : String
  shell : String

namespace Account

def all : List Account :=
  [ ⟨"root", 0, 0, "/root", "root", "/bin/bash"⟩,
    ⟨"daemon", 1, 1, "/usr/sbin", "daemon", "/usr/sbin/nologin"⟩,
    ⟨"bin", 2, 2, "/bin", "bin", "/usr/sbin/nologin"⟩,
    ⟨"sys", 3, 3, "/dev", "sys", "/usr/sbin/nologin"⟩,
    ⟨"sync", 4, 65534, "/bin", "sync", "/bin/sync"⟩,
    ⟨"games", 5, 60, "/usr/games", "games", "/usr/sbin/nologin"⟩,
    ⟨"man", 6, 12, "/var/cache/man", "man", "/usr/sbin/nologin"⟩,
    ⟨"lp", 7, 7, "/var/spool/lpd", "lp", "/usr/sbin/nologin"⟩,
    ⟨"mail", 8, 8, "/var/mail", "mail", "/usr/sbin/nologin"⟩,
    ⟨"news", 9, 9, "/var/spool/news", "news", "/usr/sbin/nologin"⟩,
    ⟨"uucp", 10, 10, "/var/spool/uucp", "uucp", "/usr/sbin/nologin"⟩,
    ⟨"proxy", 13, 13, "/bin", "proxy", "/usr/sbin/nologin"⟩,
    ⟨"www-data", 33, 33, "/var/www", "www-data", "/usr/sbin/nologin"⟩,
    ⟨"backup", 34, 34, "/var/backups", "backup", "/usr/sbin/nologin"⟩,
    ⟨"list", 38, 38, "/var/list", "Mailing List Manager", "/usr/sbin/nologin"⟩,
    ⟨"irc", 39, 39, "/run/ircd", "ircd", "/usr/sbin/nologin"⟩,
    ⟨"_apt", 42, 65534, "/nonexistent", "", "/usr/sbin/nologin"⟩,
    ⟨"nobody", 65534, 65534, "/nonexistent", "nobody", "/usr/sbin/nologin"⟩ ]

def groups : List (String × Nat) :=
  [ ("root", 0), ("daemon", 1), ("bin", 2), ("sys", 3), ("adm", 4), ("tty", 5), ("disk", 6),
    ("lp", 7), ("mail", 8), ("news", 9), ("uucp", 10), ("man", 12), ("proxy", 13), ("kmem", 15),
    ("dialout", 20), ("fax", 21), ("voice", 22), ("cdrom", 24), ("floppy", 25), ("tape", 26),
    ("sudo", 27), ("audio", 29), ("dip", 30), ("www-data", 33), ("backup", 34), ("operator", 37),
    ("list", 38), ("irc", 39), ("src", 40), ("shadow", 42), ("utmp", 43), ("video", 44),
    ("sasl", 45), ("plugdev", 46), ("staff", 50), ("games", 60), ("users", 100),
    ("nogroup", 65534) ]

def ofName? (name : Bytes) : Option Account :=
  all.find? fun account => ascii account.name == name

def ofNumber? (number : Nat) : Option Account :=
  all.find? (·.number == number)

def homeOf? (name : Bytes) : Option Bytes :=
  (ofName? name).map fun account => ascii account.home

def userName (number : Nat) : Bytes :=
  match ofNumber? number with
  | some account => ascii account.name
  | none => .ofNat number

def groupName (number : Nat) : Bytes :=
  match groups.find? (·.2 == number) with
  | some (name, _) => ascii name
  | none => .ofNat number

def userNumber? (text : Bytes) : Option Nat :=
  match ofName? text with
  | some account => some account.number
  | none => Bytes.toNat? text

def userLines : Bytes :=
  all.flatMap fun account =>
    Bytes.line (ascii account.name ++ ascii ":x:" ++ .ofNat account.number ++ ascii ":" ++
      .ofNat account.group ++ ascii ":" ++ ascii account.title ++ ascii ":" ++
      ascii account.home ++ ascii ":" ++ ascii account.shell)

def groupLines : Bytes :=
  groups.flatMap fun (name, number) =>
    Bytes.line (ascii name ++ ascii ":x:" ++ .ofNat number ++ ascii ":")

end Account

end Rpn.Host
