import Rpn.Shell.Builtin.Variables

/-! Settings of the extended language.  Only serves the test environment. -/

namespace Rpn.Shell.Builtin

def settingNames : List String :=
  ["autocd", "assoc_expand_once", "cdable_vars", "cdspell", "checkhash", "checkjobs",
    "checkwinsize", "cmdhist", "compat31", "compat32", "compat40", "compat41", "compat42",
    "compat43", "compat44", "complete_fullquote", "direxpand", "dirspell", "dotglob", "execfail",
    "expand_aliases", "extdebug", "extglob", "extquote", "failglob", "force_fignore",
    "globasciiranges", "globskipdots", "globstar", "gnu_errfmt", "histappend", "histreedit",
    "histverify", "hostcomplete", "huponexit", "inherit_errexit", "interactive_comments",
    "lastpipe", "lithist", "localvar_inherit", "localvar_unset", "login_shell", "mailwarn",
    "no_empty_cmd_completion", "nocaseglob", "nocasematch", "noexpand_translation", "nullglob",
    "patsub_replacement", "progcomp", "progcomp_alias", "promptvars", "restricted_shell",
    "shift_verbose", "sourcepath", "varredir_close", "xpg_echo"]

def usualSettings : List Bytes :=
  ["checkwinsize", "cmdhist", "complete_fullquote", "extquote", "force_fignore",
    "globasciiranges", "globskipdots", "hostcomplete", "interactive_comments",
    "patsub_replacement", "progcomp", "promptvars", "sourcepath"].map ascii

def usualOptions : List Bytes :=
  ["braceexpand", "hashall", "interactive-comments"].map ascii

def settingLine (asCommand : Bool) (name : Bytes) (on : Bool) : Bytes :=
  if asCommand then Bytes.line (ascii (if on then "shopt -s " else "shopt -u ") ++ name)
  else Bytes.line (filledUp 15 name ++ Ascii.tab :: ascii (if on then "on" else "off"))

def shopt : Builtin := fun _ _ arguments => do
  let (letters, names) ← optionLetters "supqo" "shopt" arguments
  let has := fun (letter : Char) => letters.contains letter.toNat.toUInt8
  let isOption := has 'o'
  let known := if isOption then extendedOptionNames else settingNames
  let isOn := fun (name : Bytes) => do
    let shell ← get
    return (if isOption then shell.options else shell.settings).contains name
  let line := fun (name : Bytes) (on : Bool) =>
    if isOption ∧ has 'p' then
      Bytes.line (ascii (if on then "set -o " else "set +o ") ++ name)
    else settingLine (has 'p') name on
  if names = [] then
    if has 'q' then return 0
    let lines ← known.mapM fun name => do
      let on ← isOn (ascii name)
      if (has 's' && !on) || (has 'u' && on) then return []
      else return line (ascii name) on
    print lines.flatten
  else
    let statuses ← names.mapM fun name => do
      if !known.any (ascii · == name) then
        Run.complain (ascii "shopt: " ++ name ++ ascii ": invalid shell option name")
        return 1
      else if has 's' || has 'u' then
        if isOption then setOption name (has 's')
        else
          modify fun shell =>
            let others := shell.settings.filter (· ≠ name)
            { shell with settings := if has 's' then name :: others else others }
        return 0
      else
        let on ← isOn name
        if !has 'q' then
          let _ ← print (line name on)
        return if on then 0 else 1
    return if statuses.any (· ≠ 0) then 1 else 0

end Rpn.Shell.Builtin
