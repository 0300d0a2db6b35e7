/-
# Command.Script — scripts that complete command lines

A script tells a shell to ask the command itself how a line can go on.  It hands
on the words that are offered, and in a shell that shows it what they mean.
-/
import Exposure.Command.Verb

namespace Exposure.Shell

set_option autoImplicit false

/-- The name of the request that a script makes; only one shell shows what words mean. -/
def request (s : Shell) (described : Bool) : String :=
  if s == .fish && described then CommandLine.requestName else CommandLine.plainRequestName

/-- The lines of a script, given the name of its request. -/
def scriptLines (request : String) : Shell → List String
  | .bash => [
    "# bash completion for vulnreach",
    "_vulnreach() \x7b",
    "    local offered",
    "    offered=$(vulnreach " ++ request ++
      " \"$\x7bCOMP_WORDS[@]:1:COMP_CWORD\x7d\" 2>/dev/null)",
    "    COMPREPLY=($(compgen -W \"$\x7boffered%:*\x7d\" -- \"$\x7bCOMP_WORDS[COMP_CWORD]\x7d\"))",
    "\x7d",
    "complete -o default -F _vulnreach vulnreach"]
  | .fish => [
    "# fish completion for vulnreach",
    "complete -c vulnreach -a '(vulnreach " ++ request
      ++ " (commandline -opc)[2..-1] (commandline -ct) 2>/dev/null | string match -v \":*\")'"]
  | .powershell => [
    "# powershell completion for vulnreach",
    "Register-ArgumentCompleter -Native -CommandName vulnreach -ScriptBlock \x7b",
    "    param($word, $line, $cursor)",
    "    $before = $line.CommandElements | Select-Object -Skip 1 | ForEach-Object \x7b \"$_\" \x7d"
      ++ " | Where-Object \x7b $_ -ne $word \x7d",
    "    vulnreach " ++ request ++
      " @before $word 2>$null | Where-Object \x7b $_ -notlike ':*' \x7d",
    "\x7d"]
  | .zsh => [
    "#compdef vulnreach",
    "_vulnreach() \x7b",
    "    local -a offered",
    "    offered=(\"$\x7b(@f)$(vulnreach " ++ request ++
      " \"$\x7b(@)words[2,CURRENT]\x7d\" 2>/dev/null)\x7d\")",
    "    compadd -- \"$\x7b(@)offered:#:*\x7d\"",
    "\x7d",
    "compdef _vulnreach vulnreach"]

/-- The script for a shell. -/
def script (s : Shell) (described : Bool) : String :=
  String.join ((scriptLines (s.request described) s).map (· ++ "\n"))

end Exposure.Shell
