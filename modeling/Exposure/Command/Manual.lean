/-
# Command.Manual — the help of every command

The help of a command says what it does and how it is used, then lists its
examples, the commands below it and its flags.
-/
import Exposure.Command.Verb

namespace Exposure.Verb

set_option autoImplicit false

/-- Lines with their ends. -/
def lines (ls : List String) : String := String.join (ls.map (· ++ "\n"))

/-- How a session is prepared, and how all later ones are. -/
def sessions (current : String) (later : List String) : List String :=
  ["To load completions in your current shell session:", "", current, ""] ++ later

/-- How all later sessions are prepared on two systems. -/
def systems (linux macos : String) : List String :=
  ["To load completions for every new session, execute once:", "", "#### Linux:", "", linux, "",
    "#### macOS:", "", macos, "",
    "You will need to start a new shell for this setup to take effect."]

/-- What a command does. -/
def description : Verb → List String
  | .analysis => [
    "vulnreach builds the call graph of a program and reports, for every",
    "tracked vulnerability, the call paths from the program's entry points to the",
    "vulnerable constructs. It also lists the library constructs the program can",
    "reach and the calls that cross from application into library code.",
    "",
    "Exit status is 1 when any vulnerability is reachable, 2 on error."]
  | .completion => [
    "Generate the autocompletion script for vulnreach for the specified shell.",
    "See each sub-command's help for details on how to use the generated script."]
  | .script .bash => [
    "Generate the autocompletion script for the bash shell.",
    "",
    "This script depends on the 'bash-completion' package.",
    "If it is not installed already, you can install it via your OS's package manager.",
    ""]
    ++ sessions "\tsource <(vulnreach completion bash)" (systems
      "\tvulnreach completion bash > /etc/bash_completion.d/vulnreach"
      "\tvulnreach completion bash > $(brew --prefix)/etc/bash_completion.d/vulnreach")
  | .script .zsh => [
    "Generate the autocompletion script for the zsh shell.",
    "",
    "If shell completion is not already enabled in your environment you will need",
    "to enable it.  You can execute the following once:",
    "",
    "\techo \"autoload -U compinit; compinit\" >> ~/.zshrc",
    ""]
    ++ sessions "\tsource <(vulnreach completion zsh)" (systems
      "\tvulnreach completion zsh > \"$\x7bfpath[1]\x7d/_vulnreach\""
      "\tvulnreach completion zsh > $(brew --prefix)/share/zsh/site-functions/_vulnreach")
  | .script .fish => [
    "Generate the autocompletion script for the fish shell.",
    ""]
    ++ sessions "\tvulnreach completion fish | source" [
      "To load completions for every new session, execute once:",
      "",
      "\tvulnreach completion fish > ~/.config/fish/completions/vulnreach.fish",
      "",
      "You will need to start a new shell for this setup to take effect."]
  | .script .powershell => [
    "Generate the autocompletion script for powershell.",
    ""]
    ++ sessions "\tvulnreach completion powershell | Out-String | Invoke-Expression" [
      "To load completions for every new session, add the output of the above command",
      "to your powershell profile."]

/-- How a command is used. -/
def usage : Verb → String
  | .analysis => "vulnreach --bugs bugs.yaml [packages...] [flags]"
  | .completion => "vulnreach completion [command]"
  | .script .bash => "vulnreach completion bash"
  | .script s => (Verb.script s).path ++ " [flags]"

def examples : Verb → List String
  | .analysis => [
    "  vulnreach --bugs bugs.yaml ./...                " ++
      "# Analyze the Go module in the current directory",
    "  vulnreach --bugs bugs.yaml --shortest ./cmd/...  # Only the shortest path per entry point",
    "  vulnreach --bugs bugs.yaml --graph graph.yaml    # Analyze a prebuilt call graph",
    "  vulnreach --bugs bugs.yaml --out results ./...   # Write JSON documents to results/",
    "  vulnreach -c vulnreach.toml --bugs bugs.yaml     # Read a TOML configuration"]
  | _ => []

/-- The width of the column with the names of commands. -/
def nameWidth : Nat := 11

/-- The line of a command in the help of the one above it. -/
def belowLine (name summary : String) : String :=
  "  " ++ name ++ String.ofList (List.replicate (nameWidth - name.length) ' ') ++ " " ++ summary

/-- A part of the help with a title, if there is anything in it. -/
def part (title : String) (ls : List String) : String :=
  if ls.isEmpty then "" else "\n" ++ lines ((title ++ ":") :: ls)

/-- The help of a command. -/
def helpText (v : Verb) : String :=
  lines v.description ++ part "Usage" ["  " ++ v.usage] ++ part "Examples" v.examples
    ++ part "Available Commands" (v.below.map fun (name, summary) => belowLine name summary)
    ++ part "Flags" (Flag.helpLines v.ownFlags)
    ++ part "Global Flags" (Flag.helpLines v.inheritedFlags)
    ++ (if v.below.isEmpty then ""
      else "\nUse \"" ++ v.path ++ " [command] --help\" for more information about a command.\n")

end Exposure.Verb
