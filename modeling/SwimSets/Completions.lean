import SwimSets.Command.Request

/-!
# Completions

A script for each shell that completes the first word after the name of the program to one of its
commands.
-/

namespace SwimSets.Completions

/-- The commands that the program holds, with a space between each two. -/
def words : Text := Text.join [' '] (Program.command.members.map (·.info.name))

/-- The same in single quotes, with a comma between each two. -/
def quotedWords : Text :=
  Text.join ", ".toList (Program.command.members.map fun c => '\'' :: (c.info.name ++ ['\'']))

/-- The script for a shell. -/
def script : Shell → Text
  | .bash => "complete -W '".toList ++ words ++ "' ".toList ++ Program.name ++ ['\n']
  | .zsh =>
    "#compdef ".toList ++ Program.name ++ "\ncompadd ".toList ++ words ++ ['\n']
  | .fish =>
    "complete -c ".toList ++ Program.name ++ " -f -n __fish_use_subcommand -a '".toList ++ words ++
      "'\n".toList
  | .elvish =>
    "set edit:completion:arg-completer[".toList ++ Program.name ++ "] = \x7b|@a| put ".toList ++
      words ++ " \x7d\n".toList
  | .powershell =>
    "Register-ArgumentCompleter -Native -CommandName ".toList ++ Program.name ++
      " -ScriptBlock \x7b param($word) @(".toList ++ quotedWords ++
      ") -like \"$word*\" \x7d\n".toList

end SwimSets.Completions
