/-
What a line typed into the shell asks for.

A line that starts with a slash is a command; any other that is not blank is a question.
-/
import Dialogue.Text.Blank

namespace Dialogue.Shell

/-- What a user can ask the shell for. -/
inductive Command where
  | ask (question : String)
  | newChat
  | openChat (chatId : String)
  | stop
  | showSettings
  | set (key value : String)
  | quit
  | unknown (name : String)
  deriving DecidableEq, Repr

/-- The command behind a slash. -/
def Command.named (name argument : String) : Command :=
  if name = "new" then .newChat
  else if name = "open" then .openChat argument
  else if name = "stop" then .stop
  else if name = "settings" then .showSettings
  else if name = "set" then
    match Text.splitAtBlank argument with
    | some (key, value) => .set key (Text.trim value)
    | none => .set argument ""
  else if name = "quit" || name = "exit" then .quit
  else .unknown name

/-- A blank line asks for nothing. -/
def Command.parse? (line : String) : Option Command :=
  match (Text.trim line).toList with
  | [] => none
  | '/' :: rest =>
    let rest := String.ofList rest
    match Text.splitAtBlank rest with
    | some (name, argument) => some (.named name (Text.trim argument))
    | none => some (.named rest "")
  | _ => some (.ask (Text.trim line))

end Dialogue.Shell
