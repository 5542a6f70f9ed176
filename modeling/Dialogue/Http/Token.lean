/-
Tokens that prove to a service who is asking.

Before every request the token is refreshed.  A provider is described by what it gives
after each number of refreshes: an error, or a token, or none for an open service.
-/
import Dialogue.Text.Blank

namespace Dialogue.Http

/-- Where tokens come from. -/
structure TokenProvider where
  /-- The error of a refresh, by the number of refreshes so far. -/
  refreshError : Nat → Option String
  token : Nat → Option String

/-- A fixed token without the white space around it; a blank one is none. -/
def fixedToken (token : String) : Option String :=
  let t := Text.trim token
  if t = "" then none else some t

/-- Always the same token, which needs no refreshing. -/
def TokenProvider.fixed (token : Option String) : TokenProvider :=
  ⟨fun _ => none, fun _ => token⟩

end Dialogue.Http
