import CampusLedger.Cli.Flags
import CampusLedger.Settings
import CampusLedger.Token
/-!
# The token command

`token -account NAME [-ttl DURATION]` prints a bearer token for an account, signed with the
key and issuer of the server's settings, which it reads from the environment. A lifetime that
is not positive takes the settings' token lifetime instead.

The account is checked before the settings are read. A bad account or bad settings end the
command with exit code 1 and the message on the error stream; bad flags end it with exit code
2, and a request for help with exit code 0, after the usage text. A token signed with the
development key comes with a warning on the error stream.
-/

namespace CampusLedger.Cli

def tokenProgram : String := "token"

def tokenFlags : List Flag :=
  [⟨"account", .text, "account ID to place in the sub claim"⟩,
   ⟨"ttl", .duration, "token lifetime (defaults to JWT_TOKEN_TTL)"⟩]

def devKeyWarning : String := "token: warning: signed with the development key\n"

/-- Runs the token command at `now`, naming the token `id`. -/
def tokenCommand (args : List String) (env : Environment) (now : Instant) (id : String) : Outcome :=
  match parseFlags tokenFlags [] args with
  | .help => { exitCode := 0, stderr := usage tokenProgram tokenFlags }
  | .refused m => { exitCode := 2, stderr := m ++ "\n" ++ usage tokenProgram tokenFlags }
  | .given values _ =>
    match AccountId.parse (textOf values "account").toUTF8.toList with
    | .error e => { exitCode := 1, stderr := "token: -account: " ++ e.text ++ "\n" }
    | .ok account =>
      match Settings.ofEnvironment env with
      | .error ms => { exitCode := 1, stderr := "token: load config: " ++ "\n".intercalate ms ++ "\n" }
      | .ok cfg =>
        let given := durationOf values "ttl"
        let ttl := if given ≤ 0 then cfg.auth.tokenTtl else given
        let warning := if cfg.usesDevSigningKey then devKeyWarning else ""
        match Token.issue cfg.auth.signingKey cfg.auth.issuer account ttl now id with
        | .error e => { exitCode := 1, stderr := warning ++ "token: " ++ e.text ++ "\n" }
        | .ok token => { exitCode := 0, stdout := token ++ "\n", stderr := warning }

end CampusLedger.Cli
