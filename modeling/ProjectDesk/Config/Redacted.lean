import ProjectDesk.Config.Basic
import ProjectDesk.Text.Quoted

/-!
Mail settings as they may be shown in a log: without the password.
-/

namespace ProjectDesk

def boolWord (b : Bool) : String :=
  if b then "true" else "false"

def fieldList (fields : List (String × String)) : String :=
  ", ".intercalate (fields.map fun (name, text) => name ++ ": " ++ text)

def EmailConfig.redacted (c : EmailConfig) : String :=
  "EmailConfig \x7b " ++
    fieldList [("host", Text.quoted c.host), ("port", Text.decimal c.port),
      ("identity", Text.quoted c.identity), ("username", Text.quoted c.username),
      ("password", Text.quoted "*****"), ("from", Text.quoted c.sender),
      ("ssl", boolWord c.ssl), ("insecure", boolWord c.insecure)] ++ " \x7d"

def SmtpSettings.redacted (s : SmtpSettings) : String :=
  "SmtpSettings \x7b " ++
    fieldList [("address", Text.quoted s.address), ("username", Text.quoted s.username),
      ("timeout", s.timeout.text), ("use_ssl", boolWord s.useSsl),
      ("insecure_skip_verify", boolWord s.insecureSkipVerify), ("from", Text.quoted s.sender)] ++
    ", .. \x7d"

end ProjectDesk
