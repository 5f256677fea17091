/-!
# Mail messages

A pickup mail is plain text (`Mail.message`): five header fields, `From`, `To`, `Subject`,
`MIME-Version` and `Content-Type`, each ended by CR LF, an empty line, then the body with every
line feed written as CR LF, and a final CR LF. The subject has each CR and LF replaced by a
space, so that it stays one header line.
-/

namespace DeliveryFleet.Mail

/-- A header value with line breaks turned into spaces. -/
def flatten (s : String) : String := s.map fun c => if c == '\r' || c == '\n' then ' ' else c

/-- A body with every line feed written as CR LF. -/
def crlfBody (s : String) : String :=
  String.ofList (s.toList.flatMap fun c => if c == '\n' then ['\r', '\n'] else [c])

/-- The text of a mail. -/
def message (sender recipient subject body : String) : String :=
  "From: " ++ sender ++ "\r\n" ++
  "To: " ++ recipient ++ "\r\n" ++
  "Subject: " ++ flatten subject ++ "\r\n" ++
  "MIME-Version: 1.0\r\n" ++
  "Content-Type: text/plain; charset=UTF-8\r\n" ++
  "\r\n" ++
  crlfBody body ++ "\r\n"

end DeliveryFleet.Mail
