import KeywordSuite.Mail.Attachments
import KeywordSuite.Mail.Summary
import KeywordSuite.Suite.Surroundings

/-! # Sending the summary mail

A message is handed to a mail server in stages. Once the connection stands it is given up at the
end, whatever happened. Sending answers whether the mail was sent; faults of delivery and of files
are only logged.
-/

namespace KeywordSuite

structure MailMessage where
  sender : String
  recipients : List String
  subject : String
  body : Page
  attachments : List MailAttachment

namespace MailMessage

def recipientText (m : MailMessage) : String := ", ".intercalate m.recipients

def partCount (m : MailMessage) : Nat := m.attachments.length + 1

end MailMessage

inductive MailCall
  | connect (host : String) (service : Int) (timeout : Nat)
  | startTls
  | login (user password : String)
  | send (m : MailMessage)
  | quit

def MailCall.stage : MailCall → String
  | .connect .. => "connect"
  | .startTls => "starttls"
  | .login .. => "login"
  | .send _ => "send"
  | .quit => "quit"

def MailCall.arguments : MailCall → List Value
  | .connect host service timeout => [.text host, .int service, .int timeout]
  | .login user password => [.text user, .text password]
  | .send m => [.text m.sender, .text m.recipientText, .text m.subject, .int m.partCount]
  | .startTls | .quit => []

abbrev MailServer (ε : Type) := MailCall → Act (Host ε) Unit

/-- The results a reporter has learned of, and whether the last mail was sent. -/
structure MailReporter where
  results : List CaseResult := []
  lastSent : Option Bool := none

namespace MailReporter

variable {ε : Type} (settings : Settings) (server : MailServer ε)

/-- The results of a mail: those learned one by one, or those of the summary. -/
def resultsFor (r : MailReporter) (s : SuiteSummary) : List CaseResult :=
  if r.results.isEmpty then s.results else r.results

def bodyFor (r : MailReporter) (s : SuiteSummary) (now : Timestamp) : Except Fault Page :=
  MailSummary.body settings s (r.resultsFor s) now

def message (r : MailReporter) (s : SuiteSummary) : Act (Host ε) MailMessage := do
  let now := (← get).localNow
  let body ← Act.ofExcept (bodyFor settings r s now)
  let attachments ← MailAttachment.all settings
  return ⟨settings.smtpUsername, settings.emailRecipients, MailSummary.subject settings s now, body,
    attachments⟩

def converse (m : MailMessage) : Act (Host ε) Unit := do
  if settings.smtpUseTls then server .startTls
  if settings.smtpUsername ≠ "" then server (.login settings.smtpUsername settings.smtpPassword)
  server (.send m)

/-- Connects, sends and quits; a fault of quitting is the one that counts. -/
def transmit (m : MailMessage) : Act (Host ε) Unit := do
  server (.connect settings.smtpHost settings.smtpPort 60)
  let outcome ← (converse settings server m).outcome
  server .quit
  Act.ofExcept outcome

def deliver (m : MailMessage) : Act (Host ε) Unit := do
  let recipients := settings.emailRecipients
  if recipients.isEmpty then
    throw (.suite (.delivery "smtp" none) "No email recipients configured" none [] none)
  match ← (transmit settings server m).attempt with
  | .ok _ => return ()
  | .error fault =>
    if fault.isSystem then
      throw (.suite (.delivery "smtp" (some recipients))
        ("Failed to send email report: " ++ fault.message) none [] (some fault))
    else throw fault

/-- Builds and sends the mail of a summary: whether it was sent. -/
def send (r : MailReporter) (s : SuiteSummary) : Act (Host ε) Bool := do
  Host.logging .info "Preparing to send email report"
  let act : Act (Host ε) Unit := do deliver settings server (← message settings r s)
  match ← act.attempt with
  | .ok _ =>
    Host.logging .info
      ("Email report sent successfully to: " ++ ", ".intercalate settings.emailRecipients)
    return true
  | .error fault =>
    match fault with
    | .suite (.delivery ..) .. =>
      Host.logging .error fault.message
      return false
    | _ =>
      if fault.isSystem || fault.isValue then
        Host.logging .error ("Error preparing email report: " ++ fault.message)
        return false
      else throw fault

variable (kept : Place ε MailReporter)

def change (f : MailReporter → MailReporter) : Act (Host ε) Unit :=
  modify fun h => { h with outer := kept.set (f (kept.get h.outer)) h.outer }

def learn (result : CaseResult) : Act (Host ε) Unit :=
  change kept fun r => { r with results := r.results ++ [result] }

def conclude (s : SuiteSummary) : Act (Host ε) Unit := do
  if settings.emailEnabled then
    let sent ← send settings server (kept.get (← get).outer) s
    change kept fun r => { r with lastSent := some sent }
  else Host.logging .info "Email reporting disabled; skipping summary email"

def listener : Listener (Host ε) where
  name := "EmailReporter"
  tell news :=
    match news with
    | .result result => learn kept result
    | .finished s => conclude settings server kept s

end MailReporter

end KeywordSuite
