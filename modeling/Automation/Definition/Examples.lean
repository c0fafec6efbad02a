import Automation.Definition.Basic

/-!
# Example definitions

Two complete workflows to start from.
-/

namespace Automation.Definition

/-- Text qualified callers, then queue a task. -/
def qualifiedLeadFollowUp : Definition where
  name := "Qualified Lead Follow Up"
  description := some "Text qualified callers and queue a follow-up task"
  enabled := true
  category := .followUp
  trigger := { kind := .callCompleted, conditions := { leadQualified := some true } }
  actions :=
    [{ id := "thank_you_sms"
       name := some "Thank the caller"
       nextAction := some "follow_up_task"
       work := .action <| .sendSms
        { recipient := "\x7b\x7blead_phone\x7d\x7d"
          message := "Thanks for calling \x7b\x7bbusiness_name\x7d\x7d!" } },
     { id := "follow_up_task"
       name := some "Follow up"
       work := .action <| .createTask
        { title := "Follow up with \x7b\x7blead_name\x7d\x7d"
          description := none
          kind := "follow_up"
          priority := "high"
          dueDate := none } }]
  vars := [("business_name", "Acme Plumbing")]

/-- Branch on what is known about the caller, and try again after a day. -/
def missedCallRecovery : Definition where
  name := "Missed Call Recovery"
  description := some "Branch on call sentiment and nudge the lead again after a day"
  enabled := true
  category := .leadNurture
  trigger :=
    { kind := .callCompleted, conditions := { callStatus := some ["no-answer", "failed"] } }
  actions :=
    [{ id := "check_email"
       nextAction := some "wait_a_day"
       work := .condition
        { condition := "\x7b\x7blead_email\x7d\x7d !== ''"
          trueActions := ["recovery_email"]
          falseActions := ["recovery_sms"] } },
     { id := "recovery_email"
       work := .action <| .sendEmail
        { recipient := "\x7b\x7blead_email\x7d\x7d"
          subject := "Sorry we missed you"
          body := "<p>Hi \x7b\x7blead_name\x7d\x7d, reply to book a time.</p>"
          attachments := [] } },
     { id := "recovery_sms"
       work := .action <| .sendSms
        { recipient := "\x7b\x7blead_phone\x7d\x7d", message := "Sorry we missed your call!" } },
     { id := "wait_a_day"
       nextAction := some "note"
       work := .delay { duration := 1.0, unit := .days } },
     { id := "note"
       work := .action <| .addNote
        { targetId := "\x7b\x7blead_id\x7d\x7d", text := "Recovery sequence sent" } }]

end Automation.Definition
