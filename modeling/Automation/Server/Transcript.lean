import Automation.Json.Writer
import Automation.Rehearsal.Transcript
import Automation.Server.Basic
import Automation.Value.Sorted

/-!
# Transcripts of servers

Runs call the systems around whenever their turn comes. The calls are listed by their times, and
those of one time by their texts, so that the list does not depend on whose turn came first.
-/

namespace Automation

/-- A call with its time, as a document and as a text. -/
structure TranscriptLine where
  reading : Nat
  document : Value
  text : String

/-- A call at a reading of the clock as a line. -/
def TranscriptLine.of (entry : Nat × Call) : TranscriptLine :=
  let document := (transcriptEntry entry.1 entry.2).sortFields
  { reading := entry.1, document, text := Json.write document }

/-- Whether a line may stand before another. -/
def TranscriptLine.precedes (l m : TranscriptLine) : Bool :=
  l.reading < m.reading || (l.reading == m.reading && decide (l.text ≤ m.text))

variable {τ : Type}

/-- The calls behind the first few, as documents. -/
def Server.transcriptFrom (s : Server τ) (count : Nat) : List Value :=
  let lines := (s.calls.take (s.calls.length - count)).map TranscriptLine.of
  (lines.mergeSort TranscriptLine.precedes).map (·.document)

end Automation
