import Automation.Proofs.Definition.Plain
import Automation.Proofs.Definition.Reading
import Automation.Proofs.Json.Reading
import Automation.Proofs.Json.RoundTrip

/-!
# Definitions written and read again

A definition that was read of data is read again of its wire form and of its JSON text
(`Definition.reads_again`). Only nulls are left out of the wire form, so its floats are those of the
definition.
-/

namespace Automation

open Schema

namespace Definition

variable {d : Definition}

theorem wellFormed_of_read {v : Value} (h : Definition.read v = .ok d) : d.WellFormed :=
  codec_ensures.of_read v d (read_eq_ok.mp h)

theorem read_wire (h : d.WellFormed) : Definition.read d.wire = .ok d :=
  read_eq_ok.mpr (codec_restores h).read

theorem wire_plain {v : Value} (hv : v.Plain) (h : Definition.read v = .ok d) : d.wire.Plain :=
  codec_keeps.plain hv (read_eq_ok.mp h) .wire

/-- The wire form of a definition is an object. -/
theorem wire_object (d : Definition) : ∃ fields, d.wire = .object fields := ⟨_, rfl⟩

theorem ofJson_toJson (h : d.WellFormed) (hplain : d.wire.Plain) (hfinite : d.wire.Finite) :
    ofJson d.toJson = .ok d := by
  obtain ⟨fields, hfields⟩ := wire_object d
  rw [ofJson, toJson, Json.read_pretty hplain hfinite, hfields]
  exact hfields ▸ read_wire h

/-- A definition that was read of a JSON text is read again of its own. -/
theorem ofJson_toJson_of_ofJson {s : String} (h : ofJson s = .ok d) (hfinite : d.wire.Finite) :
    ofJson d.toJson = .ok d := by
  unfold ofJson at h
  split at h
  · rename_i fields hread
    exact ofJson_toJson (wellFormed_of_read h) (wire_plain (Json.plain_of_read hread) h) hfinite
  all_goals cases h

/-- A definition that was read of an object is read again of its wire form, which stays as it is, and
of its JSON text. -/
theorem reads_again {v : Entries Value} (h : Definition.read (Value.object v) = .ok d) :
    Definition.read d.wire = .ok d ∧ (Definition.read d.wire).map wire = .ok d.wire ∧
      ((Value.object v).Plain → d.wire.Finite → ofJson d.toJson = .ok d) := by
  have hwell := wellFormed_of_read h
  refine ⟨read_wire hwell, by rw [read_wire hwell]; rfl, fun hplain hfinite => ?_⟩
  exact ofJson_toJson hwell (wire_plain hplain h) hfinite

/-- Data of a definition that marks a lead and waits. Its names are in snake case, a flag is a word and
a pause is a text. -/
def markAndWaitData : Entries Value :=
  [("name", .text "Mark and wait"), ("enabled", .text "yes"),
   ("trigger", .object [("type", .text "manual")]),
   ("actions", .list
     [.object [("id", .text "mark"), ("next_action", .text "wait"), ("type", .text "update_lead"),
       ("config", .object [("lead_id", .text "7"),
         ("lead_data", .object [("note", .null), ("score", .int 7)])])],
      .object [("id", .text "wait"), ("type", .text "delay"),
        ("config", .object [("duration", .text "1.5")])]])]

/-- The definition that the data describes. -/
def markAndWait : Definition where
  name := "Mark and wait"
  enabled := true
  trigger := { kind := .manual }
  actions :=
    [{ id := "mark", nextAction := some "wait",
       work := .action (.updateLead
         { leadId := "7", leadData := [("note", .null), ("score", .int 7)] }) },
     { id := "wait", work := .delay { duration := 1.5, unit := .minutes } }]

theorem markAndWait_read : Definition.read (Value.object markAndWaitData) = .ok markAndWait := by
  decide +kernel

theorem markAndWait_plain : (Value.object markAndWaitData).Plain := by
  have hseven : (Nat.toDigits 10 7).length ≤ Number.digitLimit := by decide
  simpa [markAndWaitData, Entries.keys] using hseven

/-- The definition on the wire: in camel case, and without the fields that are null. The data of the
lead keeps its null. -/
theorem markAndWait_wire : markAndWait.wire = .object
    [("name", .text "Mark and wait"), ("enabled", .bool true),
     ("trigger", .object [("type", .text "manual"), ("conditions", .object [])]),
     ("actions", .list
       [.object [("id", .text "mark"), ("nextAction", .text "wait"), ("entry", .bool false),
         ("abortOnFailure", .bool false), ("type", .text "update_lead"),
         ("config", .object [("leadId", .text "7"),
           ("leadData", .object [("note", .null), ("score", .int 7)])])],
        .object [("id", .text "wait"), ("entry", .bool false), ("abortOnFailure", .bool false),
         ("type", .text "delay"),
         ("config", .object [("duration", .float 1.5), ("unit", .text "minutes")])]]),
     ("variables", .object []), ("category", .text "custom"), ("version", .int 1),
     ("tags", .list [])] := by
  decide +kernel

theorem markAndWait_finite : markAndWait.wire.Finite := by
  intro x hx
  have hpause : x = 1.5 := by simpa [markAndWait_wire] using hx
  subst hpause
  decide +kernel

/-- The definition is read again of its wire form and of its JSON text. -/
theorem markAndWait_reads_again : Definition.read markAndWait.wire = .ok markAndWait ∧
    (Definition.read markAndWait.wire).map wire = .ok markAndWait.wire ∧
    ofJson markAndWait.toJson = .ok markAndWait := by
  obtain ⟨hread, hwire, hjson⟩ := reads_again markAndWait_read
  exact ⟨hread, hwire, hjson markAndWait_plain markAndWait_finite⟩

end Definition

end Automation
