import ServiceDiscovery.Log.Entry
import ServiceDiscovery.Proofs.Log.Json
import ServiceDiscovery.Proofs.Outcome

/-!
What can be read back from a line of the log. A template puts nothing into a message but characters
and halves of pairs, and the line of an entry is one JSON object of printable ASCII, so whatever an
entry says, its line has the same fields and no end but its own.
-/

namespace ServiceDiscovery.Log

open Text Text.Points

namespace Entry

/-- The line of an entry with a time and a message is one JSON object of printable ASCII, from which
each part of the entry is read back, the fault exactly if there is one. A part is read point for
point, but for halves that make a pair; a text of characters has none. -/
theorem json_reads_back {time : Time} {entry : Entry} {moment : Moment} {message : Points}
    (hmoment : time.moment entry.offset = .ok moment)
    (hmessage : Template.fill entry.template entry.arguments = .ok message) :
    ∃ line, entry.json time = .ok line ∧ Json.Printable line.toList ∧
      Json.read? line.toList = some (
        [(ofString "timestamp", ofString moment.textInMilliseconds),
          (ofString "level", (Level.nameOf entry.level).lower.paired),
          (ofString "component", entry.component.paired),
          (ofString "thread", entry.thread.paired),
          (ofString "message", message.paired)] ++
        (entry.fault.map fun fault => (ofString "exception", fault.text.paired)).toList) ∧
      (∀ part : Points, part.Unpaired → part.paired = part) ∧ ∀ s, (ofString s).Unpaired := by
  let line : Line := {
    level := Level.nameOf entry.level
    component := entry.component
    thread := entry.thread
    message
    fault := entry.fault }
  refine ⟨line.timedJson moment, ?_, ?_, ?_, fun _ => paired_eq_self, unpaired_ofString⟩
  · rw [json, hmoment, hmessage]
    rfl
  · rw [Line.timedJson, String.toList_ofList]
    exact Json.printable_object _
  · rw [Line.timedJson, String.toList_ofList, Json.read?_object]
    cases hfault : entry.fault <;>
      simp [Line.timedFields, Line.fields, line, hfault, paired_ofString]

/-- A message that would end its line and begin one of its own is read as it is, with the quotes,
the line break, the character past the first plane and the half of a pair that came from its
argument. -/
theorem json_reads_back_of_forgery :
    let forged := ofString "x\"\x7d\n\x7b\"level\": \"🎉" ++ [.ofCode 0xDC80]
    let entry : Entry := {
      level := .int 30
      component := "nsd\"kit"
      thread := "Main\nThread"
      template := "found %s"
      arguments := [.broken forged]
      fault := some (.outside .value "é\x7f\\") }
    ∃ line, entry.json (.whole 0) = .ok line ∧ Json.Printable line.toList ∧
      Json.read? line.toList = some
        [(ofString "timestamp", ofString "1970-01-01T00:00:00.000"),
          (ofString "level", ofString "warning"),
          (ofString "component", ofString "nsd\"kit"),
          (ofString "thread", ofString "Main\nThread"),
          (ofString "message", ofString "found " ++ forged),
          (ofString "exception", ofString "ValueError: é\x7f\\")] := by
  intro forged entry
  have hmoment : (Time.whole 0).moment entry.offset = .ok ⟨⟨1970, 1, 1⟩, 0, 0, 0, 0, none⟩ := by
    decide +kernel
  have hmessage : Template.fill entry.template entry.arguments =
      .ok (ofString "found " ++ forged) := by decide +kernel
  obtain ⟨line, hline, hprintable, hread, -⟩ := json_reads_back hmoment hmessage
  refine ⟨line, hline, hprintable, ?_⟩
  rw [hread]
  decide +kernel

end Entry

end ServiceDiscovery.Log
