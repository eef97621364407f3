import Messaging.Proofs.Message.Document

/-!
Which messages have a document, and what is read back from it. The document is a text, whatever
the message holds.
-/
namespace Messaging

namespace Timestamp

/-- The local year has four digits, and the offset is a whole number of minutes, less than a day. -/
structure HasText (ts : Timestamp) : Prop where
  year : 0 ≤ ts.date.year ∧ ts.date.year ≤ 9999
  offset : ∃ minutes : Int, ts.offset.seconds = 60 * minutes ∧ |minutes| < 24 * 60

theorem Rfc3339.exists_write_iff (ts : Timestamp) : (∃ s, write ts = .ok s) ↔ ts.HasText := by
  have hoffset : (∃ minutes : Int, ts.offset.seconds = 60 * minutes ∧ |minutes| < 24 * 60)
      ↔ ts.offset.seconds.natAbs / 3600 < 24 ∧ ts.offset.seconds.natAbs % 60 = 0 := by
    constructor
    · rintro ⟨minutes, hseconds, hday⟩
      rw [abs_lt] at hday
      omega
    · rintro ⟨hday, hminutes⟩
      refine ⟨ts.offset.seconds / 60, by omega, ?_⟩
      rw [abs_lt]
      omega
  have hwrite : (∃ s, write ts = .ok s) ↔ (0 ≤ ts.date.year ∧ ts.date.year ≤ 9999)
      ∧ ts.offset.seconds.natAbs / 3600 < 24 ∧ ts.offset.seconds.natAbs % 60 = 0 := by
    rw [write]
    split_ifs with hyear hhour hminutes <;> simp_all
  rw [hwrite, ← hoffset]
  exact ⟨fun h => ⟨h.1, h.2⟩, fun h => ⟨h.year, h.offset⟩⟩

end Timestamp

namespace Message

theorem exists_toJson_iff (m : Message) :
    (∃ document, m.toJson = .ok document) ↔ m.createdAt.HasText := by
  rw [← Timestamp.Rfc3339.exists_write_iff, toJson]
  cases Timestamp.Rfc3339.write m.createdAt <;> simp [Except.map]

theorem isText_of_toJson {m : Message} {document : Bytes} (h : m.toJson = .ok document) :
    Utf8.IsText document := by
  rw [toJson] at h
  cases hwrite : Timestamp.Rfc3339.write m.createdAt with
  | error e => simp [hwrite, Except.map] at h
  | ok createdAt =>
    rw [hwrite, Except.map] at h
    rw [← Except.ok.inj h, jsonObject_eq]
    refine Json.isText_object fun item hitem => ?_
    obtain ⟨k, -, rfl⟩ := List.mem_map.mp hitem
    refine Json.isText_member ?_
    cases k with
    | hasRead => exact Json.isText_flag m.hasRead
    | _ => exact Json.isText_string _

/-- A message has a document exactly if its time has a text. The document is a text, and the
message is read back from it with all that it holds. -/
theorem toJson_round_trip (m : Message) :
    ((∃ document, m.toJson = .ok document) ↔ m.createdAt.HasText)
      ∧ ∀ document, m.toJson = .ok document → Utf8.IsText document ∧ ofJson document = .ok m :=
  ⟨m.exists_toJson_iff, fun _ h => ⟨isText_of_toJson h, ofJson_of_toJson h⟩⟩

/-- Sent in the last second of a leap day of the year 0, half an hour behind UTC. -/
def ofLeapDay : Message where
  messageId := .nil
  senderId := .nil
  receiverId := .nil
  body := "\"quoted\", \\ \n 😀"
  createdAt :=
    ⟨⟨0, 2, 29, by decide, by decide, by decide⟩, ⟨.last 23, .last 59, .last 59, ⟨120, by decide⟩⟩,
      ⟨-1800, by decide⟩⟩
  type := .link
  hasRead := true

theorem ofLeapDay_round_trip :
    ∃ document, ofLeapDay.toJson = .ok document ∧ Utf8.IsText document
      ∧ ofJson document = .ok ofLeapDay := by
  have htext : ofLeapDay.createdAt.HasText := ⟨by decide, -30, by decide, by decide⟩
  obtain ⟨document, hdocument⟩ := (toJson_round_trip ofLeapDay).1.mpr htext
  exact ⟨document, hdocument, (toJson_round_trip ofLeapDay).2 document hdocument⟩

end Message

end Messaging
