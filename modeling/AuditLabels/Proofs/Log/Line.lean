import Mathlib
import AuditLabels.Log.Setup
import AuditLabels.Proofs.Text.Pieces

/-!
# What a line is about

The line of an event says which part of the program it comes from and what happened.  Both can be
read off the line again.
-/

namespace AuditLabels.Log

/-! ## The last line -/

namespace Logger

variable {l : Logger} {events : List Event} {e : Event}

/-- An event that is admitted is written behind all others. -/
theorem lines_append_of_admits (h : l.filter.admits e = true) :
    l.lines (events ++ [e]) = l.lines events ++ [e.line l.layer] := by
  rw [lines, List.filter_append, List.filter_cons_of_pos h, List.filter_nil, List.map_append]
  rfl

theorem lines_append_of_not_admits (h : ¬ l.filter.admits e = true) :
    l.lines (events ++ [e]) = l.lines events := by
  rw [lines, List.filter_append, List.filter_cons_of_neg h, List.filter_nil, List.append_nil]
  rfl

end Logger

/-! ## Targets and messages -/

/-- A line about an event of the target with the message.  What is written behind the message may
be anything. -/
def Line.IsAbout (target message : String) : Line → Prop
  | object v => ∃ (level : Level) (fields : Fields), v = .object
      [("level", .text level.name), ("fields", .object (("message", .text message) :: fields)),
       ("target", .text target)]
  | plain s => ∃ (level : Level) (rest : String),
      s = level.name ++ " " ++ target ++ ": " ++ message ++ rest

/-- The line of an event is about it. -/
theorem Event.isAbout_line (l : Layer) (e : Event) :
    (e.line l).IsAbout e.target e.message := by
  rw [line]
  split
  · exact ⟨e.level, e.fields, rfl⟩
  · exact ⟨e.level, String.join (e.fields.map fieldText), rfl⟩

theorem Level.blank_notMem_name (l : Level) : ' ' ∉ l.name.toList := by
  cases l <;> decide

/-- A line is about no other target, and about no message that begins differently. -/
theorem Line.IsAbout.of_line {l : Layer} {e : Event} {target message : String}
    (h : (e.line l).IsAbout target message) (htarget : ' ' ∉ target.toList)
    (he : ' ' ∉ e.target.toList) :
    e.target = target ∧
      message.toList <+: e.message.toList ++ (String.join (e.fields.map fieldText)).toList := by
  have hcolon : ∀ {x : List Char}, ' ' ∉ x → ' ' ∉ x ++ [':'] := by
    intro x hx
    simpa using hx
  rw [Event.line] at h
  split at h
  · obtain ⟨level, fields, heq⟩ := h
    simp only [Event.json, Json.object.injEq, List.cons.injEq, Prod.mk.injEq, Json.text.injEq,
      true_and, and_true] at heq
    obtain ⟨-, ⟨hmessage, -⟩, htarget⟩ := heq
    exact ⟨htarget, hmessage ▸ List.prefix_append _ _⟩
  · obtain ⟨level, rest, heq⟩ := h
    have hchars : e.level.name.toList ++ ' ' :: ((e.target.toList ++ [':']) ++ ' ' ::
          (e.message.toList ++ (String.join (e.fields.map fieldText)).toList)) =
        level.name.toList ++ ' ' :: ((target.toList ++ [':']) ++ ' ' ::
          (message.toList ++ rest.toList)) := by
      simpa [Event.plain, String.toList_append] using congrArg String.toList heq
    obtain ⟨-, hbehind⟩ :=
      Text.eq_of_first (Level.blank_notMem_name _) (Level.blank_notMem_name _) hchars
    obtain ⟨htargets, hmessages⟩ := Text.eq_of_first (hcolon he) (hcolon htarget) hbehind
    exact ⟨String.toList_injective (List.append_cancel_right htargets),
      hmessages ▸ List.prefix_append _ _⟩

end AuditLabels.Log
