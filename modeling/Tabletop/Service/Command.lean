import Tabletop.Text.CodePoint

/-!
# Commands

The chat commands that the service answers (`Command`), each on a subject of its own, and the
subject on which rolls are announced (`rolledSubject`).
-/

namespace Tabletop

/-- A chat command. -/
inductive Command where
  /-- Roll a line of notation. -/
  | roll
  /-- Roll the first word of a line, and describe the roll by the rest. -/
  | describe
  /-- Explain the commands. -/
  | help
  deriving DecidableEq

namespace Command

/-- The commands in the order in which they are subscribed to. -/
def all : List Command := [roll, describe, help]

/-- The subject of a command. -/
def subject : Command → Text
  | roll => "dicebox.command.dice.roll"
  | describe => "dicebox.command.dice.describe"
  | help => "dicebox.command.dice.help"

theorem mem_all (c : Command) : c ∈ all := by cases c <;> simp [all]

theorem nodup_all : all.Nodup := by decide

theorem subject_inj {c d : Command} (h : c.subject = d.subject) : c = d := by
  cases c <;> cases d <;> simp [subject, Text.ofString_inj] at h ⊢

end Command

/-- The subject on which rolls are announced. -/
def rolledSubject : Text := "dicebox.event.dice.rolled"

end Tabletop
