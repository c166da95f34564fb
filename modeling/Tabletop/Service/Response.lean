import Tabletop.Report

/-!
# Responses and announcements

What a command is answered with (`Response`), and what is announced of a roll (`Announcement`),
each with its form as data (`Response.toValue`, `Announcement.toValue`).
-/

namespace Tabletop

/-- The answer to a command. -/
inductive Response where
  /-- A result, and its chat text. -/
  | rolled (result : Result) (chat : Text)
  /-- An explanation. -/
  | explained (chat : Text)
  | failed (error : Text)

namespace Response

/-- Whether a response reports a success. -/
def isSuccess : Response → Bool
  | rolled _ _ => true
  | explained _ => true
  | failed _ => false

/-- The result that a response reports. -/
def result? : Response → Option Result
  | rolled result _ => some result
  | explained _ => none
  | failed _ => none

/-- The member that holds a chat text. -/
def chatMember (chat : Text) : Text × Value := ("formatted", .text chat)

/-- A response as data. -/
def toValue : Response → Value
  | rolled result chat =>
    .object [("success", .bool true), ("result", .object (result.members ++ [chatMember chat]))]
  | explained chat => .object [("success", .bool true), ("result", .object [chatMember chat])]
  | failed error => .object [("success", .bool false), ("error", .text error)]

end Response

/-- What is announced of a roll. -/
structure Announcement where
  channel : Value
  user : Value
  result : Result
  description : Option Text

namespace Announcement

/-- The description, which may be missing, as data. -/
def descriptionValue (a : Announcement) : Value :=
  match a.description with
  | none => .null
  | some description => .text description

/-- An announcement as data, at a point of time. -/
def toValue (a : Announcement) (now : Text) : Value :=
  let before : List (Text × Value) :=
    [("timestamp", .text now), ("channel", a.channel), ("user", a.user)]
  .object (before ++ a.result.members ++ [(Text.ofString "description", a.descriptionValue)])

end Announcement

end Tabletop
