/-
This file holds the events of markup: elements that begin and end, and texts, with all references
decoded.
-/

import DynamicSql.Markup.Lexeme

namespace DynamicSql.Markup

/-- An event. An empty element is one event; what is passed over is one, too. -/
inductive Event where
  | start (tag : Tag)
  | empty (tag : Tag)
  | finish (name : String)
  | text (text : String)
  | skipped
  deriving DecidableEq

/-- Why a lexeme is no event. -/
inductive EventFault where
  | tag (fault : TagFault)
  | text (fault : EntityFault)
  deriving DecidableEq

/-- The message for a fault. -/
def EventFault.message : EventFault → String
  | .tag fault => fault.message
  | .text fault => fault.message

/-- The event that a lexeme is. -/
def Event.ofLexeme : Lexeme → Except EventFault Event
  | .opening inside =>
    match Tag.read inside with
    | .ok tag => .ok (.start tag)
    | .error fault => .error (.tag fault)
  | .empty inside =>
    match Tag.read inside with
    | .ok tag => .ok (.empty tag)
    | .error fault => .error (.tag fault)
  | .closing name => .ok (.finish (String.ofList name))
  | .text encoded =>
    match decode encoded with
    | .ok decoded => .ok (.text (String.ofList decoded))
    | .error fault => .error (.text fault)
  | .characterData data => .ok (.text (String.ofList data))
  | .skipped => .ok .skipped

end DynamicSql.Markup
