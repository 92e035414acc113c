namespace PollAudit

/-- A list of answers given one after the other, the last one for ever. -/
abbrev Script (α : Type) := List α

/-- The next answer of a script, and the script after it. An empty script has none. -/
def Script.next? {α : Type} : Script α → Option α × Script α
  | [] => (none, [])
  | [last] => (some last, [last])
  | first :: rest => (some first, rest)

end PollAudit
