namespace PollAudit.Text

/-- Cuts a text at every character with a property. There is always a last piece, and it may be
empty. -/
def splitAt (cuts : Char → Bool) (text : List Char) : List (List Char) :=
  text.foldr
    (fun c found =>
      if cuts c then [] :: found
      else
        match found with
        | [] => [[c]]
        | piece :: rest => (c :: piece) :: rest)
    [[]]

/-- Cuts a text at every occurrence of a character. -/
def split (separator : Char) (text : List Char) : List (List Char) :=
  splitAt (· == separator) text

/-- Cuts a text at the last occurrence of a character, none if it does not occur. -/
def splitAtLast? (separator : Char) : List Char → Option (List Char × List Char)
  | [] => none
  | c :: rest =>
    match splitAtLast? separator rest with
    | some (front, back) => some (c :: front, back)
    | none => if c = separator then some ([], rest) else none

/-- Cuts a text at the first occurrence of a character. Without one, nothing is behind it. -/
def splitAtFirst (separator : Char) (text : List Char) : List Char × Option (List Char) :=
  match text.dropWhile (· != separator) with
  | [] => (text, none)
  | _ :: rest => (text.takeWhile (· != separator), some rest)

/-- Pieces with a character between them. -/
def join (separator : Char) (pieces : List (List Char)) : List Char :=
  List.intercalate [separator] pieces

end PollAudit.Text
