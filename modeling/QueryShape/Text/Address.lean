import QueryShape.Text.Blank

/-!
# Mail and web addresses

Simple checks, both on the text without the white space at its ends.  A mail address has one `@`
between a name and a domain of at least two labels; a web address starts with one of two schemes and
has more than ten bytes.
-/

namespace QueryShape.Text

/-- The parts of a text between its points. -/
def labels : List Char → List (List Char)
  | [] => [[]]
  | c :: rest =>
      if c = '.' then [] :: labels rest
      else match labels rest with
        | [] => [[c]]
        | label :: others => (c :: label) :: others

def isEmail (text : List Char) : Bool :=
  let trimmed := trim text
  let mailbox := trimmed.takeWhile (· ≠ '@')
  match trimmed.dropWhile (· ≠ '@') with
  | [] => false
  | _ :: domain =>
      !mailbox.isEmpty && !domain.isEmpty && !domain.contains '@' &&
        domain.contains '.' && (labels domain).all (!·.isEmpty)

def byteCount (text : List Char) : Nat :=
  text.foldl (fun count c => count + c.utf8Size) 0

def isUrl (text : List Char) : Bool :=
  let trimmed := trim text
  ("http://".toList.isPrefixOf trimmed || "https://".toList.isPrefixOf trimmed) &&
    10 < byteCount trimmed

end QueryShape.Text
