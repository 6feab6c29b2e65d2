import PortableSql.Text.Blank
import PortableSql.Text.Prefix

/-!
# Kinds of statements

A statement is classified by its first keyword. Blanks, opening parentheses and comments in front
of it are skipped.
-/
namespace PortableSql

/-- Kind of a statement. -/
inductive StatementType where
  | unknown
  | insert
  | select
  | update
  | delete
  | other
  deriving DecidableEq, Repr

namespace StatementType

/-- Name of the kind. -/
def name : StatementType → String
  | unknown => "Unknown"
  | insert => "Insert"
  | select => "Select"
  | update => "Update"
  | delete => "Delete"
  | other => "Other"

/-- The text behind the first occurrence of `mark`, or nothing at all. -/
def afterMark (mark : List Char) : List Char → List Char
  | [] => []
  | c :: rest =>
    match mark.isPrefixOf? (c :: rest) with
    | some after => after
    | none => afterMark mark rest

/-- Blanks and opening parentheses. -/
def isLeading (c : Char) : Bool :=
  Text.isBlank c || c == '('

theorem length_afterMark_le (mark text : List Char) :
    (afterMark mark text).length ≤ text.length := by
  induction text with
  | nil => simp [afterMark]
  | cons c rest ih =>
    rw [afterMark]
    split
    · next after h =>
      rw [Text.eq_append_of_isPrefixOf? h, List.length_append]
      omega
    · simp; omega

theorem length_dropWhile_le (p : Char → Bool) (text : List Char) :
    (text.dropWhile p).length ≤ text.length :=
  (List.dropWhile_suffix p).length_le

/-- The text from its first keyword on. -/
def skipLeading (text : List Char) : List Char :=
  match _ : text.dropWhile isLeading with
  | '-' :: '-' :: comment => skipLeading (afterMark ['\n'] comment)
  | '/' :: '*' :: comment => skipLeading (afterMark ['*', '/'] comment)
  | rest => rest
termination_by text.length
decreasing_by
  all_goals
    have h := length_dropWhile_le isLeading text
    rename_i hdrop
    rw [hdrop] at h
    have := length_afterMark_le ['\n'] comment
    have := length_afterMark_le ['*', '/'] comment
    simp at h
    omega

/-- The kind that a keyword in lower case begins. -/
def ofKeyword (word : String) : StatementType :=
  if word = "" then unknown
  else if word = "select" ∨ word = "values" then select
  else if word = "insert" then insert
  else if word = "update" then update
  else if word = "delete" then delete
  else other

/-- The kind of a statement. -/
def ofSql (sql : String) : StatementType :=
  let word := (skipLeading sql.toList).takeWhile Char.isAlpha
  ofKeyword (String.ofList (word.map Char.toLower))

end StatementType

end PortableSql
