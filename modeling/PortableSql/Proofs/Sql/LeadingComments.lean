import PortableSql.Proofs.Sql.ByteTokens
import PortableSql.Proofs.Text.Numeral
import PortableSql.Sql.StatementType

/-!
# Comments in front of a statement

A statement is classified by what follows the comments in front of it, and the scan takes comments off
as well. Both end a block comment behind the first `*/`. The scan ends a `--` comment with its line, and
the classification at the next line feed. So they disagree behind a carriage return without a line feed:
the next line is still a comment to the classification.

## Main statements

* `hasComment_line_iff`, `hasComment_block_iff` — the offsets at which the scan ends comments.
* `kind_behind_comments` — what a statement with comments in front of it is classified by.
* `statement_behind_return_skipped` — where this is not what the scan leaves behind the comments.
-/
namespace PortableSql

open Text

namespace StatementType

variable {text comment inside after rest : List Char} {c : Char}

/-! ## What is skipped -/

theorem skipLeading_line (h : text.dropWhile isLeading = '-' :: '-' :: comment) :
    skipLeading text = skipLeading (afterMark ['\n'] comment) := by
  rw [skipLeading]
  split
  · next heq =>
    rw [h] at heq
    cases heq
    rfl
  · next heq =>
    rw [h] at heq
    cases heq
  · next hline _ => exact absurd h (hline comment)

theorem skipLeading_block (h : text.dropWhile isLeading = '/' :: '*' :: comment) :
    skipLeading text = skipLeading (afterMark ['*', '/'] comment) := by
  rw [skipLeading]
  split
  · next heq =>
    rw [h] at heq
    cases heq
  · next heq =>
    rw [h] at heq
    cases heq
    rfl
  · next hblock => exact absurd h (hblock comment)

/-- Nothing is skipped in front of a letter. -/
theorem skipLeading_of_isAlpha (h : text.dropWhile isLeading = c :: rest) (hc : c.isAlpha = true) :
    skipLeading text = c :: rest := by
  rw [skipLeading]
  split
  · next heq =>
    rw [h] at heq
    cases heq
    cases hc
  · next heq =>
    rw [h] at heq
    cases heq
    cases hc
  · exact h

/-- Blanks and parentheses in front make no difference. -/
theorem skipLeading_cons (h : isLeading c = true) : skipLeading (c :: rest) = skipLeading rest := by
  rw [skipLeading, skipLeading, List.dropWhile_cons_of_pos h]

/-! ## Where comments end -/

theorem afterMark_close_cons (c : Char) (rest : List Char) : afterMark ['*', '/'] (c :: rest) =
    if c = '*' ∧ rest.head? = some '/' then rest.tail else afterMark ['*', '/'] rest := by
  rw [afterMark, isPrefixOf?_cons_cons]
  by_cases hstar : c = '*'
  · subst hstar
    cases rest with
    | nil => rfl
    | cons d rest =>
      rw [if_pos (by decide), isPrefixOf?_cons_cons]
      by_cases hslash : d = '/'
      · subst hslash
        rfl
      · have hne : ('/' == d) = false := beq_eq_false_iff_ne.2 fun h => hslash h.symm
        simp [hslash, hne]
  · have hne : ('*' == c) = false := beq_eq_false_iff_ne.2 fun h => hstar h.symm
    simp [hstar, hne]

/-- **Both end a block comment behind the first `*/`.** -/
theorem afterMark_of_closeComment? (h : closeComment? comment = some (inside, after)) :
    afterMark ['*', '/'] comment = after := by
  induction comment generalizing inside with
  | nil => cases h
  | cons c rest ih =>
    rw [closeComment?] at h
    rw [afterMark_close_cons]
    split at h
    · next hclose =>
      cases h
      rw [if_pos hclose]
    · next hopen =>
      obtain ⟨⟨inside', after'⟩, hrest, heq⟩ := Option.map_eq_some_iff.1 h
      cases heq
      rw [if_neg hopen]
      exact ih hrest

theorem afterMark_lineFeed_cons (c : Char) (rest : List Char) :
    afterMark ['\n'] (c :: rest) = if c = '\n' then rest else afterMark ['\n'] rest := by
  rw [afterMark, isPrefixOf?_cons_cons]
  by_cases hc : c = '\n'
  · subst hc
    rfl
  · have hne : ('\n' == c) = false := beq_eq_false_iff_ne.2 fun h => hc h.symm
    simp [hc, hne]

/-- There is no line feed within a line. -/
theorem afterMark_dropWhile (text : List Char) :
    afterMark ['\n'] (text.dropWhile fun c => !isLineBreak c) = afterMark ['\n'] text := by
  induction text with
  | nil => rfl
  | cons c rest ih =>
    cases hc : isLineBreak c with
    | true => rw [List.dropWhile_cons_of_neg (by simp [hc])]
    | false =>
      have hne : c ≠ '\n' := by
        rintro rfl
        cases hc
      rw [List.dropWhile_cons_of_pos (by simp [hc]), ih, afterMark_lineFeed_cons, if_neg hne]

/-- A carriage return without a line feed behind it. -/
def LoneReturn (text : List Char) : Prop :=
  ∃ rest, text = '\r' :: rest ∧ rest.head? ≠ some '\n'

/-- **A line break that has a line feed is skipped** by either. -/
theorem skipLeading_lineBreak (hbreak : ∀ c ∈ text.head?, isLineBreak c = true)
    (hreturn : ¬ LoneReturn text) : skipLeading (afterMark ['\n'] text) = skipLeading text := by
  cases text with
  | nil => rfl
  | cons c rest =>
    have hc := hbreak c rfl
    rw [afterMark_lineFeed_cons]
    split
    · next hfeed =>
      subst hfeed
      exact (skipLeading_cons (by decide)).symm
    · next hne =>
      obtain rfl : c = '\r' := by simpa [isLineBreak, hne] using hc
      have hfeed : rest.head? = some '\n' := by
        by_contra hfeed
        exact hreturn ⟨rest, rfl, hfeed⟩
      rw [eq_cons_tail hfeed, afterMark_lineFeed_cons, if_pos rfl, skipLeading_cons (by decide),
        skipLeading_cons (by decide)]

/-! ## Comments in front -/

/-- What opens a comment to the end of the line. -/
def lineMark : List Char := ['-', '-']

/-- What opens a comment up to `*/`. -/
def blockMark : List Char := ['/', '*']

/-- Behind blanks and parentheses the text has a comment with the mark, and the scan leaves `after`
behind it. -/
structure HasComment (mark text after : List Char) : Prop where
  opens : mark <+: text.dropWhile isLeading
  scan : ∃ t, Token.scan? (text.dropWhile isLeading) = some (t, after)

theorem HasComment.line (h : HasComment lineMark text after) :
    ∃ comment, text.dropWhile isLeading = '-' :: '-' :: comment ∧
      after = comment.dropWhile fun c => !isLineBreak c := by
  obtain ⟨⟨comment, hcomment⟩, t, hscan⟩ := h
  rw [← hcomment] at hscan
  refine ⟨comment, hcomment.symm, ?_⟩
  cases hscan
  rfl

theorem HasComment.block (h : HasComment blockMark text after) :
    ∃ comment inside, text.dropWhile isLeading = '/' :: '*' :: comment ∧
      closeComment? comment = some (inside, after) := by
  obtain ⟨⟨comment, hcomment⟩, t, hscan⟩ := h
  rw [← hcomment] at hscan
  obtain ⟨⟨inside, after'⟩, hclose, heq⟩ := Option.map_eq_some_iff.1 hscan
  cases heq
  exact ⟨comment, inside, hcomment.symm, hclose⟩

/-! ## Offsets -/

/-- The offset of what stands behind blanks and parentheses. -/
def leadingWidth (sql : String) : ℕ :=
  Utf8.width (sql.toList.takeWhile isLeading)

theorem reads_leadingWidth (sql : String) :
    Utf8.Reads sql.toList (leadingWidth sql) (sql.toList.dropWhile isLeading) := by
  have h := ByteScan.reads_dropWhile isLeading (Utf8.Reads.zero sql.toList)
  rwa [Nat.zero_add] at h

/-- **A `--` comment ends at the end of the line.** -/
theorem hasComment_line_iff {sql : String} : HasComment lineMark sql.toList after ↔
    lineMark <+: sql.toList.dropWhile isLeading ∧
      Utf8.Reads sql.toList (ByteScan.lineEnd (Utf8.encode sql) (leadingWidth sql)) after := by
  have hline (comment : List Char) (h : sql.toList.dropWhile isLeading = '-' :: '-' :: comment) :
      Utf8.Reads sql.toList (ByteScan.lineEnd (Utf8.encode sql) (leadingWidth sql))
        (comment.dropWhile fun c => !isLineBreak c) := by
    have hreads := reads_leadingWidth sql
    rw [Utf8.encode_eq_bytesOf, Token.lineEnd_eq hreads]
    rw [h] at hreads ⊢
    exact ByteScan.reads_dropWhile (fun c => !isLineBreak c) hreads
  constructor
  · intro h
    obtain ⟨comment, hcomment, rfl⟩ := h.line
    exact ⟨h.opens, hline comment hcomment⟩
  · rintro ⟨⟨comment, hcomment⟩, hreads⟩
    obtain rfl := hreads.unique (hline comment hcomment.symm)
    refine ⟨⟨comment, hcomment⟩, ?_⟩
    rw [← hcomment]
    exact ⟨_, rfl⟩

/-- **A block comment ends behind the first `*/` behind its mark.** -/
theorem hasComment_block_iff {sql : String} : HasComment blockMark sql.toList after ↔
    blockMark <+: sql.toList.dropWhile isLeading ∧
      ∃ n, ByteScan.commentLength? ((Utf8.encode sql).drop (leadingWidth sql + 2)) = some n ∧
        Utf8.Reads sql.toList (leadingWidth sql + 2 + n) after := by
  have hcomment (comment : List Char) (h : sql.toList.dropWhile isLeading = '/' :: '*' :: comment) :
      Utf8.Reads sql.toList (leadingWidth sql + 2) comment := by
    have hreads := reads_leadingWidth sql
    rw [h] at hreads
    exact (hreads.cons (by decide)).cons (by decide)
  have hlength (comment : List Char) (h : sql.toList.dropWhile isLeading = '/' :: '*' :: comment) :
      ByteScan.commentLength? ((Utf8.encode sql).drop (leadingWidth sql + 2)) =
        (closeComment? comment).map fun closed => Utf8.width closed.1 := by
    rw [Utf8.encode_eq_bytesOf, (hcomment comment h).drop, ByteScan.commentLength?_bytesOf]
  constructor
  · intro h
    obtain ⟨comment, inside, htext, hclose⟩ := h.block
    refine ⟨h.opens, Utf8.width inside, ?_, ?_⟩
    · rw [hlength comment htext, hclose]
      rfl
    · have hreads := hcomment comment htext
      rw [closeComment?_source hclose] at hreads
      exact hreads.append
  · rintro ⟨⟨comment, htext⟩, n, hn, hreads⟩
    rw [hlength comment htext.symm] at hn
    obtain ⟨⟨inside, after'⟩, hclose, rfl⟩ := Option.map_eq_some_iff.1 hn
    have hrest := hcomment comment htext.symm
    rw [closeComment?_source hclose] at hrest
    obtain rfl := hreads.unique hrest.append
    refine ⟨⟨comment, htext⟩, .verbatim ('/' :: '*' :: inside), ?_⟩
    rw [← htext]
    exact Option.map_eq_some_iff.2 ⟨_, hclose, rfl⟩

/-! ## The kind of a statement -/

theorem ofSql_congr {sql sql' : String} (h : skipLeading sql.toList = skipLeading sql'.toList) :
    ofSql sql = ofSql sql' := by
  rw [ofSql, ofSql, h]

theorem skipLeading_hasComment_block (h : HasComment blockMark text after) :
    skipLeading text = skipLeading after := by
  obtain ⟨comment, inside, htext, hclose⟩ := h.block
  rw [skipLeading_block htext, afterMark_of_closeComment? hclose]

theorem skipLeading_hasComment_line (h : HasComment lineMark text after) :
    skipLeading text = skipLeading (afterMark ['\n'] after) := by
  obtain ⟨comment, htext, rfl⟩ := h.line
  rw [skipLeading_line htext, afterMark_dropWhile]

theorem HasComment.isLineBreak (h : HasComment lineMark text after) :
    ∀ c ∈ after.head?, isLineBreak c = true := by
  obtain ⟨comment, -, rfl⟩ := h.line
  intro c hc
  have hnot := List.head?_dropWhile_not (fun c => !PortableSql.isLineBreak c) comment
  rw [Option.mem_def.1 hc] at hnot
  simpa using hnot

/-- Any number of comments stand in front of `rest`, none of which ends at a carriage return alone. -/
inductive BehindComments : List Char → List Char → Prop
  | none (text : List Char) : BehindComments text text
  | block {text after rest : List Char} (h : HasComment blockMark text after)
    (hrest : BehindComments after rest) : BehindComments text rest
  | line {text after rest : List Char} (h : HasComment lineMark text after)
    (hreturn : ¬ LoneReturn after) (hrest : BehindComments after rest) : BehindComments text rest

theorem BehindComments.skipLeading_eq (h : BehindComments text rest) :
    skipLeading text = skipLeading rest := by
  induction h with
  | none => rfl
  | block h _ ih => rw [skipLeading_hasComment_block h, ih]
  | line h hreturn _ ih =>
    rw [skipLeading_hasComment_line h, skipLeading_lineBreak h.isLineBreak hreturn, ih]

/-- **The kind of a statement is that of what stands behind its comments**, and so that of its first
word, in capitals or not. This holds of all block comments, and of all other comments but those that a
carriage return alone ends. Behind these it is what stands behind the next line feed that counts. -/
theorem kind_behind_comments (sql : String) :
    (∀ after, HasComment blockMark sql.toList after → ofSql sql = ofSql (String.ofList after)) ∧
    (∀ after, HasComment lineMark sql.toList after →
      ofSql sql = ofSql (String.ofList (afterMark ['\n'] after)) ∧
        (¬ LoneReturn after → ofSql sql = ofSql (String.ofList after))) ∧
    (∀ rest word tail, BehindComments sql.toList rest → rest.dropWhile isLeading = word ++ tail →
      word ≠ [] → (∀ c ∈ word, c.isAlpha = true) → (∀ c ∈ tail.head?, c.isAlpha = false) →
        ofSql sql = ofKeyword (String.ofList (word.map Char.toLower))) := by
  refine ⟨fun after h => ?_, fun after h => ⟨?_, fun hreturn => ?_⟩, ?_⟩
  · apply ofSql_congr
    rw [String.toList_ofList, skipLeading_hasComment_block h]
  · apply ofSql_congr
    rw [String.toList_ofList, skipLeading_hasComment_line h]
  · apply ofSql_congr
    rw [String.toList_ofList, skipLeading_hasComment_line h,
      skipLeading_lineBreak h.isLineBreak hreturn]
  · intro rest word tail hrest htext hne hword htail
    have hskip : skipLeading sql.toList = word ++ tail := by
      obtain ⟨c, word, rfl⟩ := List.exists_cons_of_ne_nil hne
      rw [hrest.skipLeading_eq]
      exact skipLeading_of_isAlpha htext (hword c List.mem_cons_self)
    rw [ofSql, hskip, (takeWhile_append_eq hword htail).1]

/-- A query behind a comment that ends with its line and one that begins with `/*/`. -/
theorem query_behind_two_comments : ofSql "-- note\r\n (/*/ x */ SeLeCt 1" = .select := by
  obtain ⟨-, -, hword⟩ := kind_behind_comments "-- note\r\n (/*/ x */ SeLeCt 1"
  have hline : HasComment lineMark "-- note\r\n (/*/ x */ SeLeCt 1".toList
      "\r\n (/*/ x */ SeLeCt 1".toList := ⟨by decide, _, rfl⟩
  have hblock : HasComment blockMark "\r\n (/*/ x */ SeLeCt 1".toList " SeLeCt 1".toList :=
    ⟨by decide, _, rfl⟩
  have hreturn : ¬ LoneReturn "\r\n (/*/ x */ SeLeCt 1".toList := by
    rintro ⟨rest, heq, hne⟩
    cases heq
    exact hne rfl
  have hbehind : BehindComments "-- note\r\n (/*/ x */ SeLeCt 1".toList " SeLeCt 1".toList :=
    .line hline hreturn (.block hblock (.none _))
  have hletters : ∀ c ∈ "SeLeCt".toList, c.isAlpha = true := List.all_eq_true.1 (by decide)
  have hblank : ∀ c ∈ " 1".toList.head?, c.isAlpha = false := by
    rintro c ⟨⟩
    rfl
  exact hword _ _ _ hbehind (by decide) (by decide) hletters hblank

/-- The classification skips every comment that the scan takes off, and not more. -/
def CommentsAgree : Prop :=
  ∀ (sql : String) (mark after : List Char), mark = lineMark ∨ mark = blockMark →
    HasComment mark sql.toList after → ofSql sql = ofSql (String.ofList after)

/-- **Behind a carriage return the classification still is in the comment.** -/
theorem statement_behind_return_skipped : ¬ CommentsAgree := by
  intro h
  have hcomment : HasComment lineMark "-- note\rselect 1".toList "\rselect 1".toList :=
    ⟨by decide, _, rfl⟩
  have hskipped : ofSql "-- note\rselect 1" = .unknown := by decide +kernel
  have hbehind : ofSql (String.ofList "\rselect 1".toList) = .select := by decide +kernel
  have heq := h "-- note\rselect 1" lineMark _ (.inl rfl) hcomment
  rw [hskipped, hbehind] at heq
  cases heq

end StatementType

end PortableSql
