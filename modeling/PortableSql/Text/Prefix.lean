/-!
# Words at the front of a text

What `List.isPrefixOf?` leaves behind a word.
-/
namespace PortableSql.Text

@[simp] theorem isPrefixOf?_nil (text : List Char) : [].isPrefixOf? text = some text := rfl

@[simp] theorem isPrefixOf?_cons_nil (c : Char) (word : List Char) :
    (c :: word).isPrefixOf? [] = none := rfl

theorem isPrefixOf?_cons_cons (c d : Char) (word text : List Char) :
    (c :: word).isPrefixOf? (d :: text) = if c == d then word.isPrefixOf? text else none := rfl

/-- A text that has a word in front is the word and what is behind it. -/
theorem eq_append_of_isPrefixOf? {word text rest : List Char}
    (h : word.isPrefixOf? text = some rest) : text = word ++ rest := by
  induction word generalizing text with
  | nil => simpa using h
  | cons c word ih =>
    cases text with
    | nil => simp at h
    | cons d text =>
      rw [isPrefixOf?_cons_cons] at h
      split at h
      · next hcd => rw [beq_iff_eq.1 hcd, ih h, List.cons_append]
      · simp at h

end PortableSql.Text
