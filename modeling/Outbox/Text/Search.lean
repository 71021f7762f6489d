namespace Outbox.Text

def occurs (p : List Char) : List Char → Bool
  | [] => p.isEmpty
  | c :: s => p.isPrefixOf (c :: s) || occurs p s

theorem occurs_iff {p s : List Char} : occurs p s ↔ p <:+: s := by
  induction s with
  | nil => simp [occurs]
  | cons c s ih => simp [occurs, ih, List.infix_cons_iff]

-- A text is cut where the first character of another kind stands.
theorem span_append {p : Char → Bool} {s r : List Char} (hs : ∀ c ∈ s, p c)
    (hr : ∀ c ∈ r.head?, p c = false) :
    (s ++ r).takeWhile p = s ∧ (s ++ r).dropWhile p = r := by
  have h : r.takeWhile p = [] ∧ r.dropWhile p = r := by
    cases r
    case nil => exact ⟨rfl, rfl⟩
    case cons c r => simp [hr c rfl]
  rw [List.takeWhile_append_of_pos hs, List.dropWhile_append_of_pos hs, h.1, h.2, List.append_nil]
  exact ⟨rfl, rfl⟩

-- The pieces between the separators; one more piece than there are separators.
def splitAt (sep : Char) : List Char → List (List Char)
  | [] => [[]]
  | c :: s =>
    if c = sep then [] :: splitAt sep s
    else match splitAt sep s with
      | piece :: pieces => (c :: piece) :: pieces
      | [] => [[c]]

end Outbox.Text
