/-
TelemetryControl.Text.Pieces — texts cut at a mark.

A path is cut at slashes, a host name at dots, an address at colons. Cutting
loses nothing but the marks: a text without a mark is its only piece, and the
first mark ends the first piece.
-/

namespace TelemetryControl.Text

/-- The pieces of a text between marks. -/
def pieces (mark : Char) : List Char → List (List Char)
  | [] => [[]]
  | c :: rest =>
    if c = mark then [] :: pieces mark rest
    else
      match pieces mark rest with
      | [] => [[c]]
      | p :: more => (c :: p) :: more

/-- Pieces with a mark between neighbours. -/
def join (mark : Char) : List (List Char) → List Char
  | [] => []
  | [p] => p
  | p :: q :: more => p ++ mark :: join mark (q :: more)

/-- Whether a text stands somewhere in another. -/
def occursIn (part : List Char) : List Char → Bool
  | [] => part.isEmpty
  | c :: rest => part.isPrefixOf (c :: rest) || occursIn part rest

theorem pieces_of_notMem {mark : Char} {cs : List Char} (absent : mark ∉ cs) :
    pieces mark cs = [cs] := by
  induction cs with
  | nil => rfl
  | cons c rest ih =>
    simp only [List.mem_cons, not_or] at absent
    rw [pieces, if_neg (Ne.symm absent.1), ih absent.2]

/-- The first mark ends the first piece. -/
theorem pieces_append {mark : Char} {p : List Char} (absent : mark ∉ p) (rest : List Char) :
    pieces mark (p ++ mark :: rest) = p :: pieces mark rest := by
  induction p with
  | nil => rw [List.nil_append, pieces, if_pos rfl]
  | cons c p ih =>
    simp only [List.mem_cons, not_or] at absent
    rw [List.cons_append, pieces, if_neg (Ne.symm absent.1), ih absent.2]

end TelemetryControl.Text
