/-! Texts as lists of lines. A line feed ends a line and takes one carriage return before it along;
what follows the last line feed is a line of its own unless it is empty. -/
namespace FormScript.Text

def dropReturn (line : List Char) : List Char :=
  if line.getLast? = some '\r' then line.dropLast else line

def lines (cs : List Char) : List (List Char) :=
  let pieces := cs.splitOnP (· == '\n')
  pieces.dropLast.map dropReturn ++ (pieces.drop (pieces.length - 1)).filter (!·.isEmpty)

/-- The pieces between line feeds, of which the last one counts only if there is something in it. -/
theorem exists_pieces (cs : List Char) :
    ∃ pieces last, cs.splitOnP (· == '\n') = pieces ++ [last] ∧
      lines cs = pieces.map dropReturn ++ [last].filter (!·.isEmpty) := by
  obtain ⟨pieces, last, hsplit⟩ : ∃ pieces last, cs.splitOnP (· == '\n') = pieces ++ [last] :=
    ⟨_, _, (List.dropLast_concat_getLast (List.splitOnP_ne_nil _ cs)).symm⟩
  refine ⟨pieces, last, hsplit, ?_⟩
  unfold lines
  simp [hsplit]

theorem lines_append (s t : List Char) :
    lines (s ++ '\n' :: t) = (s.splitOnP (· == '\n')).map dropReturn ++ lines t := by
  have hne := List.splitOnP_ne_nil (· == '\n') t
  have hpos := List.length_pos_iff.mpr hne
  unfold lines
  dsimp only
  rw [List.splitOnP_append_cons s t (by rfl), List.dropLast_append_of_ne_nil hne, List.map_append,
    List.length_append, Nat.add_sub_assoc hpos, List.drop_length_add_append, List.append_assoc]

def textLines (s : String) : List String :=
  (lines s.toList).map String.ofList

def joinLines (ls : List String) : String :=
  "\n".intercalate ls

end FormScript.Text
