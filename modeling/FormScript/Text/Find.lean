/-! Finding one text in another. -/
namespace FormScript.Text

def cut (pattern : List Char) : List Char → Option (List Char × List Char)
  | [] => if pattern.isEmpty then some ([], []) else none
  | c :: rest =>
    match pattern.isPrefixOf? (c :: rest) with
    | some after => some ([], after)
    | none => (cut pattern rest).map fun (before, after) => (c :: before, after)

end FormScript.Text
