import FormScript.Identifier
import FormScript.Source.Block

/-! Recognition of event procedures. Every procedure of the source is found, and whatever in it has
no known form is kept as a gap with its line. -/
namespace FormScript.Source

/-- The statements up to the end of a procedure, and the lines behind it. A line that ends or
divides a conditional that is not open is a gap. -/
def body (lines : List Line) : { r : List Item × List Line // r.2.length ≤ lines.length } :=
  let ⟨(items, after), h⟩ := block lines
  match after with
  | [] => ⟨(items, []), Nat.zero_le _⟩
  | last :: rest =>
    have hr : rest.length + 1 ≤ lines.length := h
    if shape last = .endSub then ⟨(items, rest), Nat.le_of_succ_le hr⟩
    else
      let ⟨(more, final), hf⟩ := body rest
      ⟨(items ++ .ofGap last "unbalanced conditional" :: more, final),
        Nat.le_trans hf (Nat.le_of_succ_le hr)⟩
termination_by lines.length
decreasing_by omega

def procedures (lines : List Line) : List Procedure :=
  match lines with
  | [] => []
  | line :: rest =>
    match header? line with
    | none => procedures rest
    | some chars =>
      let ⟨(items, after), h⟩ := body rest
      have : after.length ≤ rest.length := h
      let name := String.ofList chars
      ⟨name, Identifier.trigger name, bodyIntents items⟩ :: procedures after
termination_by lines.length
decreasing_by
  all_goals simp only [List.length_cons]; omega

def recognize (source : String) : List Procedure :=
  procedures (logicalLines source.toList)

end FormScript.Source
