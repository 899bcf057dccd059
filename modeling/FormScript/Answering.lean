import FormScript.Mapped
import FormScript.Text.Blank

/-! Answering gaps. An answer given by the caller comes before any suggestion; of the suggestions
for a gap, the last one that is not blank counts. An answer that is there already stays. -/
namespace FormScript

structure GapQuestion where
  procedure : String
  gapId : String
  question : String
  suggestedAnswer : Option String := none
  deriving DecidableEq, Repr

/-- Answers by gap id, each id at most once. -/
abbrev Answers := List (String × String)

structure Proposal where
  answer : String
  source : String
  deriving DecidableEq, Repr

def GapQuestion.suggestion? (q : GapQuestion) : Option String :=
  q.suggestedAnswer.filter (!Text.isBlankText ·)

/-- What is proposed for gaps, by their ids. Of several entries for one id the first counts. -/
abbrev Proposals := List (String × Proposal)

def Proposals.insert (known : Proposals) (id : String) (p : Proposal) : Proposals :=
  (id, p) :: known

def GapQuestion.suggest (known : Proposals) (q : GapQuestion) : Proposals :=
  match q.suggestion? with
  | some answer => known.insert q.gapId ⟨answer, "auto"⟩
  | none => known

/-- The suggestions, and the caller's answers in front of them. -/
def Answers.proposals (answers : Answers) (questions : List GapQuestion) : Proposals :=
  answers.foldr (fun (id, answer) known => known.insert id ⟨answer, "user"⟩)
    (questions.foldl GapQuestion.suggest [])

/-- What a clock shows while the gaps of a tree are visited: the time at each place. -/
structure Clock where
  time : Nat → Timestamp

instance : Coe Timestamp Clock := ⟨fun t => ⟨fun _ => t⟩⟩

structure Gap.Progress where
  visited : Nat := 0
  attached : Nat := 0

namespace Gap

def proposal? (propose : String → Option Proposal) (g : Gap) : Option Proposal :=
  if g.isOpen then g.id.bind propose else none

/-- Answers a gap if there is a proposal for it. The clock is read for each answer. -/
def attach (propose : String → Option Proposal) (now : Clock) (g : Gap) (s : Progress) :
    Gap × Progress :=
  match g.proposal? propose with
  | some p =>
    ({ g with resolution := some ⟨p.answer, p.source, now.time s.visited⟩ },
      ⟨s.visited + 1, s.attached + 1⟩)
  | none => (g, ⟨s.visited + 1, s.attached⟩)

end Gap

def Mapped.attach (propose : String → Option Proposal) (now : Clock) (m : Mapped) :
    Mapped × Nat :=
  let (m, s) := m.walk (Gap.attach propose now) {}
  (m, s.attached)

end FormScript
