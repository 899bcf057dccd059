import FormScript.Timestamp

/-! What an event procedure does: a sequence of intents. Most are actions with one fixed meaning;
a branch holds two further sequences, and a gap holds a piece of source that has no fixed meaning
and may carry the answer to what it should become. -/
namespace FormScript

inductive Mark where
  | mechanical
  | gap
  deriving DecidableEq, Repr

inductive Condition where
  | fieldBlank (field : String)
  | fieldEquals (field value : String)
  | confirm (message : String)
  | newRecord
  deriving DecidableEq, Repr

structure Mapping where
  kind : String
  target : Option String
  deriving DecidableEq, Repr

def Mapping.structural : Mapping := ⟨"structural", none⟩

structure Resolution where
  answer : String
  resolvedBy : String
  resolvedAt : Timestamp
  deriving DecidableEq, Repr

structure Gap where
  line : String
  reason : String
  id : Option String := none
  resolution : Option Resolution := none
  deriving DecidableEq, Repr

def Gap.isOpen (gap : Gap) : Bool :=
  gap.resolution.isNone

inductive Action where
  | validateRequired (field message : String)
  | saveRecord
  | showMessage (message : String)
  | setValue (field value : String)
  | setEnabled (control : String) (enabled : Bool)
  | setVisible (control : String) (visible : Bool)
  | openForm (form : String)
  | closeForm
  | requery
  deriving DecidableEq, Repr

inductive Intent where
  | act (action : Action) (mark : Option Mark)
  | gap (gap : Gap) (mark : Option Mark)
  | branch (condition : Condition) (thenArm elseArm : List Intent) (mapping : Option Mapping)
      (mark : Option Mark)
  deriving Repr

namespace Intent

def mark : Intent → Option Mark
  | act _ m => m
  | gap _ m => m
  | branch _ _ _ _ m => m

/-- A gap that nothing has been said about yet. -/
def openGap (line reason : String) : Intent :=
  gap ⟨line, reason, none, none⟩ none

def isGap : Intent → Bool
  | gap _ _ => true
  | _ => false

mutual

/-- The gaps of an intent, depth first, the then-arm of a branch before its else-arm. -/
def gaps : Intent → List Gap
  | act _ _ => []
  | gap g _ => [g]
  | branch _ thenArm elseArm _ _ => gapsOf thenArm ++ gapsOf elseArm

def gapsOf : List Intent → List Gap
  | [] => []
  | i :: rest => i.gaps ++ gapsOf rest

end

theorem gapsOf_append (a b : List Intent) : gapsOf (a ++ b) = gapsOf a ++ gapsOf b := by
  induction a with
  | nil => rfl
  | cons i rest ih => rw [List.cons_append, gapsOf, gapsOf, ih, List.append_assoc]

mutual

def leafCount : Intent → Nat
  | act _ _ => 1
  | gap _ _ => 1
  | branch _ thenArm elseArm _ _ => leafCountOf thenArm + leafCountOf elseArm

def leafCountOf : List Intent → Nat
  | [] => 0
  | i :: rest => i.leafCount + leafCountOf rest

end

theorem leafCountOf_append (a b : List Intent) :
    leafCountOf (a ++ b) = leafCountOf a + leafCountOf b := by
  induction a with
  | nil => simp [leafCountOf]
  | cons i rest ih => rw [List.cons_append, leafCountOf, leafCountOf, ih, Nat.add_assoc]

mutual

theorem length_gaps_le (i : Intent) : i.gaps.length ≤ i.leafCount := by
  match i with
  | act _ _ => exact Nat.zero_le _
  | gap _ _ => exact Nat.le_refl _
  | branch _ thenArm elseArm _ _ =>
    rw [gaps, leafCount, List.length_append]
    exact Nat.add_le_add (length_gapsOf_le thenArm) (length_gapsOf_le elseArm)

theorem length_gapsOf_le (is : List Intent) : (gapsOf is).length ≤ leafCountOf is := by
  match is with
  | [] => exact Nat.le_refl _
  | i :: rest =>
    rw [gapsOf, leafCountOf, List.length_append]
    exact Nat.add_le_add (length_gaps_le i) (length_gapsOf_le rest)

end

mutual

def mapGaps (f : Gap → Gap) : Intent → Intent
  | act a m => act a m
  | gap g m => gap (f g) m
  | branch c thenArm elseArm mapping m =>
    branch c (mapGapsOf f thenArm) (mapGapsOf f elseArm) mapping m

def mapGapsOf (f : Gap → Gap) : List Intent → List Intent
  | [] => []
  | i :: rest => i.mapGaps f :: mapGapsOf f rest

end

mutual

/-- Changes every gap by its place, if `position` is the place of the first one, and nothing
else. -/
def mapGapsIdx (f : Nat → Gap → Gap) (position : Nat) : Intent → Intent
  | act a m => act a m
  | gap g m => gap (f position g) m
  | branch c thenArm elseArm mapping m =>
    branch c (mapGapsIdxOf f position thenArm)
      (mapGapsIdxOf f (position + (gapsOf thenArm).length) elseArm) mapping m

def mapGapsIdxOf (f : Nat → Gap → Gap) (position : Nat) : List Intent → List Intent
  | [] => []
  | i :: rest => i.mapGapsIdx f position :: mapGapsIdxOf f (position + i.gaps.length) rest

end

mutual

@[simp] theorem gaps_mapGapsIdx (f : Nat → Gap → Gap) (position : Nat) (i : Intent) :
    (i.mapGapsIdx f position).gaps = i.gaps.mapIdx fun k => f (position + k) := by
  match i with
  | act _ _ => rfl
  | gap _ _ => rfl
  | branch _ thenArm elseArm _ _ =>
    rw [mapGapsIdx, gaps, gaps, gapsOf_mapGapsIdxOf f _ thenArm, gapsOf_mapGapsIdxOf f _ elseArm,
      List.mapIdx_append]
    simp only [Nat.add_left_comm, Nat.add_comm]

@[simp] theorem gapsOf_mapGapsIdxOf (f : Nat → Gap → Gap) (position : Nat) (is : List Intent) :
    gapsOf (mapGapsIdxOf f position is) = (gapsOf is).mapIdx fun k => f (position + k) := by
  match is with
  | [] => rfl
  | i :: rest =>
    rw [mapGapsIdxOf, gapsOf, gapsOf, gaps_mapGapsIdx f _ i, gapsOf_mapGapsIdxOf f _ rest,
      List.mapIdx_append]
    simp only [Nat.add_left_comm, Nat.add_comm]

end

mutual

/-- A change that does not look at places is the same one at each of them. -/
theorem mapGaps_eq (f : Gap → Gap) (position : Nat) (i : Intent) :
    i.mapGaps f = i.mapGapsIdx (fun _ => f) position := by
  match i with
  | act _ _ => rfl
  | gap _ _ => rfl
  | branch _ thenArm elseArm _ _ =>
    rw [mapGaps, mapGapsIdx, mapGapsOf_eq f _ thenArm, mapGapsOf_eq f _ elseArm]

theorem mapGapsOf_eq (f : Gap → Gap) (position : Nat) (is : List Intent) :
    mapGapsOf f is = mapGapsIdxOf (fun _ => f) position is := by
  match is with
  | [] => rfl
  | i :: rest => rw [mapGapsOf, mapGapsIdxOf, mapGaps_eq f _ i, mapGapsOf_eq f _ rest]

end

@[simp] theorem gapsOf_mapGapsOf (f : Gap → Gap) (is : List Intent) :
    gapsOf (mapGapsOf f is) = (gapsOf is).map f := by
  rw [mapGapsOf_eq f 0, gapsOf_mapGapsIdxOf]
  apply List.ext_getElem <;> simp

section Walk

variable {σ : Type} (visit : Gap → σ → Gap × σ)

mutual

/-- Visits the gaps of an intent, depth first. A visit may change the gap and what is carried
along. -/
def walk : Intent → σ → Intent × σ
  | act a m, s => (act a m, s)
  | gap g m, s =>
    let (g, s) := visit g s
    (gap g m, s)
  | branch c thenArm elseArm mapping m, s =>
    let (thenArm, s) := walkAll thenArm s
    let (elseArm, s) := walkAll elseArm s
    (branch c thenArm elseArm mapping m, s)

def walkAll : List Intent → σ → List Intent × σ
  | [], s => ([], s)
  | i :: rest, s =>
    let (i, s) := walk i s
    let (rest, s) := walkAll rest s
    (i :: rest, s)

end

end Walk

mutual

def decEq : (a b : Intent) → Decidable (a = b)
  | act a m, act b n => decidable_of_iff (a = b ∧ m = n) (by simp)
  | gap g m, gap h n => decidable_of_iff (g = h ∧ m = n) (by simp)
  | branch c t e p m, branch c' t' e' p' m' =>
    match decEqList t t', decEqList e e' with
    | isTrue ht, isTrue he =>
      decidable_of_iff (c = c' ∧ p = p' ∧ m = m') (by simp [ht, he])
    | isFalse ht, _ => isFalse (by simp [ht])
    | _, isFalse he => isFalse (by simp [he])
  | act _ _, gap _ _ => isFalse (by simp)
  | act _ _, branch _ _ _ _ _ => isFalse (by simp)
  | gap _ _, act _ _ => isFalse (by simp)
  | gap _ _, branch _ _ _ _ _ => isFalse (by simp)
  | branch _ _ _ _ _, act _ _ => isFalse (by simp)
  | branch _ _ _ _ _, gap _ _ => isFalse (by simp)

def decEqList : (a b : List Intent) → Decidable (a = b)
  | [], [] => isTrue rfl
  | i :: a, j :: b =>
    match decEq i j, decEqList a b with
    | isTrue hi, isTrue ha => isTrue (by rw [hi, ha])
    | isFalse hi, _ => isFalse (by simp [hi])
    | _, isFalse ha => isFalse (by simp [ha])
  | [], _ :: _ => isFalse (by simp)
  | _ :: _, [] => isFalse (by simp)

end

instance : DecidableEq Intent := decEq

end Intent

structure Procedure where
  name : String
  trigger : String
  intents : List Intent
  deriving DecidableEq, Repr

def Procedure.gaps (p : Procedure) : List Gap :=
  Intent.gapsOf p.intents

end FormScript
