import FormScript.Emission

/-! Scripts as data. The reader knows white space, symbols, round and square brackets, string
literals with three escapes, and comments that run to the end of their line. It takes one character
at a time, so that what a text does can be put together from what its pieces do. -/
namespace FormScript.Script

open Text

inductive Form where
  | symbol (name : String)
  | text (value : String)
  | list (items : List Form)
  | vector (items : List Form)
  deriving Repr

inductive Bracket where
  | round
  | square
  deriving DecidableEq, Repr

def Bracket.wrap : Bracket → List Form → Form
  | round => .list
  | square => .vector

inductive Mode where
  | between
  | symbol (soFar : List Char)
  | text (soFar : List Char)
  /-- Behind a backslash in a text. -/
  | escape (soFar : List Char)
  | comment
  deriving DecidableEq, Repr

/-- The forms of the innermost open bracket, and for each bracket around it what stood before the
one that it holds. -/
structure Place where
  items : List Form := []
  outer : List (Bracket × List Form) := []

namespace Place

def add (p : Place) (forms : List Form) : Place :=
  { p with items := p.items ++ forms }

def enter (p : Place) (b : Bracket) : Place :=
  ⟨[], (b, p.items) :: p.outer⟩

def leave (p : Place) (b : Bracket) : Option Place :=
  match p.outer with
  | (opened, before) :: outer => if opened = b then some ⟨before ++ [b.wrap p.items], outer⟩ else none
  | [] => none

@[simp] theorem add_nil (p : Place) : p.add [] = p := by
  simp [add]

@[simp] theorem add_add (p : Place) (a b : List Form) : (p.add a).add b = p.add (a ++ b) := by
  simp [add]

@[simp] theorem leave_enter (p : Place) (b : Bracket) (forms : List Form) :
    ((p.enter b).add forms).leave b = some (p.add [b.wrap forms]) := by
  simp [enter, add, leave]

end Place

def marks : List Char := ['(', ')', '[', ']', '"', ';']

def isSymbolChar (c : Char) : Bool :=
  !isBlank c && !marks.contains c

structure Reader where
  mode : Mode
  place : Place

namespace Reader

/-- One character that does not go on with a symbol, a text or a comment. -/
def start (p : Place) (c : Char) : Option Reader :=
  if isSymbolChar c then some ⟨.symbol [c], p⟩
  else if c = '(' then some ⟨.between, p.enter .round⟩
  else if c = '[' then some ⟨.between, p.enter .square⟩
  else if c = ')' then (p.leave .round).map (⟨.between, ·⟩)
  else if c = ']' then (p.leave .square).map (⟨.between, ·⟩)
  else if c = '"' then some ⟨.text [], p⟩
  else if c = ';' then some ⟨.comment, p⟩
  else some ⟨.between, p⟩

def step (r : Reader) (c : Char) : Option Reader :=
  match r.mode with
  | .between => start r.place c
  | .symbol soFar =>
    if isSymbolChar c then some ⟨.symbol (soFar ++ [c]), r.place⟩
    else start (r.place.add [.symbol (String.ofList soFar)]) c
  | .text soFar =>
    if c = '"' then some ⟨.between, r.place.add [.text (String.ofList soFar)]⟩
    else if c = '\\' then some ⟨.escape soFar, r.place⟩
    else some ⟨.text (soFar ++ [c]), r.place⟩
  | .escape soFar =>
    if c = '"' then some ⟨.text (soFar ++ ['"']), r.place⟩
    else if c = '\\' then some ⟨.text (soFar ++ ['\\']), r.place⟩
    else if c = 'n' then some ⟨.text (soFar ++ ['\n']), r.place⟩
    else none
  | .comment => if c = '\n' then some ⟨.between, r.place⟩ else some r

def feed (r : Reader) (cs : List Char) : Option Reader :=
  cs.foldlM step r

def finish (r : Reader) : Option (List Form) :=
  match r.mode, r.place.outer with
  | .between, [] => some r.place.items
  | .comment, [] => some r.place.items
  | .symbol soFar, [] => some (r.place.items ++ [.symbol (String.ofList soFar)])
  | _, _ => none

end Reader

def read (source : String) : Option (List Form) :=
  (Reader.feed ⟨.between, {}⟩ source.toList).bind Reader.finish

/-- A bracket that is not closed, or closed by one of the other kind, is no form. -/
example : (read "(ns [a)]").isNone = true ∧ (read "(a").isNone = true ∧
    (read "(a \"(\\n\") ; )").isSome = true := by decide

namespace Reader

@[simp] theorem feed_nil (r : Reader) : r.feed [] = some r := rfl

theorem feed_cons (r : Reader) (c : Char) (cs : List Char) :
    r.feed (c :: cs) = (r.step c).bind (feed · cs) := rfl

theorem feed_append (r : Reader) (a b : List Char) :
    r.feed (a ++ b) = (r.feed a).bind (feed · b) :=
  List.foldlM_append

theorem feed_blank (p : Place) {c : Char} (hc : isBlank c = true) (cs : List Char) :
    feed ⟨.between, p⟩ (c :: cs) = feed ⟨.between, p⟩ cs := by
  have hmarks : marks.any isBlank = false := by decide
  have hne : ∀ m ∈ marks, c ≠ m := by
    rintro m hm rfl
    exact List.any_eq_false.mp hmarks c hm hc
  simp only [marks, List.mem_cons, List.not_mem_nil, or_false, forall_eq_or_imp, forall_eq] at hne
  obtain ⟨h1, h2, h3, h4, h5, h6⟩ := hne
  rw [feed_cons]
  simp [step, start, isSymbolChar, hc, h1, h2, h3, h4, h5, h6]

/-- A symbol goes on to the next character that is not one of its own. -/
theorem feed_symbolFrom (p : Place) (soFar w : List Char) (hw : w.all isSymbolChar = true) :
    feed ⟨.symbol soFar, p⟩ w = some ⟨.symbol (soFar ++ w), p⟩ := by
  induction w generalizing soFar with
  | nil => simp
  | cons c w ih =>
    simp only [List.all_cons, Bool.and_eq_true] at hw
    rw [feed_cons]
    simp only [step, hw.1, if_true, Option.bind_some]
    rw [ih _ hw.2]
    simp

theorem feed_symbol (p : Place) {w : List Char} (hne : w ≠ []) (hw : w.all isSymbolChar = true)
    {c : Char} (hc : isSymbolChar c = false) (cs : List Char) :
    feed ⟨.between, p⟩ (w ++ c :: cs) =
      feed ⟨.between, p.add [.symbol (String.ofList w)]⟩ (c :: cs) := by
  cases w with
  | nil => exact absurd rfl hne
  | cons d w =>
    simp only [List.all_cons, Bool.and_eq_true] at hw
    have hstart : step ⟨.between, p⟩ d = some ⟨.symbol [d], p⟩ := by
      simp [step, start, hw.1]
    rw [List.cons_append, feed_cons, hstart, Option.bind_some, feed_append,
      feed_symbolFrom p [d] w hw.2, Option.bind_some, feed_cons, feed_cons]
    simp [step, hc]

/-- A string literal gives back its text but for carriage returns, which are never written. -/
theorem feed_textFrom (p : Place) (soFar s cs : List Char) :
    feed ⟨.text soFar, p⟩ (s.flatMap Emission.quoteChar ++ cs) =
      feed ⟨.text (soFar ++ s.filter (· != '\r')), p⟩ cs := by
  induction s generalizing soFar with
  | nil => simp
  | cons c s ih =>
    have hstep : feed ⟨.text soFar, p⟩ (Emission.quoteChar c) =
        some ⟨.text (soFar ++ [c].filter (· != '\r')), p⟩ := by
      by_cases hquote : c = '"'
      · subst hquote
        rfl
      by_cases hslash : c = '\\'
      · subst hslash
        rfl
      by_cases hfeed : c = '\n'
      · subst hfeed
        rfl
      by_cases hreturn : c = '\r'
      · subst hreturn
        simp [Emission.quoteChar]
      simp [Emission.quoteChar, hquote, hslash, hfeed, hreturn, feed_cons, step]
    rw [List.flatMap_cons, List.append_assoc, feed_append, hstep, Option.bind_some, ih,
      List.append_assoc, ← List.filter_append, List.singleton_append]

end Reader

end FormScript.Script
