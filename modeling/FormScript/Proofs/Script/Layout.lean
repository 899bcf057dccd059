import FormScript.Proofs.Script.Reader
import Mathlib.Data.List.Forall2

/-! How forms stand in a text: on one line, or as blocks of indented lines with comments among them.
A block is read as the forms it holds whatever stands around it, and closing one never puts a
bracket into a comment. -/
namespace FormScript.Script

open Text Reader

mutual

def Form.write : Form → List Char
  | .symbol name => name.toList
  | .text value => (Emission.quote value).toList
  | .list items => '(' :: (writeAll items ++ [')'])
  | .vector items => '[' :: (writeAll items ++ [']'])

def writeAll : List Form → List Char
  | [] => []
  | [f] => f.write
  | f :: g :: rest => f.write ++ ' ' :: writeAll (g :: rest)

end

mutual

def Form.isReadable : Form → Bool
  | .symbol name => !name.toList.isEmpty && name.toList.all isSymbolChar
  | .text value => value.toList.all (· != '\r')
  | .list items => areReadable items
  | .vector items => areReadable items

def areReadable : List Form → Bool
  | [] => true
  | f :: rest => f.isReadable && areReadable rest

end

theorem feed_text (p : Place) (s : String) (cs : List Char) :
    feed ⟨.between, p⟩ ((Emission.quote s).toList ++ cs) =
      feed ⟨.between, p.add [.text (String.ofList (s.toList.filter (· != '\r')))]⟩ cs := by
  have hopen : step ⟨.between, p⟩ '"' = some ⟨.text [], p⟩ := rfl
  rw [Emission.quote, String.toList_ofList, List.cons_append, List.cons_append, List.append_assoc,
    feed_cons, hopen, Option.bind_some, feed_textFrom, List.singleton_append, feed_cons]
  rfl

mutual

/-- A form is read as itself up to a character that cannot go on with it. -/
theorem feed_write (f : Form) (hf : f.isReadable = true) (p : Place) {c : Char}
    (hc : isSymbolChar c = false) (cs : List Char) :
    feed ⟨.between, p⟩ (f.write ++ c :: cs) = feed ⟨.between, p.add [f]⟩ (c :: cs) := by
  match f with
  | .symbol name =>
    simp only [Form.isReadable, Bool.and_eq_true, Bool.not_eq_true', List.isEmpty_eq_false_iff] at hf
    rw [Form.write, feed_symbol p hf.1 hf.2 hc, String.ofList_toList]
  | .text value =>
    simp only [Form.isReadable] at hf
    rw [Form.write, feed_text, List.filter_eq_self.mpr (List.all_eq_true.mp hf),
      String.ofList_toList]
  | .list items =>
    simp only [Form.isReadable] at hf
    have hopen : step ⟨.between, p⟩ '(' = some ⟨.between, p.enter .round⟩ := rfl
    rw [Form.write, List.cons_append, feed_cons, hopen, Option.bind_some, List.append_assoc,
      List.singleton_append, feed_writeAll items hf _ (by decide), feed_cons]
    simp [step, start, isSymbolChar, marks, Bracket.wrap]
  | .vector items =>
    simp only [Form.isReadable] at hf
    have hopen : step ⟨.between, p⟩ '[' = some ⟨.between, p.enter .square⟩ := rfl
    rw [Form.write, List.cons_append, feed_cons, hopen, Option.bind_some, List.append_assoc,
      List.singleton_append, feed_writeAll items hf _ (by decide), feed_cons]
    simp [step, start, isSymbolChar, marks, Bracket.wrap]

theorem feed_writeAll (fs : List Form) (hfs : areReadable fs = true) (p : Place) {c : Char}
    (hc : isSymbolChar c = false) (cs : List Char) :
    feed ⟨.between, p⟩ (writeAll fs ++ c :: cs) = feed ⟨.between, p.add fs⟩ (c :: cs) := by
  match fs with
  | [] => simp [writeAll]
  | [f] =>
    simp only [areReadable, Bool.and_true] at hfs
    rw [writeAll, feed_write f hfs p hc]
  | f :: g :: rest =>
    rw [areReadable, Bool.and_eq_true] at hfs
    rw [writeAll, List.append_assoc, List.cons_append, feed_write f hfs.1 p (by decide),
      feed_blank _ (by decide), feed_writeAll (g :: rest) hfs.2 _ hc, Place.add_add,
      List.singleton_append]

end

def readLine (p : Place) (line : String) : Option Place :=
  match feed ⟨.between, p⟩ (line.toList ++ ['\n']) with
  | some ⟨.between, q⟩ => some q
  | _ => none

def readLines (p : Place) (lines : List String) : Option Place :=
  lines.foldlM readLine p

def unlines (lines : List String) : List Char :=
  lines.flatMap fun line => line.toList ++ ['\n']

theorem feed_of_readLine {p q : Place} {line : String} (h : readLine p line = some q) :
    feed ⟨.between, p⟩ (line.toList ++ ['\n']) = some ⟨.between, q⟩ := by
  unfold readLine at h
  split at h
  · rename_i heq
    cases h
    exact heq
  · contradiction

theorem readLine_of_feed {p q : Place} {line : String}
    (h : feed ⟨.between, p⟩ (line.toList ++ ['\n']) = some ⟨.between, q⟩) :
    readLine p line = some q := by
  simp [readLine, h]

theorem feed_unlines {p q : Place} {lines : List String} (h : readLines p lines = some q) :
    feed ⟨.between, p⟩ (unlines lines) = some ⟨.between, q⟩ := by
  induction lines generalizing p with
  | nil =>
    cases h
    rfl
  | cons line lines ih =>
    obtain ⟨mid, hline, hrest⟩ := Option.bind_eq_some_iff.mp h
    rw [unlines, List.flatMap_cons, feed_append, feed_of_readLine hline, Option.bind_some]
    exact ih hrest

theorem readLines_cons (p : Place) (line : String) (lines : List String) :
    readLines p (line :: lines) = (readLine p line).bind (readLines · lines) := rfl

theorem readLines_append (p : Place) (a b : List String) :
    readLines p (a ++ b) = (readLines p a).bind (readLines · b) :=
  List.foldlM_append

theorem readLines_singleton (p : Place) (line : String) :
    readLines p [line] = readLine p line := by
  simp [readLines]

theorem readLine_write {f : Form} (hf : f.isReadable = true) {line : String}
    (hline : line.toList = f.write) (p : Place) : readLine p line = some (p.add [f]) := by
  apply readLine_of_feed
  rw [hline, feed_write f hf p (by decide), feed_blank _ (by decide), feed_nil]

theorem readLine_open {fs : List Form} (hfs : areReadable fs = true) {line : String}
    (hline : line.toList = '(' :: writeAll fs) (p : Place) :
    readLine p line = some ((p.enter .round).add fs) := by
  apply readLine_of_feed
  have hopen : step ⟨.between, p⟩ '(' = some ⟨.between, p.enter .round⟩ := rfl
  rw [hline, List.cons_append, feed_cons, hopen, Option.bind_some,
    feed_writeAll fs hfs _ (by decide), feed_blank _ (by decide), feed_nil]

theorem feed_indent (p : Place) (line : String) (cs : List Char) :
    feed ⟨.between, p⟩ (("  " ++ line).toList ++ cs) = feed ⟨.between, p⟩ (line.toList ++ cs) := by
  have hsplit : ("  " ++ line).toList ++ cs = ' ' :: ' ' :: (line.toList ++ cs) := by simp
  rw [hsplit, feed_blank _ (by decide), feed_blank _ (by decide)]

theorem readLine_indent (p : Place) (line : String) :
    readLine p ("  " ++ line) = readLine p line := by
  rw [readLine, readLine, feed_indent]

/-- Behind a line of code the reader is in no comment. -/
def Settled (line : String) : Prop :=
  ∀ p r, feed ⟨.between, p⟩ line.toList = some r → r.mode ≠ .comment

theorem settled_of_feed {line : String}
    (h : ∀ p, ∃ q, feed ⟨.between, p⟩ (line.toList ++ [' ']) = some ⟨.between, q⟩) :
    Settled line := by
  intro p r hr hmode
  obtain ⟨q, hq⟩ := h p
  have hstay : step r ' ' = some r := by
    rw [step, hmode]
    rfl
  rw [feed_append, hr, Option.bind_some, feed_cons, hstay] at hq
  cases hq
  contradiction

theorem settled_write {f : Form} (hf : f.isReadable = true) {line : String}
    (hline : line.toList = f.write) : Settled line := by
  apply settled_of_feed
  intro p
  refine ⟨p.add [f], ?_⟩
  rw [hline, feed_write f hf p (by decide), feed_blank _ (by decide), feed_nil]

theorem settled_open {fs : List Form} (hfs : areReadable fs = true) {line : String}
    (hline : line.toList = '(' :: writeAll fs) : Settled line := by
  apply settled_of_feed
  intro p
  refine ⟨(p.enter .round).add fs, ?_⟩
  have hopen : step ⟨.between, p⟩ '(' = some ⟨.between, p.enter .round⟩ := rfl
  rw [hline, List.cons_append, feed_cons, hopen, Option.bind_some,
    feed_writeAll fs hfs _ (by decide), feed_blank _ (by decide), feed_nil]

theorem settled_indent {line : String} (h : Settled line) : Settled ("  " ++ line) := by
  intro p r hr
  apply h p r
  simpa using (feed_indent p line []).symm.trans (by simpa using hr)

theorem mode_cases {r : Reader} (h : r.mode ≠ .comment) :
    (∃ place, ∀ c, isSymbolChar c = false → step r c = start place c) ∨
      (∃ soFar, r.mode = .text soFar) ∨ ∃ soFar, r.mode = .escape soFar := by
  obtain ⟨mode, place⟩ := r
  cases mode with
  | comment => exact absurd rfl h
  | between => exact Or.inl ⟨place, fun c _ => rfl⟩
  | symbol soFar =>
    refine Or.inl ⟨place.add [.symbol (String.ofList soFar)], ?_⟩
    intro c hc
    change (if isSymbolChar c = true then _ else _) = _
    rw [if_neg (Bool.eq_false_iff.mp hc)]
  | text soFar => exact Or.inr (Or.inl ⟨soFar, rfl⟩)
  | escape soFar => exact Or.inr (Or.inr ⟨soFar, rfl⟩)

theorem start_close (p : Place) : start p ')' = (p.leave .round).map (⟨.between, ·⟩) :=
  rfl

theorem start_newline (p : Place) : start p '\n' = some ⟨.between, p⟩ :=
  rfl

theorem settled_close {line : String} (h : Settled line) : Settled (line ++ ")") := by
  intro p r hr
  rw [String.toList_append, feed_append] at hr
  obtain ⟨mid, hmid, hlast⟩ := Option.bind_eq_some_iff.mp hr
  change (step mid ')').bind some = some r at hlast
  rw [Option.bind_fun_some] at hlast
  rcases mode_cases (h p mid hmid) with ⟨place, hstart⟩ | ⟨soFar, htext⟩ | ⟨soFar, hescape⟩
  · rw [hstart ')' rfl, start_close] at hlast
    obtain ⟨q, -, rfl⟩ := Option.map_eq_some_iff.mp hlast
    exact Mode.noConfusion
  · rw [step, htext] at hlast
    cases hlast
    exact Mode.noConfusion
  · rw [step, hescape] at hlast
    cases hlast

theorem readLine_close {p q q' : Place} {line : String} (hline : readLine p line = some q)
    (hsettled : Settled line) (hleave : q.leave .round = some q') :
    readLine p (line ++ ")") = some q' := by
  have hfeed := feed_of_readLine hline
  rw [feed_append] at hfeed
  obtain ⟨mid, hmid, hlast⟩ := Option.bind_eq_some_iff.mp hfeed
  change (step mid '\n').bind some = some ⟨.between, q⟩ at hlast
  rw [Option.bind_fun_some] at hlast
  apply readLine_of_feed
  rw [String.toList_append, List.append_assoc, feed_append, hmid, Option.bind_some]
  change (step mid ')').bind (feed · ['\n']) = _
  rcases mode_cases (hsettled p mid hmid) with ⟨place, hstart⟩ | ⟨soFar, htext⟩ | ⟨soFar, hescape⟩
  · rw [hstart '\n' rfl, start_newline] at hlast
    cases hlast
    rw [hstart ')' rfl, start_close, hleave]
    rfl
  · rw [step, htext] at hlast
    cases hlast
  · rw [step, hescape] at hlast
    cases hlast

theorem readLine_closing {p q : Place} (hleave : p.leave .round = some q) :
    readLine p ")" = some q := by
  apply readLine_of_feed
  change (start p ')').bind (feed · ['\n']) = _
  rw [start_close, hleave]
  rfl

theorem close_comment (before : List String) {last : String}
    (h : Emission.isComment last = true) :
    Emission.close (before ++ [last]) = before ++ [last] ++ [")"] := by
  simp [Emission.close, h]

theorem close_code (before : List String) {last : String} (h : Emission.isComment last = false) :
    Emission.close (before ++ [last]) = before ++ [last ++ ")"] := by
  simp [Emission.close, h]

/-- Closing some lines does what a bracket below them would. -/
theorem readLines_close {p q q' : Place} {lines : List String} (hlines : readLines p lines = some q)
    (hsettled : ∀ line ∈ lines, Emission.isComment line = false → Settled line)
    (hleave : q.leave .round = some q') : readLines p (Emission.close lines) = some q' := by
  rcases List.eq_nil_or_concat' lines with rfl | ⟨before, last, rfl⟩
  · cases hlines
    exact (readLines_singleton p ")").trans (readLine_closing hleave)
  by_cases hcomment : Emission.isComment last = true
  · rw [close_comment before hcomment, readLines_append, hlines, Option.bind_some,
      readLines_singleton]
    exact readLine_closing hleave
  · rw [Bool.not_eq_true] at hcomment
    rw [readLines_append] at hlines
    obtain ⟨mid, hmid, hline⟩ := Option.bind_eq_some_iff.mp hlines
    rw [readLines_singleton] at hline
    rw [close_code before hcomment, readLines_append, hmid, Option.bind_some, readLines_singleton]
    exact readLine_close hline (hsettled last (by simp) hcomment) hleave

theorem settled_of_mem_close {lines : List String} {line : String}
    (hsettled : ∀ l ∈ lines, Emission.isComment l = false → Settled l)
    (hline : line ∈ Emission.close lines) (hcode : Emission.isComment line = false) :
    Settled line := by
  have hempty : Settled "" := by
    intro p r hr
    cases hr
    simp
  have hclosing : Settled ")" := settled_close hempty
  rcases List.eq_nil_or_concat' lines with rfl | ⟨before, last, rfl⟩
  · rw [List.mem_singleton.mp hline]
    exact hclosing
  by_cases hcomment : Emission.isComment last = true
  · rw [close_comment before hcomment] at hline
    rcases List.mem_append.mp hline with hmem | hmem
    · exact hsettled line hmem hcode
    · rw [List.mem_singleton.mp hmem]
      exact hclosing
  · rw [Bool.not_eq_true] at hcomment
    rw [close_code before hcomment] at hline
    rcases List.mem_append.mp hline with hmem | hmem
    · exact hsettled line (List.mem_append_left _ hmem) hcode
    · rw [List.mem_singleton.mp hmem]
      exact settled_close (hsettled last (by simp) hcomment)

/-- Lines that are read as some forms and that can be closed. -/
structure Block (lines : List String) (forms : List Form) : Prop where
  reads : ∀ p, readLines p lines = some (p.add forms)
  settled : ∀ line ∈ lines, Emission.isComment line = false → Settled line

namespace Block

theorem nil : Block [] [] where
  reads p := by simp [readLines]
  settled := by simp

theorem append {a b : List String} {fs gs : List Form} (ha : Block a fs) (hb : Block b gs) :
    Block (a ++ b) (fs ++ gs) where
  reads p := by
    rw [readLines_append, ha.reads, Option.bind_some, hb.reads, Place.add_add]
  settled := by
    intro line hline hcode
    rcases List.mem_append.mp hline with h | h
    · exact ha.settled line h hcode
    · exact hb.settled line h hcode

theorem ofWrite {f : Form} (hf : f.isReadable = true) {line : String}
    (hline : line.toList = f.write) : Block [line] [f] where
  reads p := by rw [readLines_singleton, readLine_write hf hline]
  settled := by
    intro l hl _
    rw [List.mem_singleton.mp hl]
    exact settled_write hf hline

theorem isComment_indent (line : String) :
    Emission.isComment ("  " ++ line) = Emission.isComment line := by
  have htrim : trimStart ("  " ++ line).toList = trimStart line.toList := by
    simp [trimStart, show isBlank ' ' = true by decide]
  rw [Emission.isComment, Emission.isComment, htrim]

theorem indent {lines : List String} {fs : List Form} (h : Block lines fs) :
    Block (Emission.indent lines) fs where
  reads p := by
    rw [← h.reads p, readLines, readLines, Emission.indent, List.foldlM_map]
    congr 1
    funext q line
    exact readLine_indent q line
  settled := by
    intro l hl hcode
    obtain ⟨line, hline, rfl⟩ := List.mem_map.mp hl
    rw [isComment_indent] at hcode
    exact settled_indent (h.settled line hline hcode)

theorem flatMap_indent {children : List (List String)} {forms : List (List Form)}
    (h : List.Forall₂ Block children forms) :
    Block (children.flatMap Emission.indent) forms.flatten := by
  induction h with
  | nil => exact nil
  | cons hchild _ ih => exact hchild.indent.append ih

theorem form {fs : List Form} (hfs : areReadable fs = true) {head : String}
    (hhead : head.toList = '(' :: writeAll fs) {children : List (List String)}
    {forms : List (List Form)} (h : List.Forall₂ Block children forms) :
    Block (Emission.form head children) [.list (fs ++ forms.flatten)] := by
  have hbody := flatMap_indent h
  have hsettled : ∀ line ∈ head :: children.flatMap Emission.indent,
      Emission.isComment line = false → Settled line := by
    intro line hline hcode
    rcases List.mem_cons.mp hline with rfl | hmem
    · exact settled_open hfs hhead
    · exact hbody.settled line hmem hcode
  constructor
  · intro p
    apply readLines_close _ hsettled (Place.leave_enter p .round (fs ++ forms.flatten))
    rw [readLines_cons, readLine_open hfs hhead, Option.bind_some, hbody.reads, Place.add_add]
  · intro line hline hcode
    exact settled_of_mem_close hsettled hline hcode

end Block

end FormScript.Script
