import FormScript.Json.Reader
import FormScript.Proofs.Json.Scalars

/-! Reading what was written. The written text of a value holds the tokens of the value, whatever
the layout, and these build it up again unless it is nested deeper than the reader allows. Numbers
beyond 64 bits are the only thing that may come back as something else. -/
namespace FormScript.Json

mutual

/-- What a written value is read as. Nothing is read where a number is too large. -/
def reread? : Json → Option Json
  | .null => some .null
  | .bool b => some (.bool b)
  | .int n => (numeral n none).toJson
  | .decimal m e => (numeral m (some e)).toJson
  | .str s => some (.str s)
  | .arr items => (rereadItems? items).map .arr
  | .obj fields => (rereadFields? fields).map .obj

def rereadItems? : List Json → Option (List Json)
  | [] => some []
  | v :: rest => (reread? v).bind fun v' => (rereadItems? rest).map (v' :: ·)

def rereadFields? : List (String × Json) → Option (List (String × Json))
  | [] => some []
  | (k, v) :: rest => (reread? v).bind fun v' => (rereadFields? rest).map ((k, v') :: ·)

end

mutual

def tokens : Json → List Token
  | .str s => [.text s]
  | .arr [] => [.beginArray, .endArray]
  | .arr (v :: vs) => .beginArray :: (tokens v ++ (moreItems vs ++ [.endArray]))
  | .obj [] => [.beginObject, .endObject]
  | .obj ((k, v) :: fields) =>
    .beginObject :: .text k :: .colon :: (tokens v ++ (moreFields fields ++ [.endObject]))
  | v => [.scalar v]

def moreItems : List Json → List Token
  | [] => []
  | v :: vs => .comma :: (tokens v ++ moreItems vs)

def moreFields : List (String × Json) → List Token
  | [] => []
  | (k, v) :: fields => .comma :: .text k :: .colon :: (tokens v ++ moreFields fields)

end

mutual

def depth : Json → Nat
  | .arr items => depthOf items + 1
  | .obj fields => depthOfFields fields + 1
  | _ => 0

def depthOf : List Json → Nat
  | [] => 0
  | v :: vs => max v.depth (depthOf vs)

def depthOfFields : List (String × Json) → Nat
  | [] => 0
  | (_, v) :: fields => max v.depth (depthOfFields fields)

end

/-- A layout that adds nothing but white space. -/
structure Layout.IsSpaced (layout : Layout) : Prop where
  newline : ∀ depth, ∀ c ∈ layout.newline depth, isSpace c = true
  colon : ∃ spaces, layout.colon = ':' :: spaces ∧ ∀ c ∈ spaces, isSpace c = true

theorem Layout.isSpaced_pretty : Layout.pretty.IsSpaced where
  newline := by
    intro depth c hc
    rcases List.mem_cons.mp hc with rfl | hc
    · rfl
    · rw [List.eq_of_mem_replicate hc]
      rfl
  colon := ⟨[' '], rfl, by simp [isSpace]⟩

theorem stops_spaces {spaces rest : List Char} (h : ∀ c ∈ spaces, isSpace c = true)
    (hrest : Stops rest) : Stops (spaces ++ rest) := by
  cases spaces with
  | nil => exact hrest
  | cons c cs =>
    have hc := h c List.mem_cons_self
    simp only [isSpace, Bool.or_eq_true, beq_iff_eq] at hc
    rcases hc with ((rfl | rfl) | rfl) | rfl <;> simp [Stops]

theorem stops_punctuation {c : Char} {token : Token} (h : punctuation? c = some token)
    (rest : List Char) : Stops (c :: rest) := by
  unfold punctuation? at h
  split at h
  iterate 6 simp [Stops]
  contradiction

theorem stops_writeItems (layout : Layout) (depth : Nat) (vs : List Json) {rest : List Char}
    (h : Stops rest) : Stops (writeItems layout depth vs ++ rest) := by
  cases vs with
  | nil => exact h
  | cons v vs => exact stops_punctuation (c := ',') rfl _

theorem stops_writeFields (layout : Layout) (depth : Nat) (fields : List (String × Json))
    {rest : List Char} (h : Stops rest) : Stops (writeFields layout depth fields ++ rest) := by
  cases fields with
  | nil => exact h
  | cons field fields => exact stops_punctuation (c := ',') rfl _

theorem tokens_numeral {n : Numeral} {v : Json} (h : n.toJson = some v) : tokens v = [.scalar v] := by
  simp only [Numeral.toJson] at h
  repeat' split at h
  all_goals cases h
  all_goals rfl

theorem lex_numeral (n : Numeral) (rest : List Char) :
    ((n.toJson.map (·, rest)).bind fun p => (lex p.2).map (.scalar p.1 :: ·)) =
      n.toJson.bind fun v => (lex rest).map (tokens v ++ ·) := by
  cases hn : n.toJson with
  | none => rfl
  | some v => simp [tokens_numeral hn]

section Written

variable {layout : Layout} (hl : layout.IsSpaced)

include hl

theorem lex_newline (depth : Nat) (rest : List Char) :
    lex (layout.newline depth ++ rest) = lex rest :=
  lex_spaces (hl.newline depth) rest

theorem lex_colon (rest : List Char) :
    lex (layout.colon ++ rest) = (lex rest).map (.colon :: ·) := by
  obtain ⟨spaces, hcolon, hspaces⟩ := hl.colon
  rw [hcolon, List.cons_append, lex_punctuation rfl, lex_spaces hspaces]

theorem stops_closing {c : Char} {token : Token} (h : punctuation? c = some token) (depth : Nat)
    (rest : List Char) : Stops (layout.newline depth ++ c :: rest) :=
  stops_spaces (hl.newline depth) (stops_punctuation h rest)

mutual

theorem lex_write (depth : Nat) (v : Json) {rest : List Char} (h : Stops rest) :
    lex (write layout depth v ++ rest) =
      (reread? v).bind fun v' => (lex rest).map (tokens v' ++ ·) := by
  match v with
  | .null =>
    rw [write, List.cons_append, lex_scalar (by decide) (by decide) (by decide)]
    rfl
  | .bool true =>
    rw [write, List.cons_append, lex_scalar (by decide) (by decide) (by decide)]
    rfl
  | .bool false =>
    rw [write, List.cons_append, lex_scalar (by decide) (by decide) (by decide)]
    rfl
  | .int n =>
    rw [write, lex_writeInt, readNumber_int n h, reread?, lex_numeral]
  | .decimal m e =>
    rw [write, List.append_assoc, List.cons_append, lex_writeInt, readNumber_decimal m e h, reread?,
      lex_numeral]
  | .str s =>
    rw [write, lex_string]
    rfl
  | .arr [] =>
    simp only [write, List.cons_append, List.nil_append]
    rw [lex_punctuation rfl, lex_punctuation rfl]
    cases lex rest <;> simp [reread?, rereadItems?, tokens]
  | .arr (v :: vs) =>
    simp only [write, List.cons_append, List.append_assoc, List.nil_append]
    rw [lex_punctuation rfl, lex_newline hl,
      lex_write _ v (stops_writeItems _ _ vs (stops_closing hl rfl _ _)),
      lex_writeItems _ vs (stops_closing hl rfl _ _), lex_newline hl, lex_punctuation rfl]
    cases hv : reread? v <;> cases hvs : rereadItems? vs <;> cases lex rest <;>
      simp [reread?, rereadItems?, tokens, hv, hvs]
  | .obj [] =>
    simp only [write, List.cons_append, List.nil_append]
    rw [lex_punctuation rfl, lex_punctuation rfl]
    cases lex rest <;> simp [reread?, rereadFields?, tokens]
  | .obj ((k, v) :: fields) =>
    simp only [write, List.cons_append, List.append_assoc, List.nil_append]
    rw [lex_punctuation rfl, lex_newline hl, lex_string, lex_colon hl,
      lex_write _ v (stops_writeFields _ _ fields (stops_closing hl rfl _ _)),
      lex_writeFields _ fields (stops_closing hl rfl _ _), lex_newline hl, lex_punctuation rfl]
    cases hv : reread? v <;> cases hfields : rereadFields? fields <;> cases lex rest <;>
      simp [reread?, rereadFields?, tokens, hv, hfields]

theorem lex_writeItems (depth : Nat) (vs : List Json) {rest : List Char} (h : Stops rest) :
    lex (writeItems layout depth vs ++ rest) =
      (rereadItems? vs).bind fun vs' => (lex rest).map (moreItems vs' ++ ·) := by
  match vs with
  | [] => simp [writeItems, rereadItems?, moreItems]
  | v :: vs =>
    simp only [writeItems, List.cons_append, List.append_assoc]
    rw [lex_punctuation rfl, lex_newline hl, lex_write _ v (stops_writeItems _ _ vs h),
      lex_writeItems _ vs h]
    cases hv : reread? v <;> cases hvs : rereadItems? vs <;> cases lex rest <;>
      simp [rereadItems?, moreItems, hv, hvs]

theorem lex_writeFields (depth : Nat) (fields : List (String × Json)) {rest : List Char}
    (h : Stops rest) :
    lex (writeFields layout depth fields ++ rest) =
      (rereadFields? fields).bind fun fields' => (lex rest).map (moreFields fields' ++ ·) := by
  match fields with
  | [] => simp [writeFields, rereadFields?, moreFields]
  | (k, v) :: fields =>
    simp only [writeFields, List.cons_append, List.append_assoc]
    rw [lex_punctuation rfl, lex_newline hl, lex_string, lex_colon hl,
      lex_write _ v (stops_writeFields _ _ fields h), lex_writeFields _ fields h]
    cases hv : reread? v <;> cases hfields : rereadFields? fields <;> cases lex rest <;>
      simp [rereadFields?, moreFields, hv, hfields]

end

end Written

section Machine

variable {limit : Nat}

theorem run_cons (state : State) (token : Token) (rest : List Token) :
    State.run limit state (token :: rest) =
      (state.step limit token).bind fun next => State.run limit next rest :=
  List.foldlM_cons

theorem run_beginArray (stack : List Frame) (rest : List Token) :
    State.run limit (.value stack) (.beginArray :: rest) =
      if stack.length + 1 ≤ limit then State.run limit (.firstItem stack) rest else none := by
  rw [run_cons, State.step, State.begin]
  by_cases h : stack.length < limit
  · rw [if_pos h, Option.bind_some, if_pos (Nat.succ_le_of_lt h)]
  · rw [if_neg h, Option.bind_none, if_neg (by omega)]

theorem run_beginObject (stack : List Frame) (rest : List Token) :
    State.run limit (.value stack) (.beginObject :: rest) =
      if stack.length + 1 ≤ limit then State.run limit (.firstKey stack) rest else none := by
  rw [run_cons, State.step, State.begin]
  by_cases h : stack.length < limit
  · rw [if_pos h, Option.bind_some, if_pos (Nat.succ_le_of_lt h)]
  · rw [if_neg h, Option.bind_none, if_neg (by omega)]

theorem run_firstItem (stack : List Frame) (v : Json) (rest : List Token) :
    State.run limit (.firstItem stack) (tokens v ++ rest) =
      State.run limit (.value (.array [] :: stack)) (tokens v ++ rest) := by
  match v with
  | .null | .bool _ | .int _ | .decimal _ _ | .str _ => rfl
  | .arr [] | .arr (_ :: _) => rfl
  | .obj [] | .obj ((_, _) :: _) => rfl

theorem run_firstKey (stack : List Frame) (key : String) (rest : List Token) :
    State.run limit (.firstKey stack) (.text key :: .colon :: rest) =
      State.run limit (.value (.object [] key :: stack)) rest :=
  rfl

theorem run_nextItem (stack : List Frame) (items : List Json) (v : Json) (rest : List Token) :
    State.run limit (.done v (.array items :: stack)) (.comma :: rest) =
      State.run limit (.value (.array (v :: items) :: stack)) rest :=
  rfl

theorem run_nextKey (stack : List Frame) (fields : List (String × Json)) (key next : String)
    (v : Json) (rest : List Token) :
    State.run limit (.done v (.object fields key :: stack)) (.comma :: .text next :: .colon :: rest) =
      State.run limit (.value (.object ((key, v) :: fields) next :: stack)) rest :=
  rfl

theorem if_max_le {n a b : Nat} {x : Option State} :
    (if n + a ≤ limit then if n + b ≤ limit then x else none else none) =
      if n + max a b ≤ limit then x else none := by
  by_cases ha : n + a ≤ limit <;> by_cases hb : n + b ≤ limit
  · rw [if_pos ha, if_pos hb, if_pos (by omega)]
  · rw [if_pos ha, if_neg hb, if_neg (by omega)]
  · rw [if_neg ha, if_neg (by omega)]
  · rw [if_neg ha, if_neg (by omega)]

mutual

theorem run_tokens {stack : List Frame} (h : stack.length ≤ limit) (v : Json) (rest : List Token) :
    State.run limit (.value stack) (tokens v ++ rest) =
      if stack.length + v.depth ≤ limit then State.run limit (.done v stack) rest else none := by
  match v with
  | .null => exact (if_pos h).symm
  | .bool _ => exact (if_pos h).symm
  | .int _ => exact (if_pos h).symm
  | .decimal _ _ => exact (if_pos h).symm
  | .str _ => exact (if_pos h).symm
  | .arr [] => exact run_beginArray stack (.endArray :: rest)
  | .arr (v :: vs) =>
    rw [tokens, List.cons_append, run_beginArray, depth, depthOf]
    by_cases hlt : stack.length + 1 ≤ limit
    · have hinner : (Frame.array [] :: stack).length ≤ limit := hlt
      rw [if_pos hlt, List.append_assoc, run_firstItem, run_tokens hinner, List.append_assoc,
        List.singleton_append, run_moreItems hlt, List.length_cons, if_max_le, ← Nat.add_assoc,
        Nat.add_right_comm]
      rfl
    · rw [if_neg hlt, if_neg (by omega)]
  | .obj [] => exact run_beginObject stack (.endObject :: rest)
  | .obj ((k, v) :: fields) =>
    rw [tokens, List.cons_append, run_beginObject, depth, depthOfFields]
    by_cases hlt : stack.length + 1 ≤ limit
    · have hinner : (Frame.object [] k :: stack).length ≤ limit := hlt
      rw [if_pos hlt, List.cons_append, List.cons_append, run_firstKey, List.append_assoc,
        run_tokens hinner, List.append_assoc, List.singleton_append, run_moreFields hlt,
        List.length_cons, if_max_le, ← Nat.add_assoc, Nat.add_right_comm]
      rfl
    · rw [if_neg hlt, if_neg (by omega)]

theorem run_moreItems {stack : List Frame} (h : stack.length + 1 ≤ limit) (items : List Json)
    (v : Json) (vs : List Json) (rest : List Token) :
    State.run limit (.done v (.array items :: stack)) (moreItems vs ++ .endArray :: rest) =
      if stack.length + 1 + depthOf vs ≤ limit then
        State.run limit (.done (.arr (items.reverse ++ v :: vs)) stack) rest
      else none := by
  match vs with
  | [] =>
    rw [moreItems, List.nil_append, run_cons, depthOf, if_pos h]
    simp [State.step]
  | w :: ws =>
    have hinner : (Frame.array (v :: items) :: stack).length ≤ limit := h
    rw [moreItems, List.cons_append, run_nextItem, List.append_assoc, run_tokens hinner,
      run_moreItems h, List.length_cons, if_max_le, depthOf, List.reverse_cons, List.append_assoc,
      List.singleton_append]

theorem run_moreFields {stack : List Frame} (h : stack.length + 1 ≤ limit)
    (fields : List (String × Json)) (key : String) (v : Json) (more : List (String × Json))
    (rest : List Token) :
    State.run limit (.done v (.object fields key :: stack)) (moreFields more ++ .endObject :: rest) =
      if stack.length + 1 + depthOfFields more ≤ limit then
        State.run limit (.done (.obj (fields.reverse ++ (key, v) :: more)) stack) rest
      else none := by
  match more with
  | [] =>
    rw [moreFields, List.nil_append, run_cons, depthOfFields, if_pos h]
    simp [State.step]
  | (k, w) :: more =>
    have hinner : (Frame.object ((key, v) :: fields) k :: stack).length ≤ limit := h
    rw [moreFields, List.cons_append, List.cons_append, List.cons_append, run_nextKey,
      List.append_assoc, run_tokens hinner, run_moreFields h, List.length_cons, if_max_le, depthOfFields,
      List.reverse_cons, List.append_assoc, List.singleton_append]

end

end Machine

/-- The value of a written text is the one that was written, numbers beyond 64 bits apart; there is
none if it is nested too deep. -/
theorem readWithin_write {layout : Layout} (hl : layout.IsSpaced) (limit depth : Nat) (v : Json) :
    readWithin limit (write layout depth v) =
      (reread? v).bind fun v' => if v'.depth ≤ limit then some v' else none := by
  have hstops : Stops [] := by simp [Stops]
  have hnil : lex [] = some [] := by rw [lex]
  have hlex := lex_write hl depth v hstops
  rw [List.append_nil, hnil] at hlex
  rw [readWithin, hlex]
  cases reread? v with
  | none => rfl
  | some v' =>
    have hempty : ([] : List Frame).length ≤ limit := Nat.zero_le limit
    have hrun := run_tokens hempty v' []
    rw [List.append_nil, List.length_nil, Nat.zero_add] at hrun
    simp only [Option.bind_some, Option.map_some, List.append_nil, hrun]
    by_cases hdepth : v'.depth ≤ limit
    · rw [if_pos hdepth, if_pos hdepth]
      rfl
    · rw [if_neg hdepth, if_neg hdepth]

theorem read_pretty (v : Json) :
    read (pretty v) = (reread? v).bind fun v' => if v'.depth ≤ maxDepth then some v' else none := by
  rw [read, pretty, String.toList_ofList]
  exact readWithin_write Layout.isSpaced_pretty maxDepth 0 v

end FormScript.Json
