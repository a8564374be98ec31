import Timetable.Proofs.Json.Numbers

/-
  This file proves that the text of a JSON value reads back
  as the same value.

  Key definitions include:
    * `Json.pieceOf`
    * `Json.Textual`

  Main theorems:
    * `Json.readString_quoted`: an escaped text reads back
    * `Json.readValue_render`: a value reads back, whatever
      follows it that does not go on with a number
    * `Json.whole_render`: the text of a value is read as
      this value alone
-/

namespace Timetable.Json

------------------------------------------------------------
-- Code Units
------------------------------------------------------------

theorem hexValue?_hexDigit :
    ∀ d : Fin 16, hexValue? (hexDigit d.val) = some d.val := by
  decide +kernel

theorem hexValue?_hexDigit_mod
    (n : Nat) :
    hexValue? (hexDigit (n % 16)) = some (n % 16) :=
  hexValue?_hexDigit ⟨n % 16, Nat.mod_lt n (by decide)⟩

/- The four digits of a code unit read back. -/
theorem readUnit_digits
    {n : Nat}
    (hUnit : n < 65536)
    (rest : List Char) :
    readUnit
      (hexDigit (n / 4096 % 16) :: hexDigit (n / 256 % 16) ::
        hexDigit (n / 16 % 16) :: hexDigit (n % 16) :: rest) = .ok (n, rest) := by
  have hValue :
      [n / 4096 % 16, n / 256 % 16, n / 16 % 16, n % 16].foldl
        (fun n d => 16 * n + d) 0 = n := by
    simp only [List.foldl_cons, List.foldl_nil]
    omega
  simp only [readUnit, List.take_succ_cons, List.take_zero, List.filterMap_cons,
    List.filterMap_nil, hexValue?_hexDigit_mod, hValue]
  rfl

------------------------------------------------------------
-- Pieces of a Text
------------------------------------------------------------

/- A character that is written as a code unit is read as one. -/
def pieceOf (c : Char) : Piece :=
  if escapeChar c = unitEscape c.toNat then .unit c.toNat else .plain c

theorem not_surrogate
    (c : Char) :
    ¬ (0xD800 ≤ c.toNat ∧ c.toNat < 0xE000) := by
  have hValid : c.toNat < 0xD800 ∨ 0xDFFF < c.toNat ∧ c.toNat < 0x110000 := c.valid
  omega

theorem joinPieces_unit
    (c : Char)
    (pieces : List Piece) :
    joinPieces (.unit c.toNat :: pieces) = c :: joinPieces pieces := by
  have hAlone := not_surrogate c
  match pieces with
  | [] => simp only [joinPieces, if_neg hAlone, Char.ofNat_toNat]
  | .plain _ :: _ => simp only [joinPieces, if_neg hAlone, Char.ofNat_toNat]
  | .unit low :: rest =>
      have hPair :
          ¬ (0xD800 ≤ c.toNat ∧ c.toNat < 0xDC00 ∧ 0xDC00 ≤ low ∧ low < 0xE000) := by
        omega
      rw [joinPieces, if_neg hPair, if_neg hAlone, Char.ofNat_toNat]

/- The pieces of a text are joined to it again. -/
theorem joinPieces_map_pieceOf
    (cs : List Char) :
    joinPieces (cs.map pieceOf) = cs := by
  induction cs with
  | nil => rfl
  | cons c rest ih =>
      rw [List.map_cons, pieceOf]
      split
      · rw [joinPieces_unit, ih]
      · rw [joinPieces, ih]

------------------------------------------------------------
-- Escaped Characters
------------------------------------------------------------

private theorem eq_ofNat
    {c : Char}
    {n : Nat}
    (h : c.toNat = n) :
    some (Char.ofNat n) = some c := by
  rw [← h, Char.ofNat_toNat]

/- A character is escaped by a letter or as a code unit, or stands for itself. -/
theorem escapeChar_cases
    (c : Char) :
    (∃ e, letterEscape? e = some c ∧ escapeChar c = ['\\', e]) ∨
      (c.toNat < 65536 ∧ escapeChar c = unitEscape c.toNat) ∨
      (c ≠ '"' ∧ c ≠ '\\' ∧ 32 ≤ c.toNat ∧ escapeChar c = [c]) := by
  fun_cases escapeChar c with
  | case1 h => exact .inl ⟨'"', congrArg some (eq_of_beq h).symm, rfl⟩
  | case2 _ h => exact .inl ⟨'\\', congrArg some (eq_of_beq h).symm, rfl⟩
  | case3 _ _ h => exact .inl ⟨'n', congrArg some (eq_of_beq h).symm, rfl⟩
  | case4 _ _ _ h => exact .inl ⟨'r', congrArg some (eq_of_beq h).symm, rfl⟩
  | case5 _ _ _ _ h => exact .inl ⟨'t', congrArg some (eq_of_beq h).symm, rfl⟩
  | case6 _ _ _ _ _ h => exact .inl ⟨'b', eq_ofNat (eq_of_beq h), rfl⟩
  | case7 _ _ _ _ _ _ h => exact .inl ⟨'f', eq_ofNat (eq_of_beq h), rfl⟩
  | case8 _ _ _ _ _ _ _ h =>
      refine .inr (.inl ⟨?_, rfl⟩)
      simp only [Bool.or_eq_true, beq_iff_eq, decide_eq_true_eq] at h
      rcases h with ((((hLow | rfl) | rfl) | rfl) | hLine) | hParagraph
      · omega
      · decide
      · decide
      · decide
      · omega
      · omega
  | case9 hQuote hSlash _ _ _ _ _ h =>
      simp only [Bool.or_eq_true, decide_eq_true_eq, not_or] at h
      exact .inr (.inr ⟨by simpa using hQuote, by simpa using hSlash, by omega, rfl⟩)

section

variable (fuel : Nat) (text : List Char)

theorem readPieces_letter
    {e d : Char}
    (hLetter : letterEscape? e = some d) :
    readPieces (fuel + 1) ('\\' :: e :: text) =
      (readPieces fuel text).map (fun p => (.plain d :: p.1, p.2)) := by
  have hMark : e ≠ 'u' := by
    rintro rfl
    cases hLetter
  rw [readPieces]
  · rw [hLetter]
    cases readPieces fuel text <;> rfl
  · simpa using hMark

theorem readPieces_unit
    {n : Nat}
    (hUnit : n < 65536) :
    readPieces (fuel + 1) (unitEscape n ++ text) =
      (readPieces fuel text).map (fun p => (.unit n :: p.1, p.2)) := by
  simp only [unitEscape, List.cons_append, List.nil_append]
  rw [readPieces, readUnit_digits hUnit]
  simp only [bind, Except.bind]
  cases readPieces fuel text <;> rfl

theorem readPieces_plain
    {c : Char}
    (hQuote : c ≠ '"')
    (hSlash : c ≠ '\\')
    (hShown : 32 ≤ c.toNat) :
    readPieces (fuel + 1) (c :: text) =
      (readPieces fuel text).map (fun p => (.plain c :: p.1, p.2)) := by
  rw [readPieces, if_neg (by omega)]
  · cases readPieces fuel text <;> rfl
  · simp [hQuote]
  · simp [hSlash]
  · simp [hSlash]
  · simp [hSlash]

/- An escaped character is read as its piece. -/
theorem readPieces_escapeChar
    (c : Char) :
    readPieces (fuel + 1) (escapeChar c ++ text) =
      (readPieces fuel text).map (fun p => (pieceOf c :: p.1, p.2)) := by
  unfold pieceOf
  rcases escapeChar_cases c with
    ⟨e, hLetter, hText⟩ | ⟨hUnit, hText⟩ | ⟨hQuote, hSlash, hShown, hText⟩
  · have hOther : ['\\', e] ≠ unitEscape c.toNat := by
      simp [unitEscape]
    rw [hText, if_neg hOther]
    exact readPieces_letter fuel text hLetter
  · rw [hText, if_pos rfl]
    exact readPieces_unit fuel text hUnit
  · have hOther : [c] ≠ unitEscape c.toNat := by
      simp [unitEscape]
    rw [hText, if_neg hOther]
    exact readPieces_plain fuel text hQuote hSlash hShown

end

/- An escaped text is read as its pieces, up to the closing quote. -/
theorem readPieces_quoted
    (cs rest : List Char)
    {fuel : Nat}
    (hFuel : cs.length < fuel) :
    readPieces fuel (cs.flatMap escapeChar ++ '"' :: rest) =
      .ok (cs.map pieceOf, rest) := by
  induction cs generalizing fuel with
  | nil =>
      obtain ⟨fuel, rfl⟩ := Nat.exists_eq_succ_of_ne_zero (Nat.ne_of_gt hFuel)
      rfl
  | cons c cs ih =>
      obtain ⟨fuel, rfl⟩ := Nat.exists_eq_succ_of_ne_zero (Nat.ne_zero_of_lt hFuel)
      rw [List.flatMap_cons, List.append_assoc, readPieces_escapeChar,
        ih (Nat.lt_of_succ_lt_succ hFuel)]
      rfl

theorem length_le_length_escaped
    (cs : List Char) :
    cs.length ≤ (cs.flatMap escapeChar).length := by
  induction cs with
  | nil => simp
  | cons c cs ih =>
      have hSome : 1 ≤ (escapeChar c).length := by
        rcases escapeChar_cases c with ⟨e, -, hText⟩ | ⟨-, hText⟩ | ⟨-, -, -, hText⟩ <;>
          simp [hText, unitEscape]
      rw [List.flatMap_cons, List.length_append, List.length_cons]
      omega

/- An escaped text reads back. -/
theorem readString_quoted
    (s : String)
    (rest : List Char) :
    readString (s.toList.flatMap escapeChar ++ '"' :: rest) = .ok (s, rest) := by
  have hFuel :
      s.toList.length < (s.toList.flatMap escapeChar ++ '"' :: rest).length + 1 := by
    have := length_le_length_escaped s.toList
    rw [List.length_append]
    omega
  rw [readString, readPieces_quoted s.toList rest hFuel]
  simp only [bind, Except.bind, joinPieces_map_pieceOf, String.ofList_toList]
  rfl

theorem toList_quote
    (s : String) :
    (quote s).toList = '"' :: (s.toList.flatMap escapeChar ++ ['"']) := by
  simp [quote]

------------------------------------------------------------
-- Values
------------------------------------------------------------

/-
  A value that can be written, whose lists and objects are
  nested at most so deep.
-/
inductive Textual : Nat → Json → Prop where
| null {height : Nat} :
    Textual height .null
| bool {height : Nat} (b : Bool) :
    Textual height (.bool b)
| num {height : Nat} {literal : String} :
    IsLiteral literal → Textual height (.num literal)
| str {height : Nat} (s : String) :
    Textual height (.str s)
| arr {height : Nat} {items : List Json} :
    (∀ v ∈ items, Textual height v) → Textual (height + 1) (.arr items)
| obj {height : Nat} {members : List (String × Json)} :
    (∀ m ∈ members, Textual height m.2) → Textual (height + 1) (.obj members)

/- A value is read back within a depth, up to where it has ended. -/
def ReadsBack
    (height : Nat)
    (v : Json) : Prop :=
  ∀ fuel depth rest,
    v.render.toList.length < fuel →
    depth + height ≤ depthLimit →
    Ended rest →
    readValue fuel depth (v.render.toList ++ rest) = .ok (v, rest)

theorem skipBlanks_cons
    {c : Char}
    (hSolid : isBlank c = false)
    (text : List Char) :
    skipBlanks (c :: text) = c :: text := by
  simp [skipBlanks, hSolid]

theorem ended_nil : Ended [] := by
  intro c hHead
  cases hHead

theorem ended_cons
    {c : Char}
    (hOther : c ∈ [',', ']', '\x7d'])
    (rest : List Char) :
    Ended (c :: rest) := by
  rintro d ⟨⟩
  simp only [List.mem_cons, List.not_mem_nil, or_false] at hOther
  rcases hOther with rfl | rfl | rfl <;> decide

theorem readsBack_null
    (height : Nat) :
    ReadsBack height .null := by
  rintro (_ | fuel) depth rest hFuel - -
  · omega
  · rfl

theorem readsBack_bool
    (height : Nat)
    (b : Bool) :
    ReadsBack height (.bool b) := by
  rintro (_ | fuel) depth rest hFuel - -
  · omega
  · cases b <;> rfl

theorem isBlank_of_first
    {c : Char}
    (hFirst : c = '-' ∨ c.isDigit = true) :
    isBlank c = false := by
  rcases hFirst with rfl | hDigit
  · rfl
  · have hOther : ∀ d, d.isDigit = false → c ≠ d := fun _ => Decimal.ne_of_isDigit hDigit
    simp [isBlank, hOther ' ' rfl, hOther '\t' rfl, hOther '\r' rfl, hOther '\n' rfl]

/- A literal starts with a minus or a digit. -/
theorem literal_start
    {literal : String}
    (hLiteral : IsLiteral literal) :
    ∃ c text, literal.toList = c :: text ∧ (c = '-' ∨ c.isDigit = true) := by
  obtain ⟨negative, n, hShape, rfl⟩ := hLiteral
  obtain ⟨c, text, hDigit, hStart⟩ := Decimal.Numeral.text_start hShape
  rw [String.toList_ofList]
  cases negative with
  | true => exact ⟨'-', n.text, rfl, .inl rfl⟩
  | false => exact ⟨c, text, hStart, .inr hDigit⟩

theorem readsBack_num
    (height : Nat)
    {literal : String}
    (hLiteral : IsLiteral literal) :
    ReadsBack height (.num literal) := by
  rintro (_ | fuel) depth rest hFuel - hEnd
  · omega
  have hRead := readNumber_literal hEnd hLiteral
  rcases literal_start hLiteral with ⟨c, text, hStart, hFirst⟩
  rw [hStart, List.cons_append] at hRead
  rw [render, hStart, List.cons_append, readValue, skipBlanks_cons (isBlank_of_first hFirst)]
  -- No other value starts with such a character.
  split
  all_goals rename_i hSame
  all_goals cases hSame
  all_goals try exact absurd hFirst (by decide)
  have hNumber : (c == '-' || c.isDigit) = true := by simpa using hFirst
  simp only [hNumber, if_true, hRead]
  rfl

theorem readsBack_str
    (height : Nat)
    (s : String) :
    ReadsBack height (.str s) := by
  rintro (_ | fuel) depth rest hFuel - -
  · omega
  · rw [render, toList_quote, List.cons_append, List.append_assoc, List.singleton_append,
      readValue, skipBlanks_cons rfl]
    simp only [readString_quoted]
    rfl

------------------------------------------------------------
-- Lists
------------------------------------------------------------

/- Texts joined by commas. -/
def joined (texts : List String) : List Char :=
  (String.intercalate "," texts).toList

theorem joined_singleton
    (t : String) :
    joined [t] = t.toList := by
  rw [joined, String.intercalate_singleton]

theorem joined_cons_cons
    (t u : String)
    (texts : List String) :
    joined (t :: u :: texts) = t.toList ++ ',' :: joined (u :: texts) := by
  rw [joined, String.intercalate_cons_cons]
  simp [joined]

section

variable {height fuel depth : Nat} {v : Json} (hValue : ReadsBack height v)
variable (hFuel : v.render.toList.length < fuel) (hDepth : depth + height ≤ depthLimit)

include hValue hFuel hDepth

theorem readItems_last
    (rest : List Char) :
    readItems (fuel + 1) depth (v.render.toList ++ ']' :: rest) = .ok ([v], rest) := by
  rw [readItems, hValue fuel depth _ hFuel hDepth (ended_cons (by decide) rest)]
  rfl

theorem readItems_more
    {text rest : List Char}
    {more : List Json}
    (hMore : readItems fuel depth text = .ok (more, rest)) :
    readItems (fuel + 1) depth (v.render.toList ++ ',' :: text) =
      .ok (v :: more, rest) := by
  have hComma : skipBlanks (',' :: text) = ',' :: text := skipBlanks_cons rfl text
  rw [readItems, hValue fuel depth _ hFuel hDepth (ended_cons (by decide) text)]
  simp only [bind, Except.bind, hComma, hMore]
  rfl

end

theorem joined_renderItems_singleton
    (v : Json) :
    joined (renderItems [v]) = v.render.toList := by
  simp [renderItems, joined_singleton]

theorem joined_renderItems_cons_cons
    (v u : Json)
    (more : List Json) :
    joined (renderItems (v :: u :: more)) =
      v.render.toList ++ ',' :: joined (renderItems (u :: more)) := by
  simp [renderItems, joined_cons_cons]

/- The elements of a list read back, up to the closing bracket. -/
theorem readItems_render
    {height fuel depth : Nat}
    {items : List Json}
    (hItems : ∀ v ∈ items, ReadsBack height v)
    (hSome : items ≠ [])
    (hFuel : (joined (renderItems items)).length + 1 < fuel)
    (hDepth : depth + height ≤ depthLimit)
    (rest : List Char) :
    readItems fuel depth (joined (renderItems items) ++ ']' :: rest) =
      .ok (items, rest) := by
  induction items generalizing fuel with
  | nil => contradiction
  | cons v more ih =>
      obtain ⟨fuel, rfl⟩ := Nat.exists_eq_succ_of_ne_zero (Nat.ne_zero_of_lt hFuel)
      have hValue := hItems v List.mem_cons_self
      cases more with
      | nil =>
          rw [joined_renderItems_singleton] at hFuel ⊢
          exact readItems_last hValue (by omega) hDepth rest
      | cons u more =>
          have hTail := fun w hw => hItems w (List.mem_cons_of_mem v hw)
          rw [joined_renderItems_cons_cons] at hFuel ⊢
          rw [List.length_append, List.length_cons] at hFuel
          rw [List.append_assoc, List.cons_append]
          exact readItems_more hValue (by omega) hDepth
            (ih hTail (List.cons_ne_nil u more) (by omega))

theorem toList_render_arr
    (items : List Json) :
    (Json.arr items).render.toList = '[' :: (joined (renderItems items) ++ [']']) := by
  simp [render, joined]

theorem toList_render_obj
    (members : List (String × Json)) :
    (Json.obj members).render.toList =
      '\x7b' :: (joined (renderMembers members) ++ ['\x7d']) := by
  simp [render, joined]

/- The text of a value starts with a character that is no blank and closes nothing. -/
theorem render_start
    {height : Nat}
    {v : Json}
    (hText : Textual height v) :
    ∃ c text, v.render.toList = c :: text ∧ isBlank c = false ∧ c ≠ ']' := by
  cases hText with
  | null => exact ⟨'n', _, rfl, rfl, by decide⟩
  | bool b => cases b <;> exact ⟨_, _, rfl, rfl, by decide⟩
  | num hLiteral =>
      rcases literal_start hLiteral with ⟨c, text, hStart, hFirst⟩
      refine ⟨c, text, hStart, isBlank_of_first hFirst, ?_⟩
      rintro rfl
      exact absurd hFirst (by decide)
  | str s => exact ⟨'"', _, toList_quote s, rfl, by decide⟩
  | arr _ => exact ⟨'[', _, toList_render_arr _, rfl, by decide⟩
  | obj _ => exact ⟨'\x7b', _, toList_render_obj _, rfl, by decide⟩

theorem joined_renderItems_start
    {height : Nat}
    {v : Json}
    {more : List Json}
    (hText : Textual height v) :
    ∃ c text,
      joined (renderItems (v :: more)) = c :: text ∧ isBlank c = false ∧ c ≠ ']' := by
  rcases render_start hText with ⟨c, text, hStart, hSolid, hOpen⟩
  cases more with
  | nil =>
      rw [joined_renderItems_singleton, hStart]
      exact ⟨c, text, rfl, hSolid, hOpen⟩
  | cons u more =>
      rw [joined_renderItems_cons_cons, hStart]
      exact ⟨c, _, rfl, hSolid, hOpen⟩

theorem readsBack_arr
    {height : Nat}
    {items : List Json}
    (hTexts : ∀ v ∈ items, Textual height v)
    (hItems : ∀ v ∈ items, ReadsBack height v) :
    ReadsBack (height + 1) (.arr items) := by
  rintro (_ | fuel) depth rest hFuel hDepth -
  · omega
  have hOpen : ¬ depthLimit ≤ depth := by omega
  rw [toList_render_arr] at hFuel ⊢
  rw [List.cons_append, List.append_assoc, List.singleton_append, readValue,
    skipBlanks_cons rfl]
  match items with
  | [] => exact if_neg hOpen
  | v :: more =>
      rcases joined_renderItems_start (hTexts v List.mem_cons_self) with
        ⟨c, text, hStart, hSolid, hNoClose⟩
      have hLength : (joined (renderItems (v :: more))).length + 1 < fuel := by
        rw [List.length_cons, List.length_append, List.length_singleton] at hFuel
        omega
      have hInner : depth + 1 + height ≤ depthLimit := by omega
      have hRead :=
        readItems_render hItems (List.cons_ne_nil v more) hLength hInner rest
      rw [hStart, List.cons_append] at hRead ⊢
      simp only [if_neg hOpen, skipBlanks_cons hSolid, hRead]
      split
      · rename_i hClose
        exact absurd (List.cons.inj hClose).1 hNoClose
      · rfl

------------------------------------------------------------
-- Objects
------------------------------------------------------------

section

variable {height fuel depth : Nat} {v : Json} (hValue : ReadsBack height v)
variable (hFuel : v.render.toList.length < fuel) (hDepth : depth + height ≤ depthLimit)

include hValue hFuel hDepth

theorem readMembers_last
    (name : String)
    (rest : List Char) :
    readMembers (fuel + 1) depth
      ((quote name).toList ++ ':' :: (v.render.toList ++ '\x7d' :: rest)) =
        .ok ([(name, v)], rest) := by
  have hRead := hValue fuel depth ('\x7d' :: rest) hFuel hDepth (ended_cons (by decide) rest)
  have hColon : ∀ text, skipBlanks (':' :: text) = ':' :: text := skipBlanks_cons rfl
  rw [toList_quote, List.cons_append, List.append_assoc, List.singleton_append,
    readMembers, skipBlanks_cons rfl]
  simp only [readString_quoted, bind, Except.bind, hColon, hRead]
  rfl

theorem readMembers_more
    (name : String)
    {text rest : List Char}
    {more : List (String × Json)}
    (hMore : readMembers fuel depth text = .ok (more, rest)) :
    readMembers (fuel + 1) depth
      ((quote name).toList ++ ':' :: (v.render.toList ++ ',' :: text)) =
        .ok ((name, v) :: more, rest) := by
  have hRead := hValue fuel depth (',' :: text) hFuel hDepth (ended_cons (by decide) text)
  have hColon : ∀ text, skipBlanks (':' :: text) = ':' :: text := skipBlanks_cons rfl
  have hComma : skipBlanks (',' :: text) = ',' :: text := skipBlanks_cons rfl text
  rw [toList_quote, List.cons_append, List.append_assoc, List.singleton_append,
    readMembers, skipBlanks_cons rfl]
  simp only [readString_quoted, bind, Except.bind, hColon, hRead, hComma, hMore]
  rfl

end

theorem joined_renderMembers_singleton
    (name : String)
    (v : Json) :
    joined (renderMembers [(name, v)]) = (quote name).toList ++ ':' :: v.render.toList := by
  simp [renderMembers, joined_singleton]

theorem joined_renderMembers_cons_cons
    (name : String)
    (v : Json)
    (m : String × Json)
    (more : List (String × Json)) :
    joined (renderMembers ((name, v) :: m :: more)) =
      (quote name).toList ++
        ':' :: (v.render.toList ++ ',' :: joined (renderMembers (m :: more))) := by
  obtain ⟨next, u⟩ := m
  simp [renderMembers, joined_cons_cons]

/- The members of an object read back, up to the closing brace. -/
theorem readMembers_render
    {height fuel depth : Nat}
    {members : List (String × Json)}
    (hMembers : ∀ m ∈ members, ReadsBack height m.2)
    (hSome : members ≠ [])
    (hFuel : (joined (renderMembers members)).length + 1 < fuel)
    (hDepth : depth + height ≤ depthLimit)
    (rest : List Char) :
    readMembers fuel depth (joined (renderMembers members) ++ '\x7d' :: rest) =
      .ok (members, rest) := by
  induction members generalizing fuel with
  | nil => contradiction
  | cons m more ih =>
      obtain ⟨fuel, rfl⟩ := Nat.exists_eq_succ_of_ne_zero (Nat.ne_zero_of_lt hFuel)
      obtain ⟨name, v⟩ := m
      have hValue : ReadsBack height v := hMembers (name, v) List.mem_cons_self
      cases more with
      | nil =>
          rw [joined_renderMembers_singleton] at hFuel ⊢
          rw [List.length_append, List.length_cons] at hFuel
          rw [List.append_assoc, List.cons_append]
          exact readMembers_last hValue (by omega) hDepth name rest
      | cons next more =>
          have hTail := fun w hw => hMembers w (List.mem_cons_of_mem (name, v) hw)
          rw [joined_renderMembers_cons_cons] at hFuel ⊢
          simp only [List.length_append, List.length_cons] at hFuel
          rw [List.append_assoc, List.cons_append, List.append_assoc, List.cons_append]
          exact readMembers_more hValue (by omega) hDepth name
            (ih hTail (List.cons_ne_nil next more) (by omega))

theorem joined_renderMembers_start
    (name : String)
    (v : Json)
    (more : List (String × Json)) :
    ∃ text, joined (renderMembers ((name, v) :: more)) = '"' :: text := by
  cases more with
  | nil =>
      rw [joined_renderMembers_singleton, toList_quote]
      exact ⟨_, rfl⟩
  | cons next more =>
      rw [joined_renderMembers_cons_cons, toList_quote]
      exact ⟨_, rfl⟩

theorem readsBack_obj
    {height : Nat}
    {members : List (String × Json)}
    (hMembers : ∀ m ∈ members, ReadsBack height m.2) :
    ReadsBack (height + 1) (.obj members) := by
  rintro (_ | fuel) depth rest hFuel hDepth -
  · omega
  have hOpen : ¬ depthLimit ≤ depth := by omega
  rw [toList_render_obj] at hFuel ⊢
  rw [List.cons_append, List.append_assoc, List.singleton_append, readValue,
    skipBlanks_cons rfl]
  match members with
  | [] => exact if_neg hOpen
  | (name, v) :: more =>
      rcases joined_renderMembers_start name v more with ⟨text, hStart⟩
      have hLength : (joined (renderMembers ((name, v) :: more))).length + 1 < fuel := by
        rw [List.length_cons, List.length_append, List.length_singleton] at hFuel
        omega
      have hInner : depth + 1 + height ≤ depthLimit := by omega
      have hRead :=
        readMembers_render hMembers (List.cons_ne_nil _ more) hLength hInner rest
      have hQuote : ∀ text, skipBlanks ('"' :: text) = '"' :: text := skipBlanks_cons rfl
      rw [hStart, List.cons_append] at hRead ⊢
      simp only [if_neg hOpen, hQuote, hRead]
      split
      · rename_i hClose
        exact absurd (List.cons.inj hClose).1 (by decide)
      · rfl

------------------------------------------------------------
-- Whole Texts
------------------------------------------------------------

/- A value that can be written reads back. -/
theorem readValue_render
    {height : Nat}
    {v : Json}
    (hText : Textual height v) :
    ReadsBack height v := by
  induction hText with
  | null => exact readsBack_null _
  | bool b => exact readsBack_bool _ b
  | num hLiteral => exact readsBack_num _ hLiteral
  | str s => exact readsBack_str _ s
  | arr hItems ih => exact readsBack_arr hItems ih
  | obj _ ih => exact readsBack_obj ih

/- The text of a value is read as this value alone. -/
theorem whole_render
    {height : Nat}
    {v : Json}
    (hText : Textual height v)
    (hHeight : height ≤ depthLimit) :
    whole v.render = .ok v := by
  have hFuel : v.render.toList.length < 2 * v.render.length + 2 := by
    rw [String.length_toList]
    omega
  have hRead := readValue_render hText _ 0 [] hFuel (by omega) ended_nil
  rw [List.append_nil] at hRead
  rw [whole, hRead]
  rfl

end Timetable.Json
