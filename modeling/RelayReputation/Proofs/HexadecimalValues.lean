import RelayReputation.Yaml.Document

/-!
# Hexadecimal values

A document that gives a key an integer in hexadecimal digits is read whatever the number of the
digits, since only integers in decimal digits have a limit on them.
-/

namespace RelayReputation.Yaml

open RelayReputation.Text RelayReputation.Numeral

/-! ### Digits -/

section Digits

variable {c : Char}

/-- What a hexadecimal digit is for the readers of documents and of integers. -/
structure DigitInText (c : Char) : Prop where
  ascii : c.toNat < 128
  isAllowed : isAllowed c = true
  endsWord : endsWord (some c) = false
  isBreak : isBreak c = false
  isPad : isPad c = false
  isDigitOf : isDigitOf 16 c = true

instance (c : Char) : Decidable (DigitInText c) :=
  decidable_of_iff (c.toNat < 128 ∧ Yaml.isAllowed c = true ∧ Yaml.endsWord (some c) = false ∧
      Yaml.isBreak c = false ∧ Numeral.isPad c = false ∧ Numeral.isDigitOf 16 c = true)
    ⟨fun ⟨h₁, h₂, h₃, h₄, h₅, h₆⟩ => ⟨h₁, h₂, h₃, h₄, h₅, h₆⟩,
      fun ⟨h₁, h₂, h₃, h₄, h₅, h₆⟩ => ⟨h₁, h₂, h₃, h₄, h₅, h₆⟩⟩

theorem digitInText_ofNat :
    ∀ n < 128, isHexDigit (Char.ofNat n) = true → DigitInText (Char.ofNat n) := by
  decide +kernel

theorem digitInText (h : isHexDigit c = true) : DigitInText c := by
  have hn : c.toNat < 128 := by
    simp only [isHexDigit, isAsciiDigit, Bool.or_eq_true, Bool.and_eq_true, decide_eq_true_eq] at h
    have hle (d : Char) (hd : c ≤ d) : c.toNat ≤ d.toNat := hd
    obtain (⟨-, h⟩ | ⟨-, h⟩) | ⟨-, h⟩ := h
    · exact Nat.lt_of_le_of_lt (hle _ h) (by decide)
    · exact Nat.lt_of_le_of_lt (hle _ h) (by decide)
    · exact Nat.lt_of_le_of_lt (hle _ h) (by decide)
  have hc : Char.ofNat c.toNat = c := Char.ofNat_toNat c
  rw [← hc] at h ⊢
  exact digitInText_ofNat _ hn h

theorem ne_of_isHexDigit {d : Char} (h : isHexDigit c = true) (hd : isHexDigit d = false) :
    c ≠ d := by
  rintro rfl
  exact Bool.noConfusion (h.symm.trans hd)

end Digits

/-! ### Tokens -/

theorem lineFeeds_of_not_mem {cs : List Char} (h : '\r' ∉ cs) : lineFeeds cs = cs := by
  induction cs with
  | nil => rfl
  | cons c cs ih =>
    have hc : c ≠ '\r' := fun hc => h (hc ▸ List.mem_cons_self ..)
    have hrest := ih (List.not_mem_of_not_mem_cons h)
    rw [lineFeeds, hrest]
    · rintro ds rfl
      exact absurd rfl hc
    · exact hc

theorem skip_of_not_break {w : List Char} (h : ∀ c ∈ w, isBreak c = false ∧ c ≠ byteOrderMark)
    (rest : List Char) (cut : Bool) (index line column : Nat) :
    Cursor.skip w.length ⟨w ++ rest, cut, index, line, column⟩ =
      ⟨rest, cut, index + w.length, line, column + w.length⟩ := by
  induction w generalizing index column with
  | nil => rfl
  | cons c w ih =>
    obtain ⟨⟨hc, hmark⟩, hw⟩ := List.forall_mem_cons.mp h
    rw [List.length_cons, Cursor.skip]
    simp only [Cursor.next, List.cons_append, hc, hmark, if_false, Bool.false_eq_true]
    rw [ih hw, Nat.add_right_comm index, Nat.add_right_comm column]
    rfl

theorem plainPart_of_line {w : List Char} (h : ∀ c ∈ w, endsWord (some c) = false ∧ c ≠ ':') :
    plainPart false (w ++ ['\n']) = w := by
  induction w with
  | nil => rfl
  | cons c w ih =>
    obtain ⟨⟨hc, hcolon⟩, hw⟩ := List.forall_mem_cons.mp h
    simp [plainPart, hc, hcolon, ih hw]

theorem ok_bind {ε α β : Type} (a : α) (f : α → Except ε β) : (Except.ok a >>= f) = f a := rfl

/-- A plain scalar that ends with its line. -/
theorem run_plainScalar {indent : Int} {here there : Cursor} {part next : List Char}
    {broken : Bool} (hpeek : here.peek ≠ some '#') (hpart : plainPart false here.rest = part)
    (hne : part ≠ [])
    (hgap : plainGap.run (here.skip part.length) = .ok ((some next, broken), there))
    (hcolumn : there.column < indent) :
    (plainScalar false indent).run here = .ok ((part, broken), there) := by
  have hstart : (plainScalar false indent).run here =
      (plainFrom false indent (here.rest.length + 1) [] false).run here := rfl
  simp only [hstart, plainFrom, Reading.peek, Reading.skip, StateT.run_bind, StateT.run_get,
    pure_bind, StateT.run_pure, hpeek, if_false, hpart, hne, List.isEmpty_iff, StateT.run_modify,
    hgap, ok_bind]
  simp only [Bool.not_false, hcolumn, decide_true, Bool.and_self, Bool.or_true, if_true,
    List.nil_append]
  rfl

namespace Tokenizing

theorem run_read {α : Type} {r : Reading α} {s : TokenState} {a : α} {c : Cursor}
    (h : r.run s.cursor = .ok (a, c)) :
    (Tokenizing.read r).run s = .ok (a, { s with cursor := c }) := by
  simp only [Tokenizing.read, StateT.run_bind, StateT.run_get, pure_bind, StateT.run_monadLift,
    monadLift_self, h, ok_bind]
  rfl

theorem run_plain {s : TokenState} {text : List Char} {broken : Bool} {c : Cursor}
    (hkey : s.keyAllowed = false)
    (h : (plainScalar (s.depth ≠ 0) (s.indent + 1)).run s.cursor = .ok ((text, broken), c)) :
    plain.run s = .ok ((), { s with
      cursor := c, keyAllowed := broken,
      slots := s.slots.push ⟨.nothing, .scalar (.ofChars text) true⟩ }) := by
  have hread := run_read h
  have hsave : saveKey.run s = .ok ((), s) := by
    simp only [saveKey, StateT.run_bind, StateT.run_get, pure_bind, hkey]
    rfl
  simp only [plain, StateT.run_bind, hsave, ok_bind, StateT.run_get, pure_bind, hread]
  rfl

/-- The token after the blanks, where no block ends. -/
theorem run_advance {s t u : TokenState} {c : Char}
    (hblanks : (skipBlanks (s.cursor.rest.length + 1)).run s = .ok ((), t))
    (hkeys : dropStaleKeys.run t = .ok ((), t))
    (hunwind : (unwind t.cursor.column).run t = .ok ((), t)) (hpeek : t.cursor.peek = some c)
    (htoken : (token c).run t = .ok ((), u)) : advance.run s = .ok (false, u) := by
  simp only [advance, StateT.run_bind, StateT.run_get, pure_bind, hblanks, hkeys, hunwind, hpeek,
    htoken, ok_bind]
  rfl

end Tokenizing

/-- A document of one line that gives a key a value. -/
def entryLine (w : List Char) : List Char := 'a' :: ':' :: ' ' :: (w ++ ['\n'])

theorem stream_of_token {s t : TokenState} (h : Tokenizing.advance.run s = .ok (false, t))
    (fuel : Nat) : s.stream (fuel + 1) = t.stream fuel := by
  rw [TokenState.stream, h]

/-! The states before the mark of the value, before the value and after it. -/

def beforeMark (rest : List Char) : TokenState where
  cursor := ⟨':' :: ' ' :: rest, false, 1, 0, 1⟩
  slots := #[⟨.nothing, .scalar [.char 'a'] true⟩]
  keyAllowed := false
  keys := [(0, ⟨0, false, 0, 0, 0⟩)]

def beforeValue (cursor : Cursor) : TokenState where
  cursor := cursor
  slots := #[⟨.firstKey, .scalar [.char 'a'] true⟩, ⟨.nothing, .value⟩]
  indent := 0
  outer := [-1]
  keyAllowed := false

def afterValue (text : List Char) (cursor : Cursor) : TokenState where
  cursor := cursor
  slots := #[⟨.firstKey, .scalar [.char 'a'] true⟩, ⟨.nothing, .value⟩,
    ⟨.nothing, .scalar (.ofChars text) true⟩]
  indent := 0
  outer := [-1]

theorem advance_key (rest : List Char) :
    Tokenizing.advance.run { cursor := { rest := 'a' :: ':' :: ' ' :: rest } } =
      .ok (false, beforeMark rest) :=
  rfl

theorem advance_mark (rest : List Char) :
    Tokenizing.advance.run (beforeMark rest) =
      .ok (false, beforeValue ⟨' ' :: rest, false, 2, 0, 2⟩) :=
  rfl

theorem stream_end (text : List Char) (index fuel : Nat) :
    (afterValue text ⟨[], false, index, 1, 0⟩).stream (fuel + 1) =
      ⟨[.blockMappingStart, .key, .scalar [.char 'a'] true, .value, .scalar (.ofChars text) true,
        .blockEnd], none⟩ :=
  rfl

/-- The text of an integer in hexadecimal digits. -/
def hexText (ds : List Char) : List Char := '0' :: 'x' :: ds

section Line

variable {ds : List Char}

theorem forall_mem_hexText {p : Char → Prop} (hzero : p '0') (hx : p 'x') (h : ∀ d ∈ ds, p d) :
    ∀ c ∈ hexText ds, p c := by
  intro c hc
  rw [hexText, List.mem_cons, List.mem_cons] at hc
  obtain rfl | rfl | hc := hc
  · exact hzero
  · exact hx
  · exact h c hc

theorem run_plainScalar_hexText (h : ∀ d ∈ ds, isHexDigit d = true) (index line column : Nat) :
    (plainScalar false 1).run ⟨hexText ds ++ ['\n'], false, index, line, column⟩ =
      .ok ((hexText ds, true), ⟨[], false, index + (hexText ds).length + 1, line + 1, 0⟩) := by
  have hword : ∀ c ∈ hexText ds, endsWord (some c) = false ∧ c ≠ ':' :=
    forall_mem_hexText (by decide) (by decide) fun d hd =>
      ⟨(digitInText (h d hd)).endsWord, ne_of_isHexDigit (h d hd) rfl⟩
  have hbreak : ∀ c ∈ hexText ds, isBreak c = false ∧ c ≠ byteOrderMark :=
    forall_mem_hexText (by decide) (by decide) fun d hd =>
      ⟨(digitInText (h d hd)).isBreak, ne_of_isHexDigit (h d hd) (by decide)⟩
  have hgap : plainGap.run
      (Cursor.skip (hexText ds).length ⟨hexText ds ++ ['\n'], false, index, line, column⟩) =
        .ok ((some [' '], true), ⟨[], false, index + (hexText ds).length + 1, line + 1, 0⟩) := by
    rw [skip_of_not_break hbreak]
    rfl
  have hpeek : (Cursor.mk (hexText ds ++ ['\n']) false index line column).peek ≠ some '#' := by
    simp [hexText, Cursor.peek]
  exact run_plainScalar hpeek (plainPart_of_line hword) (List.cons_ne_nil _ _) hgap Int.zero_lt_one

theorem run_token (index line column : Nat) (hcolumn : column ≠ 0) :
    (Tokenizing.token '0').run (beforeValue ⟨hexText ds ++ ['\n'], false, index, line, column⟩) =
      Tokenizing.plain.run
        (beforeValue ⟨hexText ds ++ ['\n'], false, index, line, column⟩) := by
  have hstart : Tokenizing.startsPlain false '0' (some 'x') = true := by decide +kernel
  simp [Tokenizing.token, beforeValue, hexText, Cursor.peekAt, hstart, hcolumn]

theorem advance_value (h : ∀ d ∈ ds, isHexDigit d = true) :
    Tokenizing.advance.run (beforeValue ⟨' ' :: (hexText ds ++ ['\n']), false, 2, 0, 2⟩) =
      .ok (false, afterValue (hexText ds) ⟨[], false, 3 + (hexText ds).length + 1, 1, 0⟩) := by
  have htoken : (Tokenizing.token '0').run (beforeValue ⟨hexText ds ++ ['\n'], false, 3, 0, 3⟩) =
      .ok ((), afterValue (hexText ds) ⟨[], false, 3 + (hexText ds).length + 1, 1, 0⟩) := by
    rw [run_token 3 0 3 (by decide)]
    exact Tokenizing.run_plain rfl (run_plainScalar_hexText h 3 0 3)
  exact Tokenizing.run_advance rfl rfl rfl rfl htoken

theorem tokens_entryLine (h : ∀ d ∈ ds, isHexDigit d = true) :
    tokens (lineFeeds (entryLine (hexText ds))) =
      ⟨[.blockMappingStart, .key, .scalar [.char 'a'] true, .value,
        .scalar (.ofChars (hexText ds)) true, .blockEnd], none⟩ := by
  have hfeeds : lineFeeds (entryLine (hexText ds)) = entryLine (hexText ds) := by
    refine lineFeeds_of_not_mem ?_
    have hds : '\r' ∉ ds := fun hmem => ne_of_isHexDigit (h _ hmem) rfl rfl
    simpa [entryLine, hexText] using hds
  have hallowed : (entryLine (hexText ds)).all isAllowed = true := by
    have hds : ds.all isAllowed = true :=
      List.all_eq_true.mpr fun d hd => (digitInText (h d hd)).isAllowed
    simp only [entryLine, hexText, List.cons_append, List.all_cons, List.all_append, hds]
    decide
  have hmark : (entryLine (hexText ds)).head? ≠ some byteOrderMark := by
    simp [entryLine, byteOrderMark]
  rw [hfeeds, tokens, if_pos hallowed, tokensOf, if_neg hmark]
  have hlength : (entryLine (hexText ds)).length + 1 = ds.length + 3 + 1 + 1 + 1 + 1 := by
    simp [entryLine, hexText]
  rw [hlength, entryLine, stream_of_token (advance_key _), stream_of_token (advance_mark _),
    stream_of_token (advance_value h), stream_end]

/-! ### The kind of the value -/

theorem areSixtieths_cons {c : Char} (hc : c ≠ ':') (cs : List Char) :
    areSixtieths (c :: cs) = false := by
  obtain ⟨w, ws, hw⟩ := List.exists_cons_of_ne_nil (pieces_ne_nil (· = ':') cs)
  simp [areSixtieths, pieces, hc, hw]

theorem contains_hexText {words : List String} (h : ∀ w ∈ words, w.toList.head? ≠ some '0') :
    words.contains (String.ofList (hexText ds)) = false := by
  rw [Bool.eq_false_iff]
  intro hmem
  refine h _ (List.contains_iff_mem.mp hmem) ?_
  rw [String.toList_ofList]
  rfl

theorem isBoolean_hexText (ds : List Char) : isBoolean (String.ofList (hexText ds)) = false := by
  have hwords : ∀ w ∈ booleanWords, ∀ v ∈ casings w.1, v.toList.head? ≠ some '0' := by
    decide +kernel
  refine List.any_eq_false.mpr fun w hw => ?_
  rw [contains_hexText (hwords w hw)]
  exact Bool.false_ne_true

theorem isReal_hexText (ds : List Char) : isReal (hexText ds) = false := by
  have hunsigned : unsigned (hexText ds) = hexText ds := rfl
  have hpointed : isPointed (hexText ds) = false := rfl
  have hfraction : isFraction (hexText ds) = false := rfl
  have hsixtieths : isSexagesimalReal (hexText ds) = false := by
    have hrest : (hexText ds).dropWhile isGrouped = 'x' :: ds := rfl
    have htake : ('x' :: ds).takeWhile (· ≠ '.') = 'x' :: ds.takeWhile (· ≠ '.') := rfl
    simp only [isSexagesimalReal, hrest, htake, areSixtieths_cons (by decide : 'x' ≠ ':'),
      Bool.false_and, Bool.and_false]
  rw [isReal, hunsigned, hpointed, hfraction, hsixtieths, contains_hexText (by decide),
    contains_hexText (by decide)]
  rfl

theorem impliedTag_hexText (h : ∀ d ∈ ds, isHexDigit d = true) (hne : ds ≠ []) :
    impliedTag (.ofChars (hexText ds)) = .int := by
  have hnatural : isNatural (unsigned (hexText ds)) = true := by
    have hdigits : areDigits isHexDigit ds = true := by
      simp only [areDigits, Bool.and_eq_true, Bool.not_eq_true', List.isEmpty_eq_false_iff,
        List.all_eq_true, Bool.or_eq_true]
      exact ⟨hne, fun d hd => Or.inl (h d hd)⟩
    exact hdigits
  have hlast : (hexText ds).getLast? ≠ some '\n' := by
    intro hlast
    have hfeed : ∀ c ∈ hexText ds, c ≠ '\n' :=
      forall_mem_hexText (by decide) (by decide) fun d hd => ne_of_isHexDigit (h d hd) rfl
    exact hfeed _ (List.mem_of_getLast? hlast) rfl
  rw [impliedTag, CodePoints.toString, CodePoints.toChars_ofChars, plainTag, String.toList_ofList]
  simp [hlast, isBoolean_hexText ds, isReal_hexText ds, hnatural]

/-! ### Its number -/

theorem splitDigits_of_isHexDigit (h : ∀ d ∈ ds, isHexDigit d = true) :
    splitDigits 16 ds = some (ds, []) := by
  induction ds with
  | nil => rfl
  | cons d ds ih =>
    obtain ⟨hd, hds⟩ := List.forall_mem_cons.mp h
    have hgroup : d ≠ '_' := ne_of_isHexDigit hd rfl
    have hnext : ∀ e rest, ds = '_' :: e :: rest → False := by
      rintro e rest rfl
      exact ne_of_isHexDigit (hds '_' (List.mem_cons_self ..)) rfl rfl
    rw [splitDigits, if_pos ((digitInText hd).isDigitOf), ih hds]
    · rfl
    · exact hgroup
    · exact hnext

theorem readInteger_of_isHexDigit (h : ∀ d ∈ ds, isHexDigit d = true) (hne : ds ≠ []) :
    readInteger 16 (String.ofList ds) = .ok (ofDigits 16 ds) := by
  have hplain : plainForm ds = ds := by
    refine if_pos (List.all_eq_true.mpr fun d hd => ?_)
    exact decide_eq_true (digitInText (h d hd)).ascii
  obtain ⟨d, es, rfl⟩ := List.exists_cons_of_ne_nil hne
  have hd := h d (List.mem_cons_self ..)
  have hpad : (d :: es).dropWhile isPad = d :: es :=
    List.dropWhile_cons_of_neg (Bool.eq_false_iff.mp (digitInText hd).isPad)
  have hsign : splitSign (d :: es) = (false, d :: es) := by
    have hplus : d ≠ '+' := ne_of_isHexDigit hd rfl
    have hminus : d ≠ '-' := ne_of_isHexDigit hd rfl
    unfold splitSign
    split
    · next heq => exact absurd (List.cons.inj heq).1 hplus
    · next heq => exact absurd (List.cons.inj heq).1 hminus
    · rfl
  have hmark : dropBaseMark 16 (d :: es) = d :: es := by
    unfold dropBaseMark
    split
    · next m cs heq =>
      obtain ⟨rfl, rfl⟩ := List.cons.inj heq
      have hm := h m (by simp)
      have hlower : m ≠ 'x' := ne_of_isHexDigit hm rfl
      have hupper : m ≠ 'X' := ne_of_isHexDigit hm rfl
      have hx : ((baseMark? 16).any fun b => m = b || m = b.toUpper) = false := by
        have hcapital : 'x'.toUpper = 'X' := by decide
        simp [baseMark?, hcapital, hlower, hupper]
      rw [hx]
      rfl
    · rfl
  simp only [readInteger, String.toList_ofList, hplain, hpad, hsign, hmark,
    splitDigits_of_isHexDigit h]
  rfl

theorem readTaggedInteger_hexText (h : ∀ d ∈ ds, isHexDigit d = true) (hne : ds ≠ []) :
    readTaggedInteger (.ofChars (hexText ds)) = .ok (ofDigits 16 ds) := by
  have hgroups : withoutGroups (.ofChars (hexText ds)) = .ofChars (hexText ds) := by
    refine List.filter_eq_self.mpr fun p hp => ?_
    obtain ⟨c, hc, rfl⟩ := List.mem_map.mp hp
    have hgroup : ∀ c ∈ hexText ds, c ≠ '_' :=
      forall_mem_hexText (by decide) (by decide) fun d hd => ne_of_isHexDigit (h d hd) rfl
    simpa using hgroup c hc
  have hbase : readBase 16 (.ofChars ds) = .ok (ofDigits 16 ds) := by
    rw [readBase, CodePoints.toString, CodePoints.toChars_ofChars, readInteger_of_isHexDigit h hne]
  have hstep : readTaggedInteger (.ofChars (hexText ds)) = (readBase 16 (.ofChars ds)).map id := by
    rw [readTaggedInteger, hgroups]
    rfl
  rw [hstep, hbase]
  rfl

end Line

/-! ### Documents -/

theorem ofTokens_entry (key value : CodePoints) :
    Node.ofTokens ⟨[.blockMappingStart, .key, .scalar key true, .value, .scalar value true,
      .blockEnd], none⟩ = .ok (some (.mapping {} [(.scalar {} key true, .scalar {} value true)])) :=
  rfl

section Entry

variable {key value : CodePoints} {n : Int}

/-- The graph of a document that gives a key an integer. -/
def entryGraph (key value : CodePoints) : Graph :=
  #[.mapping .mapping [(1, 2)], .scalar .text key, .scalar .int value]

theorem graph_entry (hkey : impliedTag key = .text) (hvalue : impliedTag value = .int) :
    Graph.ofNode (.mapping {} [(.scalar {} key true, .scalar {} value true)]) =
      (entryGraph key value, 0) := by
  simp only [Graph.ofNode, Graph.compose, Graph.composePairs, hkey, hvalue]
  rfl

theorem run_visit_value (key : CodePoints) (hn : readTaggedInteger value = .ok n)
    {found : List (Nat × Content)} (hfound : found.lookup 2 = none) (pending : List Nat) :
    (Build.visit 2).run ⟨entryGraph key value, found, pending⟩ =
      .ok ((), ⟨entryGraph key value, (2, .simple (.int n)) :: found, pending⟩) := by
  have hread : Scalar.read 2 .int value = .ok (.int n) := by
    rw [Scalar.read, hn]
    rfl
  have htext : (entryGraph key value).scalarText 2 = .ok value := rfl
  have htag : ((entryGraph key value).node 2).tag = .int := rfl
  have hcontent : Build.emptyContent? .int = none := rfl
  simp only [Build.visit, StateT.run_bind, StateT.run_get, pure_bind, hfound, htag, hcontent]
  simp only [Option.isSome_none, Bool.false_eq_true, if_false, List.contains_eq_mem,
    List.mem_cons, reduceCtorEq, List.not_mem_nil, or_self, decide_false, htext, Bool.false_and,
    Build.note, StateT.run_bind, StateT.run_monadLift, monadLift_self, pure_bind, ok_bind, hread]
  rfl

theorem run_entriesOf (hn : readTaggedInteger value = .ok n) :
    (Build.entriesOf [] [(1, 2)]).run ⟨entryGraph key value, [(0, .mapping [])], []⟩ =
      .ok ([(.text key, 2)], ⟨entryGraph key value,
        [(2, .simple (.int n)), (1, .simple (.text key)), (0, .mapping [])], []⟩) := by
  have hkey : (Build.key 1).run ⟨entryGraph key value, [(0, .mapping [])], []⟩ =
      .ok (.text key, ⟨entryGraph key value, [(1, .simple (.text key)), (0, .mapping [])], []⟩) :=
    rfl
  have hfound : [(1, Content.simple (.text key)), (0, .mapping [])].lookup 2 = none := rfl
  simp only [Build.entriesOf, StateT.run_bind, hkey, ok_bind, run_visit_value key hn hfound []]
  rfl

theorem run_root (hn : readTaggedInteger value = .ok n) :
    (Build.root 0).run { graph := entryGraph key value } =
      .ok ((), ⟨entryGraph key value, [(0, .mapping [(.text key, 2)]), (2, .simple (.int n)),
        (1, .simple (.text key)), (0, .mapping [])], []⟩) := by
  have hvisit : (Build.visit 0).run { graph := entryGraph key value } =
      .ok ((), ⟨entryGraph key value, [(0, .mapping [])], [0]⟩) := rfl
  have hflat : (entryGraph key value).flatten 0 = .ok (entryGraph key value) := rfl
  have hnode : (entryGraph key value).node 0 = .mapping .mapping [(1, 2)] := rfl
  have hentries : (entryGraph key value).entries 0 = [(1, 2)] := rfl
  have hsize : (entryGraph key value).size = 3 := rfl
  have hfill : (Build.fill 0).run ⟨entryGraph key value, [(0, .mapping [])], []⟩ =
      .ok ((), ⟨entryGraph key value, [(0, .mapping [(.text key, 2)]), (2, .simple (.int n)),
        (1, .simple (.text key)), (0, .mapping [])], []⟩) := by
    simp only [Build.fill, Build.flattened, StateT.run_bind, StateT.run_get, pure_bind, hnode,
      GraphNode.tag, StateT.run_monadLift, monadLift_self, hflat, ok_bind, StateT.run_set, hentries,
      run_entriesOf hn]
    rfl
  simp only [Build.root, StateT.run_bind, hvisit, ok_bind, StateT.run_get, pure_bind, hsize,
    Build.fillAll, StateT.run_set, hfill, StateT.run_pure]
  rfl

theorem ofNode_entry (hkey : impliedTag key = .text) (hvalue : impliedTag value = .int)
    (hn : readTaggedInteger value = .ok n) :
    Value.ofNode (.mapping {} [(.scalar {} key true, .scalar {} value true)]) =
      .ok (.mapping [(.text key, .simple (.int n))]) := by
  rw [Value.ofNode, graph_entry hkey hvalue]
  dsimp only
  rw [run_root hn]
  rfl

end Entry

/-- A document that gives a key an integer in hexadecimal digits is read, whatever their number. -/
theorem load_hexadecimal {ds : List Char} (h : ∀ d ∈ ds, isHexDigit d = true) (hne : ds ≠ []) :
    load ("a: 0x" ++ String.ofList ds ++ "\n") =
      .ok (.mapping [(.text [.char 'a'], .simple (.int (ofDigits 16 ds)))]) := by
  have hline : ("a: 0x" ++ String.ofList ds ++ "\n").toList = entryLine (hexText ds) := by
    simp [entryLine, hexText, String.toList_append]
  have hkey : impliedTag [.char 'a'] = .text := by decide +kernel
  rw [load, hline, tokens_entryLine h, ofTokens_entry]
  exact ofNode_entry hkey (impliedTag_hexText h hne) (readTaggedInteger_hexText h hne)

end RelayReputation.Yaml
