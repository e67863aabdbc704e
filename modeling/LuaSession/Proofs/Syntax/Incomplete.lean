import LuaSession.Proofs.Syntax.Grammar
import LuaSession.Proofs.Syntax.Longer.Tokens
import LuaSession.Proofs.Text.Encoding

/-!
# Texts that are no script, and what may follow them

If a text of whole lines is no script, then either the same is wrong with every text that
begins with it, or some line after it makes something else wrong, which is not at the end.
-/

namespace LuaSession.Syntax

open LuaSession.Script
open Lexer (EndsLine IsLine openQuote)

namespace ReadState

/-- Some line leads out of a token inside which a text ends. -/
theorem StopsInside.getsOut {s : ReadState} {trouble : Trouble}
    (stops : s.StopsInside trouble) :
    ∃ line, IsLine line ∧ Lexer.GetsOut (s.extend line).next := by
  obtain ⟨line, isLine, recurs⟩ := Lexer.recurs_next s.size s.size s.line stops.ends stops.room
    (Nat.le_of_lt stops.room)
  have recurs := recurs line
  change Lexer.NextRecurs line line _ s.next (s.extend line).next at recurs
  refine ⟨line, isLine, ?_⟩
  rw [stops.next] at recurs
  generalize (s.extend line).next = longer at recurs ⊢
  cases recurs with
  | token agrees =>
      cases agrees with
      | failed notAtEnd => exact absurd stops.isOpen.isAtEnd notAtEnd
      | ended _ getsOut => exact getsOut rfl

/-- The state in which reading a script begins. -/
def start (chunk : Bytes) (depth : Nat) (bytes : Bytes) : ReadState where
  rest := bytes.toList
  size := bytes.size + 2
  scope := mainScope
  depth
  chunk

end ReadState

namespace Read

variable {more : List UInt8}

/-- Read a script up to where it should end. -/
def beginning : Read (List Stmt) := do
  openBlock false
  advance
  (reader (2 * depthLimit + 2)).block

/-- The end of a script, and what is then known of it. -/
def ending (body : List Stmt) : Read Code := do
  unless (← token) == .eof do failExpected .eof
  let labelled ← hasLabels
  let info ← closeFunction 0
  return .mk info labelled body

theorem script_eq : script = beginning >>= ending := by
  simp only [beginning, bind_assoc]
  rfl

theorem closes_ending (J : Judgement) (body : List Stmt) : J.Closes (ending body) := by
  have last : J.Closes (do
      let labelled ← hasLabels
      let info ← closeFunction 0
      return Code.mk info labelled body) := by
    refine J.closes_bind holds_hasLabels fun labelled => ?_
    exact J.closes_then (closes_closeFunction 0) fun info => holds_pure _
  refine J.closes_bind holds_token fun token => ?_
  dsimp only
  split
  · exact last
  · exact J.closes_bind (consumes_failExpected _).holds fun _ => last

/-- A script does not end before a token. -/
theorem run_ending {s : ReadState} (isToken : s.token ≠ .eof) (body : List Stmt) :
    ending body s = failExpected .eof s := by
  have isEnd : (s.token == Token.eof) = false := beq_eq_false_iff_ne.mpr isToken
  change (if s.token == .eof then _ else _ : Read Code) s = _
  rw [isEnd]
  rfl

/-- Where a script begins, there is no current token. -/
structure Starts (s : ReadState) : Prop where
  ends : EndsLine s.rest
  room : s.rest.length < s.size
  ahead : s.ahead = none

theorem continues_beginning (more : List UInt8) {s : ReadState} (starts : Starts s) :
    Continues more s.size s.left 0 (beginning s) (beginning (s.extend more)) := by
  obtain ⟨f, isModify⟩ : ∃ f, openBlock false = modifyScope f := ⟨_, rfl⟩
  have room : s.left < s.size := by
    simpa [ReadState.left, starts.ahead] using starts.room
  have noEnd : s.ahead ≠ some .eof := by simp [starts.ahead]
  have step := continues_advance more (s := { s with scope := f s.scope }) starts.ends
    room noEnd
  rw [beginning, isModify]
  exact step.bind (fun _ => (holds_reader (J := lengthening more) _).block _)
    (Nat.lt_succ_self _) (Nat.zero_le _)

/-- What becomes of a longer text if something is wrong with a text. -/
inductive Breaks (more : List UInt8) (trouble : Trouble) (t : ReadState) :
    EStateM.Result Trouble ReadState Code → Prop
  /-- The same is wrong with both. -/
  | same {u : ReadState} : ¬trouble.IsAtEnd → t.rest ≠ [] → Breaks more trouble t (.error trouble u)
  /-- The shorter text ends within a token. What was added may lead out of it. -/
  | inside {longer : EStateM.Result Trouble ReadState Code} : t.StopsInside trouble →
      (Lexer.GetsOut (t.extend more).next →
        ∃ trouble' u, longer = .error trouble' u ∧ ¬trouble'.IsAtEnd) →
      Breaks more trouble t longer
  /-- All of the shorter text has been read. -/
  | ended {longer : EStateM.Result Trouble ReadState Code} : t.rest = [] → ¬trouble.QuotesEnd →
      (more = openQuote → ∃ line u, longer = .error (.openQuote line) u) →
      Breaks more trouble t longer

/-- A script is not ended by an open quote. -/
theorem caught_script (more : List UInt8) {s : ReadState}
    (caught : (Trap.caught more).Catches (beginning s)) :
    ∃ trouble u, script s = .error trouble u ∧ ¬trouble.IsAtEnd := by
  rw [script_eq, run_bind]
  generalize beginning s = result at caught ⊢
  cases result with
  | ok body t =>
      dsimp only
      rw [run_ending caught.token]
      exact ⟨_, _, rfl, caught_error (α := Code) (.inr rfl) caught⟩
  | error trouble t => exact ⟨trouble, t, rfl, caught⟩

theorem breaks_script (more : List UInt8) {s t : ReadState} {trouble : Trouble} (starts : Starts s)
    (fails : script s = .error trouble t) : Breaks more trouble t (script (s.extend more)) := by
  have step := continues_beginning more starts
  have caught := caught_script more (s := s.extend more)
  rw [script_eq, run_bind] at fails caught ⊢
  generalize beginning s = first at fails step
  generalize beginning (s.extend more) = longer at step caught ⊢
  cases step with
  | same inside =>
      dsimp only at fails ⊢
      rw [run_ending inside.token] at fails
      rw [run_ending (s := ReadState.extend more _) inside.token]
      cases fails
      exact .same (Trouble.Fits.not_isAtEnd (.inr rfl) inside.token) inside.ends.ne_nil
  | failed notAtEnd unread =>
      cases fails
      exact .same notAtEnd unread
  | unfinished stops getsOut =>
      cases fails
      exact .inside stops fun out => caught (getsOut out)
  | finished ended goesOn =>
      have nothing : t.rest = [] ∧ ¬trouble.QuotesEnd := by
        cases first with
        | error trouble' t' =>
            cases fails
            exact ended
        | ok body t' =>
            have follows : Follows [] 0 0 _ _ := closes_ending (lengthening []) body 0
            have after := follows.ended t' ended
            dsimp only at fails
            rw [fails] at after
            exact after
      refine .ended nothing.1 nothing.2 fun isQuote => ?_
      obtain ⟨line, u, rfl⟩ := goesOn isQuote
      exact ⟨line, u, rfl⟩

/-- The same is wrong with all texts that go on like this one, or some line after it makes
something else wrong, but not at the end. -/
theorem script_goesOn {s t : ReadState} {trouble : Trouble} (starts : Starts s)
    (fails : script s = .error trouble t) :
    (¬trouble.IsAtEnd ∧ ∀ more, ∃ u, script (s.extend more) = .error trouble u) ∨
      (¬trouble.QuotesEnd ∧ ∃ line, IsLine line ∧ ∃ trouble' u,
        script (s.extend line) = .error trouble' u ∧ ¬trouble'.IsAtEnd ∧
          (¬trouble.IsOpen → ∃ n, trouble' = .openQuote n)) := by
  have breaks (more : List UInt8) := breaks_script more starts fails
  by_cases nothing : t.rest = []
  · have quoted := breaks openQuote
    generalize isLonger : script (s.extend openQuote) = longer at quoted
    cases quoted with
    | same _ unread => exact absurd nothing unread
    | inside stops => exact absurd nothing stops.ends.ne_nil
    | ended _ notQuoted goesOn =>
        obtain ⟨n, u, rfl⟩ := goesOn rfl
        exact .inr ⟨notQuoted, _, Lexer.isLine_openQuote, _, u, isLonger,
          Trouble.not_isAtEnd_openQuote n, fun _ => ⟨n, rfl⟩⟩
  by_cases atEnd : trouble.IsAtEnd
  · have stops : t.StopsInside trouble := by
      have here := breaks []
      generalize script (s.extend []) = longer at here
      cases here with
      | same notAtEnd => exact absurd atEnd notAtEnd
      | inside stops => exact stops
      | ended allRead => exact absurd allRead nothing
    obtain ⟨line, isLine, getsOut⟩ := stops.getsOut
    have out := breaks line
    generalize isLonger : script (s.extend line) = longer at out
    cases out with
    | same notAtEnd => exact absurd atEnd notAtEnd
    | ended allRead => exact absurd allRead nothing
    | inside stops goesOn =>
        obtain ⟨trouble', u, rfl, notAtEnd⟩ := goesOn getsOut
        exact .inr ⟨stops.isOpen.not_quotesEnd, line, isLine, trouble', u, isLonger, notAtEnd,
          fun notOpen => absurd stops.isOpen notOpen⟩
  · refine .inl ⟨atEnd, fun more => ?_⟩
    have same := breaks more
    generalize script (s.extend more) = longer at same ⊢
    cases same with
    | same => exact ⟨_, rfl⟩
    | inside stops => exact absurd stops.isOpen.isAtEnd atEnd
    | ended allRead => exact absurd allRead nothing

end Read

/-! ## Texts -/

variable {chunk bytes : Bytes} {depth : Nat} {trouble : Trouble}

theorem readScript_eq (chunk : Bytes) (depth : Nat) (bytes : Bytes) :
    readScript chunk depth bytes = match Read.script (.start chunk depth bytes) with
      | .ok code _ => .ok code
      | .error trouble _ => .error trouble := rfl

theorem ReadState.start_append (chunk : Bytes) (depth : Nat) (bytes more : Bytes) :
    start chunk depth (bytes ++ more) = (start chunk depth bytes).extend more.toList := by
  simp [start, extend, Nat.add_right_comm]

/-- The same is wrong with all texts that go on like this one, or some line after it makes
something else wrong, but not at the end. -/
theorem readScript_goesOn (ends : EndsLine bytes.toList)
    (fails : readScript chunk depth bytes = .error trouble) :
    (¬trouble.IsAtEnd ∧ ∀ more, readScript chunk depth (bytes ++ more) = .error trouble) ∨
      (¬trouble.QuotesEnd ∧ ∃ line : Bytes, IsLine line.toList ∧ ∃ trouble',
        readScript chunk depth (bytes ++ line) = .error trouble' ∧ ¬trouble'.IsAtEnd ∧
          (¬trouble.IsOpen → ∃ n, trouble' = .openQuote n)) := by
  have starts : Read.Starts (.start chunk depth bytes) := by
    refine ⟨ends, ?_, rfl⟩
    change bytes.toList.length < bytes.size + 2
    simp
  have longer {trouble : Trouble} {u : ReadState} (more : Bytes)
      (fails : Read.script ((ReadState.start chunk depth bytes).extend more.toList) =
        .error trouble u) : readScript chunk depth (bytes ++ more) = .error trouble := by
    rw [readScript_eq, ReadState.start_append, fails]
  rw [readScript_eq] at fails
  cases run : Read.script (.start chunk depth bytes) with
  | ok code t =>
      rw [run] at fails
      contradiction
  | error trouble' t =>
      rw [run] at fails
      cases fails
      obtain ⟨notAtEnd, same⟩ | ⟨notQuoted, line, isLine, trouble', u, fails, goesOn⟩ :=
        Read.script_goesOn starts run
      · refine .inl ⟨notAtEnd, fun more => ?_⟩
        obtain ⟨u, fails⟩ := same more.toList
        exact longer more fails
      · have isList : line.toByteArray.toList = line := by simp
        refine .inr ⟨notQuoted, line.toByteArray, isList.symm ▸ isLine, trouble', ?_, goesOn⟩
        exact longer line.toByteArray (isList.symm ▸ fails)

/-! ## Held texts -/

theorem isIncomplete_iff {source : String} :
    isIncomplete source = true ↔ isCompiled source.toUTF8 = false ∧
      ∃ trouble, readScript ByteArray.empty 0 source.toUTF8 = .error trouble ∧
        saysIncomplete (Utf8.lossy (trouble.message ByteArray.empty)) = true := by
  rw [isIncomplete]
  cases isCompiled source.toUTF8 with
  | true => simp
  | false => cases readScript ByteArray.empty 0 source.toUTF8 <;> simp

theorem saysIncomplete_iff {message : String} :
    saysIncomplete message = true ↔
      "<eof>".toList <:+ message.toList ∨ "'<eof>'".toList <:+ message.toList := by
  simp [saysIncomplete, ← String.endsWith_toSlice, String.Slice.endsWith_string_iff]

/-- An open quote is not held. -/
theorem not_saysIncomplete_openQuote (n : Nat) :
    saysIncomplete (Utf8.lossy ((Trouble.openQuote n).message ByteArray.empty)) = false := by
  have suffix : Near.suffix (.text (beforeZero (Lexer.reversed [0x22]))) =
      " near '".toUTF8 ++ [0x22, 0x27].toByteArray := by
    decide +kernel
  obtain ⟨front, isMessage⟩ : ∃ front,
      (Trouble.openQuote n).message ByteArray.empty = front ++ [0x22, 0x27].toByteArray := by
    rw [Trouble.openQuote, Trouble.message, suffix, ← ByteArray.append_assoc]
    exact ⟨_, rfl⟩
  have read : Utf8.chars .start (front.toList ++ [0x22, 0x27]) =
      Utf8.chars .start front.toList ++ ['"', Char.ofNat 0x27] :=
    have owes : Utf8.State.start.Owes := trivial
    Utf8.chars_append_small owes _ (by decide) _
  have shown : (Utf8.lossy ((Trouble.openQuote n).message ByteArray.empty)).toList =
      Utf8.chars .start front.toList ++ ['"', Char.ofNat 0x27] := by
    rw [isMessage, Utf8.lossy, String.toList_ofList, ← read]
    simp
  rw [Bool.eq_false_iff, ne_eq, saysIncomplete_iff, shown]
  rintro (⟨start, same⟩ | ⟨start, same⟩)
  · simpa using congrArg List.reverse same
  · simpa using congrArg List.reverse same

/-- Reading a text as `isIncomplete` does. -/
def reading (source : String) : Except Trouble Code :=
  readScript ByteArray.empty 0 source.toUTF8

/-- What is wrong with a text quotes the end of a text. -/
def quotesEnd (source : String) : Bool :=
  match reading source with
  | .ok _ => false
  | .error trouble => trouble.QuotesEnd

theorem quotesEnd_iff {source : String} :
    quotesEnd source = true ↔ ∃ trouble, reading source = .error trouble ∧ trouble.QuotesEnd := by
  rw [quotesEnd]
  cases reading source <;> simp

/-- The same is wrong with every text that begins with this one, and all of them are held. -/
structure Stuck (source : String) (trouble : Trouble) : Prop where
  notAtEnd : ¬trouble.IsAtEnd
  fails : ∀ more, reading (source ++ more) = .error trouble
  incomplete : ∀ more, isIncomplete (source ++ more) = true

/-- A line after the text makes something else wrong than its end. Unless the text ends
inside a string or a comment, the text is then not held any more. -/
structure Released (source : String) (trouble : Trouble) : Prop where
  notQuoted : ¬trouble.QuotesEnd
  released : ∃ (line : String) (trouble' : Trouble), '\n' ∉ line.toList ∧
    reading (source ++ (line ++ "\n")) = .error trouble' ∧ ¬trouble'.IsAtEnd ∧
      (¬trouble.IsOpen → isIncomplete (source ++ (line ++ "\n")) = false)

/-- The bytes of a line of plain characters are those of a text. -/
theorem exists_line {bytes : List UInt8} (isLine : IsLine bytes) :
    ∃ line : String, '\n' ∉ line.toList ∧ (line ++ "\n").toUTF8.toList = bytes := by
  suffices chars : ∃ line : List Char, '\n' ∉ line ∧ Utf8.encode (line ++ ['\n']) = bytes by
    obtain ⟨line, noBreak, encoded⟩ := chars
    refine ⟨String.ofList line, by simpa using noBreak, ?_⟩
    rw [Utf8.toList_toUTF8, String.toList_append, String.toList_ofList]
    exact encoded
  induction isLine with
  | lineFeed => exact ⟨[], List.not_mem_nil, rfl⟩
  | @cons b rest printable small _ ih =>
      have all : ∀ n : Fin 256, 0x20 ≤ UInt8.ofNat n → UInt8.ofNat n < 0x7F →
          '\n' ≠ Char.ofNat n ∧ String.utf8EncodeChar (Char.ofNat n) = [UInt8.ofNat n] := by
        decide +kernel
      have here := all ⟨b.toNat, b.toNat_lt⟩
      rw [UInt8.ofNat_toNat] at here
      obtain ⟨noBreak, encoded⟩ := here printable small
      obtain ⟨line, noBreaks, rfl⟩ := ih
      refine ⟨Char.ofNat b.toNat :: line, List.not_mem_cons_of_ne_of_not_mem noBreak noBreaks, ?_⟩
      rw [List.cons_append, Utf8.encode_cons, encoded]
      rfl

theorem endsLine_toUTF8 (text : String) : EndsLine (text ++ "\n").toUTF8.toList := by
  rw [Utf8.toList_toUTF8, String.toList_append, Utf8.encode_append]
  exact .of_append _

/-- What marks a compiled script stands in front. -/
theorem isCompiled_append (bytes more : Bytes) (begun : bytes.toList ≠ []) :
    isCompiled (bytes ++ more) = isCompiled bytes := by
  cases isList : bytes.toList with
  | nil => exact absurd isList begun
  | cons b rest =>
      have isLonger : (bytes ++ more).toList = b :: (rest ++ more.toList) := by
        rw [← List.cons_append, ← isList]
        simp
      rw [isCompiled, isCompiled, isLonger, isList]
      rfl

section

variable {text : String} (held : isIncomplete (text ++ "\n") = true)
include held

theorem not_isCompiled_of_held (more : String) :
    isCompiled (text ++ "\n" ++ more).toUTF8 = false := by
  have isBytes : (text ++ "\n" ++ more).toUTF8 = (text ++ "\n").toUTF8 ++ more.toUTF8 := by simp
  rw [isBytes, isCompiled_append _ _ (endsLine_toUTF8 text).ne_nil]
  exact (isIncomplete_iff.mp held).1

/-- The same trouble has the text held again. -/
theorem stuck_of_held {trouble : Trouble} (notAtEnd : ¬trouble.IsAtEnd)
    (fails : ∀ more, reading (text ++ "\n" ++ more) = .error trouble) :
    Stuck (text ++ "\n") trouble := by
  obtain ⟨-, trouble', fails', incomplete⟩ := isIncomplete_iff.mp held
  have same : reading (text ++ "\n" ++ "") = .error trouble' := by
    rw [String.append_empty]
    exact fails'
  rw [fails] at same
  cases same
  exact ⟨notAtEnd, fails, fun more => isIncomplete_iff.mpr
    ⟨not_isCompiled_of_held held more, trouble, fails more, incomplete⟩⟩

theorem stuck_or_released {trouble : Trouble} (fails : reading (text ++ "\n") = .error trouble) :
    Stuck (text ++ "\n") trouble ∨ Released (text ++ "\n") trouble := by
  have isBytes (more : String) :
      (text ++ "\n" ++ more).toUTF8 = (text ++ "\n").toUTF8 ++ more.toUTF8 := by simp
  obtain ⟨notAtEnd, same⟩ | ⟨notQuoted, bytes, isLine, trouble', fails', notAtEnd', released⟩ :=
    readScript_goesOn (endsLine_toUTF8 text) fails
  · refine .inl (stuck_of_held held notAtEnd fun more => ?_)
    rw [reading, isBytes]
    exact same more.toUTF8
  · obtain ⟨line, noBreak, isBytes'⟩ := exists_line isLine
    obtain rfl : (line ++ "\n").toUTF8 = bytes :=
      ByteArray.ext (Array.toList_inj.mp (by simpa using isBytes'))
    rw [← isBytes] at fails'
    refine .inr ⟨notQuoted, line, trouble', noBreak, fails', notAtEnd', fun notOpen => ?_⟩
    obtain ⟨n, rfl⟩ := released notOpen
    rw [Bool.eq_false_iff, ne_eq, isIncomplete_iff]
    rintro ⟨-, trouble, same, incomplete⟩
    rw [fails'] at same
    cases same
    rw [not_saysIncomplete_openQuote] at incomplete
    contradiction

end

end LuaSession.Syntax
